import ValueHistory.Service.Message
import ValueHistory.Settings.Error

/-! Which messages are recorded. Every kind of message has a filter of its own; an empty list of a
filter sets no condition.
-/

namespace ValueHistory

/-- The conditions on one kind of message. -/
structure Filter where
  enabled : Bool := true
  includeThings : List String := []
  excludeThings : List String := []
  includeNames : List String := []
  excludeNames : List String := []
  affordances : List Affordance := []
deriving DecidableEq, Repr

namespace Filter

/-- The filter that nothing passes. -/
def disabled : Filter := { enabled := false }

/-- The filter for actions of any Thing and name. -/
def actionsOnly : Filter := { affordances := [.action] }

/-- Whether a text is in a list or the list is empty. -/
def allows (list : List String) (text : String) : Bool :=
  list.isEmpty || list.contains text

/-- Whether a message passes. With a list of affordances, one of unknown kind does not. -/
def passes (filter : Filter) (message : Message) : Bool :=
  filter.enabled
    && !filter.excludeThings.contains message.thing && !filter.excludeNames.contains message.name
    && allows filter.includeThings message.thing && allows filter.includeNames message.name
    && (filter.affordances.isEmpty
      || (message.affordance?.map filter.affordances.contains).getD false)

/-- The errors of the empty texts in one list. -/
def emptyEntries (field : String) (list : List String) : List SettingError :=
  (list.zipIdx.filter fun entry => entry.1 = "").map fun entry =>
    { field := field ++ "[" ++ toString entry.2 ++ "]", message := "entry cannot be empty" }

/-- What is wrong with the filter, whose lists are named by their place in the settings. -/
def errors (filter : Filter) (place : String) : List SettingError :=
  emptyEntries (place ++ ".include_things") filter.includeThings
    ++ emptyEntries (place ++ ".exclude_things") filter.excludeThings
    ++ emptyEntries (place ++ ".include_names") filter.includeNames
    ++ emptyEntries (place ++ ".exclude_names") filter.excludeNames

end Filter

/-- The filters of both kinds of message. -/
structure Filters where
  notifications : Filter := {}
  requests : Filter := .actionsOnly
deriving DecidableEq, Repr

namespace Filters

/-- The filter for a kind of message. -/
def ofKind (filters : Filters) : MessageKind → Filter
  | .notification => filters.notifications
  | .request => filters.requests

/-- Whether a message passes the filter of its kind. -/
def passes (filters : Filters) (message : Message) : Bool :=
  (filters.ofKind message.kind).passes message

/-- What is wrong with the filters. -/
def errors (filters : Filters) : List SettingError :=
  filters.notifications.errors "filters.notifications"
    ++ filters.requests.errors "filters.requests"

end Filters

end ValueHistory
