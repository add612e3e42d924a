import ValueHistory.Proofs.Json.Records
import ValueHistory.Proofs.Wire.Notation
import ValueHistory.Wire.Envelope

/-! What is written on the wire is read as what it was: requests, responses, messages and
observations, and the envelopes that carry requests and messages.
-/

namespace ValueHistory

open Json (Document Mode)

-----------------------------------------------------------------------------------------
-- Times and free data
-----------------------------------------------------------------------------------------

section

variable {time : Timestamp} {json : Json}

theorem Timestamp.exists_string_of_toJson? (written : time.toJson? = some json)
    : ∃ text, Rfc3339.write? time = some text ∧ json = .string (String.ofList text) := by
  obtain ⟨text, noted, rfl⟩ := Option.map_eq_some_iff.mp written
  exact ⟨text, noted, rfl⟩

theorem Timestamp.ofDocument?_of_toJson? (written : time.toJson? = some json)
    : ofDocument? json.document = some time := by
  obtain ⟨text, noted, rfl⟩ := exists_string_of_toJson? written
  simp only [Json.document, ofDocument?, Document.text?, Option.bind_some, String.toList_ofList,
    Rfc3339.read?_of_write? noted]

theorem Timestamp.isReadable_of_toJson? (written : time.toJson? = some json) {room : Nat}
    : json.IsReadable room := by
  obtain ⟨text, _, rfl⟩ := exists_string_of_toJson? written
  exact Json.isReadable_string _

theorem Timestamp.ofField?_of_orNull? {time : Option Timestamp}
    (written : orNull? time = some json)
    : ofField? (some json.document) = some time := by
  cases time with
  | none =>
      cases written
      rfl
  | some time =>
      refine Json.orNull?_of_eq_some ?_ (ofDocument?_of_toJson? written)
      obtain ⟨text, _, rfl⟩ := exists_string_of_toJson? written
      nofun

theorem Timestamp.isReadable_of_orNull? {time : Option Timestamp}
    (written : orNull? time = some json) {room : Nat}
    : json.IsReadable room := by
  cases time with
  | none =>
      cases written
      exact Json.isReadable_null
  | some time => exact isReadable_of_toJson? written

end

/-- Data that is carried as it is: the members of its objects are in order, as every reader leaves
them (`isOrdered_of_toJson?`), its numbers read back, and it nests no deeper than 100 levels.
-/
structure Json.IsCarried (data : Json) : Prop where
  ordered : data.IsOrdered
  numbers : data.NumbersReadBack
  shallow : data.depth ≤ 100

theorem Json.IsCarried.isReadable {data : Json} (carried : data.IsCarried) : data.IsReadable 100 :=
  ⟨carried.numbers, carried.shallow⟩

theorem Json.IsCarried.ofField? {data : Json} (carried : data.IsCarried) {mode : Mode}
    (room : 100 ≤ mode.room)
    : Json.ofField? mode (some data.document) = some data := by
  have read := toJson?_document data carried.numbers (Nat.le_trans carried.shallow room)
  rw [sorted_of_isOrdered data carried.ordered] at read
  exact read

-----------------------------------------------------------------------------------------
-- Observations, messages and pages
-----------------------------------------------------------------------------------------

theorem Affordance.ofDocument?_toJson (mode : Mode) (affordance : Affordance)
    : ofDocument? mode affordance.toJson.document = some affordance :=
  ofExactName?_name affordance

theorem MessageKind.ofDocument?_toJson (mode : Mode) (kind : MessageKind)
    : ofDocument? mode kind.toJson.document = some kind := by
  cases kind <;> rfl

section

variable {mode : Mode} {json : Json}

theorem Observation.ofDocument?_of_toJson? {value : Observation} (carried : value.data.IsCarried)
    (room : 101 ≤ mode.room) (written : value.toJson? = some json)
    : ofDocument? mode json.document = some value := by
  obtain ⟨time, noted, rfl⟩ := Option.map_eq_some_iff.mp written
  have inside : 100 ≤ mode.inside.room := Nat.le_sub_of_add_le room
  rw [ofDocument?, Json.fields?_document]
  · simp only [List.map_cons, List.map_nil, Option.bind_eq_bind, Option.bind_some, Json.document,
      Document.text?, Affordance.ofDocument?_toJson, Timestamp.ofField?_of_orNull? noted,
      carried.ofField? inside]
  · rfl
  · decide

theorem Observation.isReadable_of_toJson? {value : Observation} (carried : value.data.IsCarried)
    (written : value.toJson? = some json)
    : json.IsReadable 101 := by
  obtain ⟨time, noted, rfl⟩ := Option.map_eq_some_iff.mp written
  have named := @Timestamp.isReadable_of_orNull? time value.time noted 100
  exact Json.isReadable_object (by simp [Affordance.toJson, named, carried.isReadable])

theorem Message.ofDocument?_of_toJson? {message : Message} (carried : message.data.IsCarried)
    (room : 101 ≤ mode.room) (written : message.toJson? = some json)
    : ofDocument? mode json.document = some message := by
  obtain ⟨time, noted, rfl⟩ := Option.map_eq_some_iff.mp written
  have inside : 100 ≤ mode.inside.room := Nat.le_sub_of_add_le room
  rw [ofDocument?, Json.fields?_document]
  · simp only [List.map_cons, List.map_nil, Option.bind_eq_bind, Option.bind_some, Json.document,
      Document.text?, MessageKind.ofDocument?_toJson, Timestamp.ofField?_of_orNull? noted,
      carried.ofField? inside]
  · rfl
  · decide

theorem Message.isReadable_of_toJson? {message : Message} (carried : message.data.IsCarried)
    (written : message.toJson? = some json)
    : json.IsReadable 101 := by
  obtain ⟨time, noted, rfl⟩ := Option.map_eq_some_iff.mp written
  have named := @Timestamp.isReadable_of_orNull? time message.time noted 100
  exact Json.isReadable_object (by simp [MessageKind.toJson, named, carried.isReadable])

theorem Page.ofDocument?_of_members? {page : Page} {members : List (String × Json)}
    (carried : ∀ value ∈ page.values, value.data.IsCarried) (room : 103 ≤ mode.room)
    (written : page.members? = some members)
    : ofDocument? mode (Json.object members).document = some page := by
  obtain ⟨items, listed, rfl⟩ := Option.map_eq_some_iff.mp written
  have inside : 101 ≤ mode.inside.inside.room := by
    simp only [Mode.inside]
    omega
  have values := Json.list?_document listed fun value member _ =>
    Observation.ofDocument?_of_toJson? (carried value member) inside
  rw [ofDocument?, Json.fields?_document]
  · simp only [List.map_cons, List.map_nil, Option.bind_some, ofFields?, values,
      Option.bind_eq_bind]
    rfl
  · rfl
  · decide

theorem Page.isReadable_of_members? {page : Page} {members : List (String × Json)}
    (carried : ∀ value ∈ page.values, value.data.IsCarried)
    (written : page.members? = some members)
    : ∀ member ∈ members, member.2.IsReadable 102 := by
  obtain ⟨items, listed, rfl⟩ := Option.map_eq_some_iff.mp written
  have each : ∀ item ∈ items, item.IsReadable 101 := by
    intro item member
    obtain ⟨value, inPage, noted⟩ := Json.exists_of_mem_mapM listed item member
    exact Observation.isReadable_of_toJson? (carried value inPage) noted
  simp [Json.isReadable_array each]

end

-----------------------------------------------------------------------------------------
-- Requests
-----------------------------------------------------------------------------------------

namespace Request

/-- The numbers of a request are integers of 64 bits with a sign. -/
def Fits : Request → Prop
  | onCursor _ (.page _ _ limit) => Decimal.fitsInteger64 limit = true
  | read _ _ _ seconds limit =>
    Decimal.fitsInteger64 seconds = true ∧ Decimal.fitsInteger64 limit = true
  | _ => True

theorem nameOf?_ofText? (name : Option String)
    : nameOf? (some (Json.ofText? name).document) = some name := by
  cases name <;> rfl

theorem numberOf?_ofInt {value : Int} (fits : Decimal.fitsInteger64 value = true)
    : numberOf? (some (Json.ofInt value).document) = some value := by
  obtain ⟨numeral, known, read⟩ :=
    Option.bind_eq_some_iff.mp (@Json.isReadable_ofInt 0 value fits).numbers
  simp only [Json.ofInt, Json.document, known, Option.map_some, Option.getD_some, numberOf?,
    Document.signed?, Document.integer?, read, Option.filter, fits, if_true]

/-- A request is read as its operation reads the fields beside the tag. -/
theorem ofDocument?_of_ofFields? {operation : String} {members : List (String × Json)}
    {request : Request} {mode : Mode} (known : operation ∈ operations)
    (apart : "op" ∉ members.map Prod.fst)
    (readable : (Json.object (("op", .string operation) :: members)).IsReadable 1)
    (read : ofFields? operation (Json.object members).document = some request)
    : ofDocument? mode (Json.object (("op", .string operation) :: members)).document
      = some request := by
  rw [ofDocument?, Json.tagged?_document mode known apart (readable.mono (by decide))]
  exact read

theorem readCall?_document (call : CursorCall) (key : String)
    : readCall? call (Json.object [("cursor_key", .string key)]).document
      = some (.onCursor key call) := by
  rw [readCall?, Json.fields?_document]
  · rfl
  · rfl
  · decide

theorem readPage?_document (direction : Direction) (key : String) {bound : Timestamp}
    {json : Json} (written : bound.toJson? = some json) {limit : Int}
    (fits : Decimal.fitsInteger64 limit = true)
    : readPage? direction
        (Json.object
          [("cursor_key", .string key), ("until", json), ("limit", .ofInt limit)]).document
      = some (.onCursor key (.page direction bound limit)) := by
  rw [readPage?, Json.fields?_document]
  · simp only [List.map_cons, List.map_nil, Option.bind_eq_bind, Option.bind_some, Json.document,
      Document.text?, Timestamp.ofDocument?_of_toJson? written, numberOf?_ofInt fits]
  · rfl
  · decide

theorem readSeek?_document (key : String) {time : Timestamp} {json : Json}
    (written : time.toJson? = some json)
    : readSeek? (Json.object [("cursor_key", .string key), ("timestamp", json)]).document
      = some (.onCursor key (.seek time)) := by
  rw [readSeek?, Json.fields?_document]
  · simp only [List.map_cons, List.map_nil, Option.bind_eq_bind, Option.bind_some, Json.document,
      Document.text?, Timestamp.ofDocument?_of_toJson? written]
  · rfl
  · decide

theorem readCreate?_document (thing : String) (name : Option String)
    : readCreate? (Json.object [("thing_id", .string thing), ("name", .ofText? name)]).document
      = some (.create thing name) := by
  rw [readCreate?, Json.fields?_document]
  · simp only [List.map_cons, List.map_nil, Option.bind_eq_bind, Option.bind_some, Json.document,
      Document.text?, nameOf?_ofText?]
  · rfl
  · decide

theorem readRange?_document (thing : String) (name : Option String) {start : Timestamp}
    {json : Json} (written : start.toJson? = some json) {seconds limit : Int}
    (fits : (read thing name start seconds limit).Fits)
    : readRange?
        (Json.object
          [ ("thing_id", .string thing), ("name", .ofText? name), ("timestamp", json)
          , ("duration_secs", .ofInt seconds), ("limit", .ofInt limit) ]).document
      = some (.read thing name start seconds limit) := by
  rw [readRange?, Json.fields?_document]
  · simp only [List.map_cons, List.map_nil, Option.bind_eq_bind, Option.bind_some, Json.document,
      Document.text?, nameOf?_ofText?, Timestamp.ofDocument?_of_toJson? written,
      numberOf?_ofInt fits.1, numberOf?_ofInt fits.2]
  · rfl
  · decide

theorem isReadable_of_toJson? {request : Request} {json : Json} (fits : request.Fits)
    (written : request.toJson? = some json)
    : json.IsReadable 1 := by
  have call (operation key : String) (more : List (String × Json))
      (each : ∀ member ∈ more, member.2.IsReadable 0)
      : (Json.object (callMembers operation key ++ more)).IsReadable 1 :=
    Json.isReadable_object (by simpa [callMembers] using each)
  cases request with
  | create thing name =>
      cases written
      exact Json.isReadable_object (by simp)
  | onCursor key called =>
      cases called with
      | page direction bound limit =>
          obtain ⟨json, noted, rfl⟩ := Option.map_eq_some_iff.mp written
          exact call _ key _ (by
            simp [Timestamp.isReadable_of_toJson? noted, Json.isReadable_ofInt fits])
      | seek time =>
          obtain ⟨json, noted, rfl⟩ := Option.map_eq_some_iff.mp written
          exact call _ key _ (by simp [Timestamp.isReadable_of_toJson? noted])
      | _ =>
          cases written
          exact call _ key [] (by simp)
  | read thing name start seconds limit =>
      obtain ⟨json, noted, rfl⟩ := Option.map_eq_some_iff.mp written
      exact Json.isReadable_object (by
        simp [Timestamp.isReadable_of_toJson? noted, Json.isReadable_ofInt fits.1,
          Json.isReadable_ofInt fits.2])

/-- A request that is written is read, by cases on what it asks for. -/
theorem ofDocument?_of_toJson? {request : Request} {json : Json} {mode : Mode}
    (fits : request.Fits) (written : request.toJson? = some json)
    : ofDocument? mode json.document = some request := by
  have readable := isReadable_of_toJson? fits written
  cases request with
  | create thing name =>
      cases written
      exact ofDocument?_of_ofFields? (by decide) (by simp) readable
        (readCreate?_document thing name)
  | onCursor key called =>
      cases called with
      | page direction bound limit =>
          obtain ⟨json, noted, rfl⟩ := Option.map_eq_some_iff.mp written
          cases direction <;>
            exact ofDocument?_of_ofFields? (by decide) (by simp) readable
              (readPage?_document _ key noted fits)
      | seek time =>
          obtain ⟨json, noted, rfl⟩ := Option.map_eq_some_iff.mp written
          exact ofDocument?_of_ofFields? (by decide) (by simp) readable
            (readSeek?_document key noted)
      | _ =>
          cases written
          exact ofDocument?_of_ofFields? (by decide) (by simp) readable
            (readCall?_document _ key)
  | read thing name start seconds limit =>
      obtain ⟨json, noted, rfl⟩ := Option.map_eq_some_iff.mp written
      exact ofDocument?_of_ofFields? (by decide) (by simp) readable
        (readRange?_document thing name noted fits)

end Request

-----------------------------------------------------------------------------------------
-- Responses
-----------------------------------------------------------------------------------------

section

variable {json : Json}

theorem Observation.orNull?_of_orNull? {found : Option Observation} {mode : Mode}
    (carried : ∀ value ∈ found.toList, value.data.IsCarried) (room : 101 ≤ mode.room)
    (written : orNull? found = some json)
    : json.document.orNull? (ofDocument? mode) = some found := by
  cases found with
  | none =>
      cases written
      rfl
  | some value =>
      have read :=
        ofDocument?_of_toJson? (carried value (List.mem_singleton.mpr rfl)) room written
      refine Json.orNull?_of_eq_some ?_ read
      obtain ⟨time, _, rfl⟩ := Option.map_eq_some_iff.mp written
      nofun

theorem Observation.isReadable_of_orNull? {found : Option Observation}
    (carried : ∀ value ∈ found.toList, value.data.IsCarried)
    (written : orNull? found = some json)
    : json.IsReadable 101 := by
  cases found with
  | none =>
      cases written
      exact Json.isReadable_null
  | some value => exact isReadable_of_toJson? (carried value (List.mem_singleton.mpr rfl)) written

end

namespace Response

/-- A response is read as its kind reads the fields beside the tag. -/
theorem ofDocument?_of_ofFields? {status : String} {members : List (String × Json)}
    {response : Response} {mode : Mode} (known : status ∈ statuses)
    (apart : "status" ∉ members.map Prod.fst)
    (readable : (Json.object (("status", .string status) :: members)).IsReadable 103)
    (read : ofFields? { mode with emptyIsNull := true } status (Json.object members).document
      = some response)
    : ofDocument? mode (Json.object (("status", .string status) :: members)).document
      = some response := by
  rw [ofDocument?, Json.tagged?_document mode known apart (readable.mono (by decide))]
  exact read

theorem readText?_document (field text : String)
    : readText? field (Json.object [(field, .string text)]).document = some text := by
  rw [readText?, Json.fields?_document]
  · rfl
  · rfl
  · simp

theorem readValue?_document {mode : Mode} {found : Option Observation} {json : Json}
    (carried : ∀ value ∈ found.toList, value.data.IsCarried) (room : 102 ≤ mode.room)
    (written : Observation.orNull? found = some json) (valid : Bool)
    : readValue? mode (Json.object [("value", json), ("valid", .bool valid)]).document
      = some (.value found valid) := by
  have inside : 101 ≤ mode.inside.room := Nat.le_sub_of_add_le room
  rw [readValue?, Json.fields?_document]
  · simp only [List.map_cons, List.map_nil, Option.bind_eq_bind, Option.bind_some, Json.document,
      Observation.orNull?_of_orNull? carried inside written, Document.truth?]
  · rfl
  · decide

theorem isReadable_of_toJson? {response : Response} {json : Json}
    (carried : ∀ value ∈ response.values, value.data.IsCarried)
    (written : response.toJson? = some json)
    : json.IsReadable 103 := by
  cases response with
  | value found valid =>
      obtain ⟨json, noted, rfl⟩ := Option.map_eq_some_iff.mp written
      have inside := (Observation.isReadable_of_orNull? carried noted).mono (Nat.le_succ 101)
      exact Json.isReadable_object (by simp [inside])
  | page content =>
      obtain ⟨members, noted, rfl⟩ := Option.map_eq_some_iff.mp written
      have inside := Page.isReadable_of_members? carried noted
      exact Json.isReadable_object (by simpa using inside)
  | _ =>
      cases written
      exact Json.isReadable_object (by simp)

/-- A response that is written is read, by cases on the kind of answer. -/
theorem ofDocument?_of_toJson? {response : Response} {json : Json} {mode : Mode}
    (carried : ∀ value ∈ response.values, value.data.IsCarried) (room : 103 ≤ mode.room)
    (written : response.toJson? = some json)
    : ofDocument? mode json.document = some response := by
  have readable := isReadable_of_toJson? carried written
  have roomBelow : 103 ≤ ({ mode with emptyIsNull := true } : Mode).room := room
  cases response with
  | cursor key =>
      cases written
      refine ofDocument?_of_ofFields? (by decide) (by simp) readable ?_
      exact congrArg (Option.map Response.cursor) (readText?_document "cursor_key" key)
  | value found valid =>
      obtain ⟨json, noted, rfl⟩ := Option.map_eq_some_iff.mp written
      exact ofDocument?_of_ofFields? (by decide) (by simp) readable
        (readValue?_document carried (Nat.le_of_succ_le roomBelow) noted valid)
  | page content =>
      obtain ⟨members, noted, rfl⟩ := Option.map_eq_some_iff.mp written
      have apart : "status" ∉ members.map Prod.fst := by
        obtain ⟨items, _, rfl⟩ := Option.map_eq_some_iff.mp noted
        simp
      refine ofDocument?_of_ofFields? (by decide) apart readable ?_
      exact congrArg (Option.map Response.page)
        (Page.ofDocument?_of_members? carried roomBelow noted)
  | released =>
      cases written
      exact ofDocument?_of_ofFields? (by decide) (by simp) readable rfl
  | error message =>
      cases written
      refine ofDocument?_of_ofFields? (by decide) (by simp) readable ?_
      exact congrArg (Option.map Response.error) (readText?_document "message" message)

end Response

-----------------------------------------------------------------------------------------
-- Envelopes
-----------------------------------------------------------------------------------------

namespace Envelope

/-- The line of a client and its request. -/
def queryLine (client : String) (request : Json) : List Char :=
  (Json.object [("client_id", .string client), ("request", request)]).render

/-- The line of a message to publish. -/
def publishLine (message : Json) : List Char :=
  (Json.object [("publish", message)]).render

/-- The notation of a value is read as the envelope that its document is. -/
theorem read_render {value : Json} (readable : value.IsReadable Json.maxDepth)
    {envelope : Envelope} (known : ofDocument? value.document = some envelope)
    : read value.render = .ok envelope := by
  have text := Json.readFirst?_render readable.numbers Json.stops_nil
  rw [List.append_nil] at text
  simp only [read, text, readable.isSound, known]
  rfl

theorem read_queryLine (client : String) {request : Request} {json : Json} (fits : request.Fits)
    (written : request.toJson? = some json)
    : read (queryLine client json) = .ok (.query client request) := by
  have inside := Request.isReadable_of_toJson? fits written
  have line : (Json.object [("client_id", .string client), ("request", json)]).IsReadable 2 :=
    Json.isReadable_object (by simp [inside])
  refine read_render (line.mono (by decide)) ?_
  have query : readQuery?
      (Json.object [("client_id", .string client), ("request", json)]).document
      = some (.query client request) := by
    rw [readQuery?, Json.fields?_document]
    · simp only [List.map_cons, List.map_nil, Option.bind_eq_bind, Option.bind_some,
        Json.document, Document.text?, Request.ofDocument?_of_toJson? fits written]
    · rfl
    · decide
  exact congrArg (· <|> _) query

theorem read_publishLine {message : Message} {json : Json} (carried : message.data.IsCarried)
    (written : message.toJson? = some json)
    : read (publishLine json) = .ok (.publish message) := by
  have inside := Message.isReadable_of_toJson? carried written
  have line : (Json.object [("publish", json)]).IsReadable 102 :=
    Json.isReadable_object (by simp [inside])
  refine read_render (line.mono (by decide)) ?_
  have noQuery : readQuery? (Json.object [("publish", json)]).document = none := rfl
  have publish : readPublish? (Json.object [("publish", json)]).document
      = some (.publish message) := by
    rw [readPublish?, Json.fields?_document]
    · simp only [List.map_cons, List.map_nil, Option.bind_eq_bind, Option.bind_some,
        @Message.ofDocument?_of_toJson? mode.inside json message carried (by decide) written]
      rfl
    · rfl
    · decide
  simp only [Json.document] at noQuery publish ⊢
  rw [ofDocument?, noQuery, publish]
  rfl

end Envelope

-----------------------------------------------------------------------------------------
-- All that is written
-----------------------------------------------------------------------------------------

/-- Reads a text that is one document by a reader of documents. -/
def Json.Document.parse? {α : Type} (read : Document → Option α) (text : List Char) : Option α :=
  (Document.read? text).bind read

theorem Json.IsReadable.parse?_render {α : Type} {read : Document → Option α} {value : α}
    {room : Nat} {json : Json} (readable : json.IsReadable room)
    (known : read json.document = some value)
    : Document.parse? read json.render = some value := by
  rw [Document.parse?, read?_render readable.numbers, Option.bind_some, known]

/-- What has a notation is read from it as it was: requests, responses, messages and observations,
whatever texts and times are in them. A request reads back also from the line of its client, and a
message from the line that publishes it, neither as the other kind. Integers of requests have 64
bits, and all data is such that it can be carried. Witness: a readable document is read back as
itself, and each record from the members that it writes.
-/
theorem read_as_written
    : (∀ {request : Request} {json : Json},
        request.Fits
        → request.toJson? = some json
        → Document.parse? (Request.ofDocument? {}) json.render = some request
          ∧ ∀ client, Envelope.read (Envelope.queryLine client json) = .ok (.query client request))
      ∧ (∀ {response : Response} {json : Json},
        (∀ value ∈ response.values, value.data.IsCarried)
        → response.toJson? = some json
        → Document.parse? (Response.ofDocument? {}) json.render = some response)
      ∧ (∀ {message : Message} {json : Json},
        message.data.IsCarried
        → message.toJson? = some json
        → Document.parse? (Message.ofDocument? {}) json.render = some message
          ∧ Envelope.read (Envelope.publishLine json) = .ok (.publish message))
      ∧ ∀ {value : Observation} {json : Json},
        value.data.IsCarried
        → value.toJson? = some json
        → Document.parse? (Observation.ofDocument? {}) json.render = some value := by
  refine ⟨?_, ?_, ?_, ?_⟩
  · intro request json fits written
    have read := @Request.ofDocument?_of_toJson? request json {} fits written
    exact ⟨(Request.isReadable_of_toJson? fits written).parse?_render read,
      fun client => Envelope.read_queryLine client fits written⟩
  · intro response json carried written
    have read := @Response.ofDocument?_of_toJson? response json {} carried (by decide) written
    exact (Response.isReadable_of_toJson? carried written).parse?_render read
  · intro message json carried written
    have read := @Message.ofDocument?_of_toJson? {} json message carried (by decide) written
    exact ⟨(Message.isReadable_of_toJson? carried written).parse?_render read,
      Envelope.read_publishLine carried written⟩
  · intro value json carried written
    have read := @Observation.ofDocument?_of_toJson? {} json value carried (by decide) written
    exact (Observation.isReadable_of_toJson? carried written).parse?_render read

/-- What a lamp tells of itself: how bright it is, no colour, and what was noted on it. -/
def Json.lampState : Json :=
  .object
    [ ("bright", .number (.real ⟨false, 6051711999279104, -48⟩)), ("color", .null)
    , ("notes", .array [.string "dim\nfrom 8 \"pm\"", .ofInt (-3)]) ]

theorem Json.isCarried_lampState : lampState.IsCarried where
  ordered := ⟨by decide, trivial, trivial, ⟨trivial, trivial, trivial⟩, trivial⟩
  numbers :=
    ⟨by unfold NumbersReadBack Number.ReadsBack; decide +kernel, trivial,
      ⟨trivial, readsBack_integer (by decide), trivial⟩, trivial⟩
  shallow := by decide

/-- A second and a half and a nanosecond of 1970, on a clock that is two hours ahead. -/
def Timestamp.lampSet : Timestamp := ⟨1500000001, 7200, by decide, by decide⟩

/-- The state of the lamp, with a time. -/
def Observation.lampState : Observation :=
  { thing := "lamp", name := "state", affordance := .event, sender := "switch"
    time := some .lampSet, data := .lampState }

/-- The state of the lamp, without a time. -/
def Message.lampState : Message :=
  { kind := .notification, thing := "lamp", name := "state", affordanceName := "Event"
    sender := "switch", time := none, data := .lampState }

/-- The state of the lamp and a request for it are read as they were written. -/
theorem lamp_read_as_written
    : ∃ request response message value,
        (Request.read "lamp" none .lampSet 3600 (-1)).toJson? = some request
        ∧ Document.parse? (Request.ofDocument? {}) request.render
          = some (.read "lamp" none .lampSet 3600 (-1))
        ∧ Envelope.read (Envelope.queryLine "panel" request)
          = .ok (.query "panel" (.read "lamp" none .lampSet 3600 (-1)))
        ∧ (Response.page ⟨[.lampState], true⟩).toJson? = some response
        ∧ Document.parse? (Response.ofDocument? {}) response.render
          = some (.page ⟨[.lampState], true⟩)
        ∧ Message.lampState.toJson? = some message
        ∧ Document.parse? (Message.ofDocument? {}) message.render = some .lampState
        ∧ Envelope.read (Envelope.publishLine message) = .ok (.publish .lampState)
        ∧ Observation.lampState.toJson? = some value
        ∧ Document.parse? (Observation.ofDocument? {}) value.render = some .lampState := by
  obtain ⟨requests, responses, messages, values⟩ := read_as_written
  have request := @requests (.read "lamp" none .lampSet 3600 (-1)) _ ⟨by decide, by decide⟩ rfl
  have response := @responses (.page ⟨[.lampState], true⟩) _
    (fun _ member => List.mem_singleton.mp member ▸ Json.isCarried_lampState) rfl
  have message := @messages .lampState _ Json.isCarried_lampState rfl
  have value := @values .lampState _ Json.isCarried_lampState rfl
  exact ⟨_, _, _, _, rfl, request.1, request.2 "panel", rfl, response, rfl, message.1, message.2,
    rfl, value⟩

end ValueHistory
