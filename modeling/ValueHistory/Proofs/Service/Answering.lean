import ValueHistory.Proofs.Json.Lines
import ValueHistory.Proofs.Service.Interleaving

/-! Sessions answer each line on its own. The course of a session tells, line by line, what is
answered and what is left: requests are dispatched, messages go to the recorder, and the workers
make their steps meanwhile. Over recorded entries every response has a notation, so that a session
writes one line for each query and for each line that is no envelope, in their order, and nothing
for messages and blank lines.
-/

namespace ValueHistory

namespace Session

-----------------------------------------------------------------------------------------
-- Texts as lines
-----------------------------------------------------------------------------------------

/-- Texts as lines, each with its line feed. -/
def unlines (texts : List String) : Bytes :=
  texts.flatMap fun text => Bytes.ofString text ++ [10]

theorem lines_append {bytes : Bytes} (plain : 10 ∉ bytes) (rest : Bytes)
    : lines (bytes ++ 10 :: rest) = bytes :: lines rest := by
  induction bytes with
  | nil => simp [lines]
  | cons byte bytes ih =>
      rw [List.mem_cons, not_or] at plain
      rw [List.cons_append, lines, if_neg (Ne.symm plain.1), ih plain.2]

theorem lines_unlines {texts : List String} (plain : ∀ text ∈ texts, '\n' ∉ text.toList)
    : lines (unlines texts) = texts.map Bytes.ofString := by
  induction texts with
  | nil => rfl
  | cons text texts ih =>
      have own := Bytes.lineFeed_notMem_ofString (plain text List.mem_cons_self)
      rw [String.ofList_toList] at own
      have rest := ih fun other member => plain other (List.mem_cons_of_mem text member)
      rw [unlines] at rest
      rw [unlines, List.flatMap_cons, List.append_assoc, List.singleton_append,
        lines_append own, rest, List.map_cons]

theorem map_eq_map_some_filterMap {α β : Type} {f : α → Option β} {list : List α}
    (defined : ∀ a ∈ list, ∃ b, f a = some b)
    : list.map f = (list.filterMap f).map some := by
  induction list with
  | nil => rfl
  | cons a list ih =>
      obtain ⟨b, same⟩ := defined a List.mem_cons_self
      rw [List.map_cons, ih fun other member => defined other (List.mem_cons_of_mem a member),
        List.filterMap_cons_some same, List.map_cons, same]

/-- What a session writes for its responses. -/
def written (responses : List Response) : Bytes :=
  unlines ((responses.filterMap Response.toJson?).map Json.compact)

-----------------------------------------------------------------------------------------
-- What becomes of a line
-----------------------------------------------------------------------------------------

/-- What a line is answered with, and what it leaves. Nothing is due for a blank line, and it leaves
all as it is. Neither is for a message, which goes to the recorder. A query gets the response to its
request, with what the request sees meanwhile, and leaves what the request leaves. Any other line
gets an error and leaves all as it is.
-/
inductive Treats (complaint : List Char → String) (session : Session) (moment : Moment)
    (meanwhile : Meanwhile) (text : String)
    : Option Response → Session → Prop where
  | blank (empty : Text.trim text.toList = [])
    : Treats complaint session moment meanwhile text none session
  | publish {message : Message}
      (read : Envelope.read (Text.trim text.toList) = .ok (.publish message))
    : Treats complaint session moment meanwhile text none
        { session with recorder := (session.recorder.submit message).2 }
  | query {client : String} {request : Request} {view : View}
      (read : Envelope.read (Text.trim text.toList) = .ok (.query client request))
      (shows : session.Shows meanwhile view)
    : Treats complaint session moment meanwhile text
        (some (session.history.dispatch moment client request view).1)
        { session with history := (session.history.dispatch moment client request view).2 }
  | notJson (filled : Text.trim text.toList ≠ [])
      (read : Envelope.read (Text.trim text.toList) = .error .notJson)
    : Treats complaint session moment meanwhile text
        (some (.error ("malformed request: " ++ complaint (Text.trim text.toList)))) session
  | notEnvelope (read : Envelope.read (Text.trim text.toList) = .error .notEnvelope)
    : Treats complaint session moment meanwhile text
        (some
          (.error
            "malformed request: data did not match any variant of untagged enum Envelope"))
        session

/-- The course of a session over lines: what each of them is answered with, and what is left in the
end. The workers go on after each line from what it has left.
-/
inductive Course (complaint : List Char → String) (clock : Nat → Moment)
    (schedule : Nat → Meanwhile)
    : Nat → Session → List String → List (Option Response) → Session → Prop where
  | done {number : Nat} {session : Session}
    : Course complaint clock schedule number session [] [] session
  | line {number : Nat} {session left next final : Session} {text : String} {texts : List String}
      {answer : Option Response} {answers : List (Option Response)}
      (treats : Treats complaint session (clock number) (schedule number) text answer left)
      (working : Working left (schedule number).steps next)
      (later : Course complaint clock schedule (number + 1) next texts answers final)
    : Course complaint clock schedule number session (text :: texts) (answer :: answers) final

variable {complaint : List Char → String} {session left other final otherFinal : Session}
  {moment : Moment} {meanwhile : Meanwhile} {text : String} {answer otherAnswer : Option Response}
  {clock : Nat → Moment} {schedule : Nat → Meanwhile} {number : Nat} {texts : List String}
  {answers otherAnswers : List (Option Response)}

theorem line_treats (complaint : List Char → String) (session : Session) (moment : Moment)
    (meanwhile : Meanwhile) (text : String)
    : Treats complaint session moment meanwhile text
        (session.line complaint moment text (session.view meanwhile)).1
        (session.line complaint moment text (session.view meanwhile)).2 := by
  unfold line
  dsimp only
  split
  · next empty => exact .blank (List.isEmpty_iff.mp empty)
  · next filled =>
      split
      · next cause read =>
          cases cause with
          | notJson => exact .notJson (fun empty => filled (List.isEmpty_iff.mpr empty)) read
          | notEnvelope => exact .notEnvelope read
      · next read => exact .query read (session.shows_view meanwhile)
      · next read => exact .publish read

/-- What becomes of a line is what `line` makes of it. -/
theorem Treats.eq_line (treats : Treats complaint session moment meanwhile text answer left)
    : (answer, left) = session.line complaint moment text (session.view meanwhile) := by
  have filled (document : Envelope.read (Text.trim text.toList) ≠ .error .notJson)
      : Text.trim text.toList ≠ [] := by
    intro empty
    rw [empty] at document
    exact document rfl
  unfold line
  cases treats with
  | blank empty => simp only [empty, List.isEmpty_nil, if_true]
  | publish read => simp [filled (by simp [read]), read]
  | query read shows =>
      have same := (shows.agree (session.shows_view meanwhile)).dispatch moment
      simp [filled (by simp [read]), read, same]
  | notJson filled read => simp [filled, read, malformed, Malformed.message]
  | notEnvelope read => simp [filled (by simp [read]), read, malformed, Malformed.message]

/-- A line is answered with one thing and leaves one session. -/
theorem Treats.unique (treats : Treats complaint session moment meanwhile text answer left)
    (again : Treats complaint session moment meanwhile text otherAnswer other)
    : answer = otherAnswer ∧ left = other :=
  Prod.mk.inj (treats.eq_line.trans again.eq_line.symm)

/-- A query that is answered before the first step of a worker gets the response to its request from
what the lines before it have left.
-/
theorem Treats.eq_dispatch (treats : Treats complaint session moment meanwhile text answer left)
    {client : String} {request : Request}
    (read : Envelope.read (Text.trim text.toList) = .ok (.query client request))
    (ahead : meanwhile.first.ends = 0) (aheadToo : meanwhile.second.ends = 0)
    : answer = some (session.history.dispatch moment client request).1
      ∧ left = { session with history := (session.history.dispatch moment client request).2 } :=
  treats.unique (.query read (shows_still ahead aheadToo))

/-- A session has one course, by induction on the lines. -/
theorem Course.unique (course : Course complaint clock schedule number session texts answers final)
    (again : Course complaint clock schedule number session texts otherAnswers otherFinal)
    : answers = otherAnswers ∧ final = otherFinal := by
  induction course generalizing otherAnswers with
  | done =>
      cases again
      exact ⟨rfl, rfl⟩
  | line treats working _ ih =>
      cases again with
      | line treatsToo workingToo laterToo =>
          obtain ⟨rfl, rfl⟩ := treats.unique treatsToo
          cases working.unique workingToo
          obtain ⟨rfl, rfl⟩ := ih laterToo
          exact ⟨rfl, rfl⟩

-----------------------------------------------------------------------------------------
-- All lines are answered
-----------------------------------------------------------------------------------------

/-- A line leaves recorded entries, and its response has a notation. -/
theorem Treats.recorded (treats : Treats complaint session moment meanwhile text answer left)
    (recorded : session.history.Recorded)
    : left.history.Recorded
      ∧ ∀ response, answer = some response → ∃ json, response.toJson? = some json := by
  cases treats with
  | blank _ | publish _ => exact ⟨recorded, by simp⟩
  | notJson _ _ | notEnvelope _ =>
      refine ⟨recorded, ?_⟩
      rintro _ ⟨⟩
      exact ⟨_, rfl⟩
  | @query client request view _ shows =>
      constructor
      · intro thing
        rw [History.dispatch_snd, History.bucket_execute]
        exact recorded thing
      · rintro _ ⟨⟩
        rw [(shows.agree (session.shows_view meanwhile)).dispatch]
        exact recorded.exists_toJson?_dispatch (recorded_view recorded meanwhile) ..

/-- A session goes through all lines, and its responses are the answers to them, by induction on the
lines.
-/
theorem run_course (recorded : session.history.Recorded) (complaint : List Char → String)
    (clock : Nat → Moment) (schedule : Nat → Meanwhile) (number : Nat) {lines : List Bytes}
    {texts : List String} (spelled : lines.map Bytes.toString? = texts.map some)
    : ∃ answers final,
        Course complaint clock schedule number session texts answers final
        ∧ (∀ response, some response ∈ answers → ∃ json, response.toJson? = some json)
        ∧ session.run complaint clock schedule number lines
          = (answers.filterMap id, true, final) := by
  induction texts generalizing session number lines with
  | nil =>
      obtain rfl : lines = [] := by simpa using spelled
      exact ⟨[], session, .done, by simp, rfl⟩
  | cons text texts ih =>
      cases lines with
      | nil => cases spelled
      | cons bytes lines =>
          obtain ⟨spelled, later⟩ := List.cons.inj spelled
          have treats :=
            line_treats complaint session (clock number) (schedule number) text
          obtain ⟨after, noted⟩ := treats.recorded recorded
          rw [run, spelled]
          dsimp only
          generalize session.line complaint (clock number) text (session.view (schedule number))
            = treated at treats after noted
          obtain ⟨answer, left⟩ := treated
          have working := working_work left (schedule number).steps
          obtain ⟨answers, final, course, shown, ran⟩ :=
            ih (working.recorded after) (number + 1) later
          refine ⟨answer :: answers, final, .line treats working course, ?_, ?_⟩
          · intro response member
            rcases List.mem_cons.mp member with same | member
            · exact noted response same.symm
            · exact shown response member
          · dsimp only
            rw [ran]
            cases answer <;> simp

/-- A session over recorded entries goes through all lines of an input, whatever they are. Each line
is answered from what the lines before it and the workers' steps have left, and leaves what it
leaves; every response has a notation, and what the session writes is these notations and nothing
else, a line for each of them, in the order of the lines that they answer. Witness: induction on the
lines, where a step of a worker and a line leave recorded entries.
-/
theorem each_line_answered (recorded : session.history.Recorded) (complaint : List Char → String)
    (clock : Nat → Moment) (schedule : Nat → Meanwhile) {input : Bytes} {texts : List String}
    (spelled : (lines input).map Bytes.toString? = texts.map some)
    : ∃ answers final,
        Course complaint clock schedule 0 session texts answers final
        ∧ session.run complaint clock schedule 0 (lines input)
          = (answers.filterMap id, true, final)
        ∧ ∃ jsons : List Json,
            (answers.filterMap id).map Response.toJson? = jsons.map some
            ∧ lines (written (answers.filterMap id)) = jsons.map Json.toBytes := by
  obtain ⟨answers, final, course, shown, ran⟩ :=
    run_course recorded complaint clock schedule 0 spelled
  have notations :=
    map_eq_map_some_filterMap fun response member =>
      shown response (List.mem_filterMap.mp member |>.elim fun _ ⟨there, same⟩ => same ▸ there)
  refine ⟨answers, final, course, ran, _, notations, ?_⟩
  rw [written, lines_unlines]
  · rw [List.map_map]
    rfl
  · intro text member
    obtain ⟨json, _, rfl⟩ := List.mem_map.mp member
    rw [Json.compact, String.toList_ofList]
    exact Json.lineFeed_notMem_render json

/-- A session about a lamp with nothing stored yet. -/
def ofLamp : Session :=
  { history := { store := .empty, keys := toString }, recorder := .start {} {} }

/-- The request of a panel for a cursor on the lamp. -/
def cursorLine : List Char :=
  Envelope.queryLine "panel"
    (.object
      [("op", .string "create_cursor"), ("thing_id", .string "lamp"), ("name", .null)])

/-- The message that the lamp was switched on. -/
def switchLine : List Char :=
  Envelope.publishLine
    (.object
      [ ("kind", .string "notification"), ("thing_id", .string "lamp"), ("name", .string "on")
      , ("affordance_type", .string "property"), ("sender_id", .string "switch")
      , ("timestamp", .null), ("data", .bool true) ])

/-- The request of the panel for the first value of its cursor. -/
def firstLine : List Char :=
  Envelope.queryLine "panel" (.object (Request.callMembers "first" "0"))

/-- The lines of the panel: its request for a cursor, the message, a blank line, its request for a
value, an object that is no envelope, and a text that is no document.
-/
def panelLines : List String :=
  [String.ofList cursorLine, String.ofList switchLine, " ", String.ofList firstLine, "\x7b\x7d",
    "lamp"]

/-- A worker takes and stores the message in the course of the request for a value, before the first
look-up that is made for it.
-/
def panelSchedule (number : Nat) : Meanwhile :=
  if number = 3 then
    { steps := [(⟨.epoch, 0⟩, 0), (⟨.epoch, 0⟩, 0)], first := { ends := 2, ceiling := fun _ => 2 } }
  else {}

/-- What the JSON library says of a text that begins with no value. -/
def noValue : List Char → String := fun _ => "expected value at line 1 column 1"

/-- What the panel is answered: its cursor, the value that is stored meanwhile, and two errors. -/
def panelAnswers : List Json :=
  [ .object [("status", .string "cursor"), ("cursor_key", .string "0")]
  , .object
      [ ("status", .string "value")
      , ("value"
        , .object
            [ ("thing_id", .string "lamp"), ("name", .string "on")
            , ("affordance_type", .string "property"), ("sender_id", .string "switch")
            , ("timestamp", .string "1970-01-01T00:00:00Z"), ("data", .bool true) ])
      , ("valid", .bool true) ]
  , .object
      [ ("status", .string "error")
      , ("message"
        , .string
            "malformed request: data did not match any variant of untagged enum Envelope") ]
  , .object
      [ ("status", .string "error")
      , ("message", .string "malformed request: expected value at line 1 column 1") ] ]

/-- The panel gets a line for each of its requests, the second of which finds what the first one and
the message have left, and one for each line that is no envelope.
-/
theorem lamp_lines_answered
    : lines (written
          (ofLamp.run noValue (fun _ => ⟨.epoch, 0⟩) panelSchedule 0
            (lines (unlines panelLines))).1)
      = panelAnswers.map Json.toBytes := by
  have recorded : ofLamp.history.Recorded := fun thing => Bucket.recorded_empty thing
  have plain : ∀ text ∈ panelLines, '\n' ∉ text.toList := by
    simp [panelLines, cursorLine, switchLine, firstLine, Envelope.queryLine, Envelope.publishLine,
      Json.lineFeed_notMem_render]
  have spelled : (lines (unlines panelLines)).map Bytes.toString? = panelLines.map some := by
    rw [lines_unlines plain]
    simp only [panelLines, List.map_cons, List.map_nil, Bytes.toString?_ofString]
  have create
      : Envelope.read (Text.trim (String.ofList cursorLine).toList)
        = .ok (.query "panel" (.create "lamp" none)) := by
    have trimmed : Text.trim cursorLine = cursorLine := by decide +kernel
    rw [String.toList_ofList, trimmed]
    exact Envelope.read_queryLine "panel" trivial rfl
  have publish
      : Envelope.read (Text.trim (String.ofList switchLine).toList)
        = .ok (.publish
            { kind := .notification, thing := "lamp", name := "on", affordanceName := "property"
              sender := "switch", time := none, data := .bool true }) := by
    have trimmed : Text.trim switchLine = switchLine := by decide +kernel
    have carried : (Json.bool true).IsCarried := ⟨trivial, trivial, by decide⟩
    rw [String.toList_ofList, trimmed]
    exact Envelope.read_publishLine carried rfl
  have first
      : Envelope.read (Text.trim (String.ofList firstLine).toList)
        = .ok (.query "panel" (.onCursor "0" .first)) := by
    have trimmed : Text.trim firstLine = firstLine := by decide +kernel
    rw [String.toList_ofList, trimmed]
    exact Envelope.read_queryLine "panel" trivial rfl
  have object : Envelope.read (Text.trim "\x7b\x7d".toList) = .error .notEnvelope := by rfl
  have stray : Envelope.read (Text.trim "lamp".toList) = .error .notJson := by rfl
  obtain ⟨answers, final, course, ran, jsons, notations, output⟩ :=
    @each_line_answered ofLamp recorded noValue (fun _ => ⟨.epoch, 0⟩) panelSchedule _ _ spelled
  have told
      : Course noValue (fun _ => ⟨.epoch, 0⟩) panelSchedule 0 ofLamp panelLines _ _ :=
    .line (.query create (shows_view ..)) (working_work ..) <|
    .line (.publish publish) (working_work ..) <|
    .line (.blank (by decide)) (working_work ..) <|
    .line (.query first (shows_view ..)) (working_work ..) <|
    .line (.notEnvelope object) (working_work ..) <|
    .line (.notJson (by decide) stray) (working_work ..) .done
  obtain ⟨rfl, -⟩ := course.unique told
  have shown : jsons.map some = panelAnswers.map some := notations.symm.trans rfl
  obtain rfl := (List.map_inj_right fun _ _ same => Option.some.inj same).mp shown
  rw [ran]
  exact output

end Session

end ValueHistory
