import SoulClaw.Foundation.JsonChars
import SoulClaw.Foundation.Lines
import SoulClaw.Domain.A2ATasks

/-! Server-sent events: the endpoint that writes the events of a task as a stream, and the reader of such a stream. What
is read of a stream of frames is what is read of each frame. -/

namespace SoulClaw.Runtime.Sse
open Foundation Domain.A2ATasks

/-! The stream that the endpoint writes. -/

/-- The text of one event. -/
def frame (sequence : Nat) (eventType : String) (payload : Dict) : String :=
  "id: " ++ toString sequence ++ "\nevent: " ++ eventType ++ "\ndata: " ++ (Json.obj payload).dumps ++ "\n\n"

def taskPayload (item : A2AEvent) : Dict :=
  [("type", .str item.eventType), ("sequence", .int item.sequence), ("data", (Json.obj item.payload).or (.obj []))]

/-- `generate`. -/
def generate (events : List A2AEvent) : String :=
  String.join (events.map fun item => frame item.sequence item.eventType (taskPayload item))

/-- `stream_a2a_task_events`, with the detail of a `404` where there is no such task. -/
def streamA2aTaskEvents [CharData] (first : FirstRow) (store : Store) (taskId : String) (afterSequence : Int) :
    Except String String :=
  match getTaskByAnyId first store taskId with
  | none => .error ("A2A task not found: " ++ taskId)
  | some task => .ok (generate (listEvents store task.taskId afterSequence 200))

/-! The reader. -/

section Reader
variable [CharData]

/-- `line.split(":", 1)[1]`. -/
def afterColon (line : List Char) : List Char := (line.dropWhile (· ≠ ':')).drop 1

/-- What the lines since the last blank one have said. -/
structure Pending where
  eventName : List Char := []
  dataLines : List (List Char) := []
  deriving DecidableEq, Repr

/-- A line that is not blank. -/
def Pending.read (pending : Pending) (line : List Char) : Pending :=
  if ":".toList.isPrefixOf line then pending
  else if "event:".toList.isPrefixOf line then { pending with eventName := Lines.strip (afterColon line) }
  else if "data:".toList.isPrefixOf line then
    { pending with dataLines := pending.dataLines ++ [Lines.lstrip (afterColon line)] }
  else pending

variable [NumberData]

omit [CharData] in
/-- `_parse_sse_payload`. -/
def parseSsePayload (eventName : List Char) (dataLines : List (List Char)) : Dict :=
  let raw := String.ofList (Lines.joined dataLines)
  let kind := if eventName = [] then "message" else String.ofList eventName
  match Json.loads raw with
  | none => [("type", .str kind), ("data", .obj [("text", .str raw)])]
  | some (.obj fields) =>
      if (fields.lookup "type").isSome then fields else [("type", .str kind), ("data", .obj fields)]
  | some parsed => [("type", .str kind), ("data", .obj [("value", parsed)])]

omit [CharData] in
/-- The payload that is yielded at a blank line, and at the end. -/
def Pending.yields (pending : Pending) : List Dict :=
  if pending.dataLines = [] then []
  else
    let payload := parseSsePayload pending.eventName pending.dataLines
    if payload = [] then [] else [payload]

/-- The loop over the lines. -/
def readLines : Pending → List (List Char) → List Dict
  | pending, [] => pending.yields
  | pending, line :: rest =>
      if line = [] then pending.yields ++ readLines {} rest else readLines (pending.read line) rest

/-- `_iter_sse_events`. -/
def iterSseEvents (text : String) : List Dict := readLines {} (Lines.splitlines text.toList)

end Reader

/-! A stream of payloads. -/

/-- A payload with its type, and what stands beside it in its frame. -/
structure SseEvent [NumberData] where
  sequence : Nat
  eventType : String
  payload : Dict
  typed : (payload.lookup "type").isSome = true
  proper : Loads.Proper (.obj payload)

namespace SseEvent
variable [NumberData]

def text (event : SseEvent) : String := frame event.sequence event.eventType event.payload

/-- What the frame writes of the payload. -/
def data (event : SseEvent) : List Char := (Json.obj event.payload).dumps.toList

/-- The lines of the type: the first one stands behind `event: `, those behind it are lines of the frame. -/
def typeLines (event : SseEvent) : List (List Char) := Lines.parts (Lines.ended event.eventType.toList)

/-- The lines of the frame in front of the blank one that ends it. -/
def lines (event : SseEvent) : List (List Char) :=
  ("id: ".toList ++ (toString event.sequence).toList) :: ("event: ".toList ++ event.typeLines.headD []) ::
    (event.typeLines.tail ++ Lines.parts ("data: ".toList ++ event.data))

/-- The event that the endpoint writes of an item. -/
def ofItem (item : A2AEvent) (proper : Loads.Proper (.obj item.payload)) : SseEvent where
  sequence := item.sequence
  eventType := item.eventType
  payload := taskPayload item
  typed := rfl
  proper := by
    rw [taskPayload, Json.or_obj_nil]
    exact ⟨by simp, trivial, trivial, proper, trivial⟩

end SseEvent

section Framing

theorem frame_toList (sequence : Nat) (eventType : String) (payload : Dict) :
    (frame sequence eventType payload).toList =
      ("id: ".toList ++ (toString sequence).toList) ++ '\n' :: (("event: ".toList ++ eventType.toList) ++
        '\n' :: (("data: ".toList ++ (Json.obj payload).dumps.toList) ++ '\n' :: ['\n'])) := by
  unfold frame
  simp

theorem isBreak_of_isNarrow {c : Char} (narrow : Loads.isNarrow c = true) : Lines.isBreak c = false := by
  by_contra breaks
  rw [Bool.not_eq_false] at breaks
  unfold Lines.isBreak at breaks
  simp only [List.mem_cons, List.not_mem_nil, or_false, decide_eq_true_eq] at breaks
  rcases breaks with rfl | rfl | rfl | rfl | rfl | rfl | rfl | rfl | rfl | rfl <;> exact absurd narrow (by decide)

theorem plain_of_narrow {text : List Char} (narrow : text.all Loads.isNarrow = true) :
    ∀ c ∈ text, Lines.isBreak c = false := fun c member => isBreak_of_isNarrow (List.all_eq_true.1 narrow c member)

theorem idLine_plain (sequence : Nat) : ∀ c ∈ "id: ".toList ++ (toString sequence).toList, Lines.isBreak c = false := by
  apply plain_of_narrow
  rw [List.all_append, Bool.and_eq_true]
  refine ⟨by decide, List.all_eq_true.2 fun c member => ?_⟩
  have digits : (toString sequence).toList = Nat.toDigits 10 sequence := Nat.toList_repr
  rw [digits] at member
  have digit := Nat.isDigit_of_mem_toDigits (by decide) (by decide) member
  exact Loads.isNarrow_of_isNumeral (Loads.isNumeral_of_isDigit digit)

variable [NumberData]

/-- The stream of the events. -/
def encoded (events : List SseEvent) : String := String.join (events.map SseEvent.text)

/-- The endpoint writes a stream of events. -/
theorem generate_eq {items : List A2AEvent} (proper : ∀ item ∈ items, Loads.Proper (.obj item.payload)) :
    generate items = encoded (items.attach.map fun item => .ofItem item.1 (proper item.1 item.2)) := by
  unfold generate encoded
  rw [List.map_map]
  conv_lhs => rw [← List.attach_map_subtype_val items, List.map_map]
  rfl

/-- The lines of a stream that begins with a frame. -/
theorem parts_text_append (event : SseEvent) (rest : List Char) :
    Lines.parts (event.text.toList ++ rest) = event.lines ++ [] :: Lines.parts rest := by
  have eventLine : ∀ c ∈ "event: ".toList, Lines.isBreak c = false := plain_of_narrow (by decide)
  have edge : ("data: ".toList ++ event.data).getLast? ≠ some '\r' := by
    unfold SseEvent.data
    rw [Loads.dumps_obj, ← List.cons_append, ← List.append_assoc, List.getLast?_concat]
    decide
  have blank : Lines.parts ('\n' :: rest) = [] :: Lines.parts rest :=
    Lines.parts_cons_of_break (by decide) (by simp)
  have whole : event.text.toList ++ rest = ("id: ".toList ++ (toString event.sequence).toList) ++
      '\n' :: (("event: ".toList ++ event.eventType.toList) ++ '\n' :: (("data: ".toList ++ event.data) ++
        '\n' :: '\n' :: rest)) := by
    unfold SseEvent.text SseEvent.data
    rw [frame_toList]
    simp only [List.append_assoc, List.cons_append, List.nil_append]
  rw [whole, Lines.parts_append_newline (Lines.getLast?_ne_of_plain (idLine_plain _)),
    Lines.parts_of_plain (idLine_plain _), Lines.parts_append_ended, Lines.ended_append eventLine,
    Lines.parts_plain_append eventLine, Lines.parts_append_newline edge, blank]
  unfold SseEvent.lines SseEvent.typeLines
  simp only [List.cons_append, List.nil_append, List.append_assoc]

/-- The lines of a stream. -/
theorem splitlines_encoded (events : List SseEvent) :
    Lines.splitlines (encoded events).toList = events.flatMap fun event => event.lines ++ [[]] := by
  apply Lines.splitlines_of_parts
  unfold encoded
  rw [String.toList_join, List.flatMap_map]
  induction events with
  | nil => rfl
  | cons event rest ih =>
    rw [List.flatMap_cons, parts_text_append, ih, List.flatMap_cons, List.append_assoc, List.append_assoc]
    rfl

variable [CharData]

/-- A blank line ends what is read together. -/
theorem readLines_append_blank (pending : Pending) (lines rest : List (List Char)) :
    readLines pending (lines ++ [] :: rest) = readLines pending lines ++ readLines {} rest := by
  induction lines generalizing pending with
  | nil => rfl
  | cons line later ih =>
    rw [List.cons_append, readLines, readLines]
    split
    · rw [ih, List.append_assoc]
    · exact ih _

/-- The frames of a stream are read one by one. -/
theorem iterSseEvents_encoded (events : List SseEvent) :
    iterSseEvents (encoded events) = events.flatMap fun event => readLines {} event.lines := by
  unfold iterSseEvents
  rw [splitlines_encoded]
  induction events with
  | nil => rfl
  | cons event rest ih =>
    rw [List.flatMap_cons, List.append_assoc, List.singleton_append, readLines_append_blank, ih, List.flatMap_cons]

end Framing

end SoulClaw.Runtime.Sse
