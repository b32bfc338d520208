import SoulClaw.Runtime.Streaming

/-! One turn of the stream loop. What the loop remembers behind a turn depends on the result alone, and so do the
artifacts and the event that the turn adds. -/

namespace SoulClaw.Runtime.StreamTurns
open Foundation Domain.A2ATasks A2A RemoteResults Streaming

/-- The dictionary of a result in which its identifiers stand. -/
def carrier : ResultKind → Dict
  | .task task => task
  | .statusUpdate update => update
  | .artifactUpdate update => update
  | .message message => message
  | .event _ => []

/-- A status update with a status that is no dictionary. -/
def malformed (result : Dict) : Bool :=
  match kindOf result with
  | .statusUpdate update => !((update.lookup "status").getD (.obj [])).isDict
  | _ => false

section Given
variable [CharData]

def taskIdGiven (result : Dict) : String :=
  let carried := carrier (kindOf result)
  text (((carried.get "id").or (carried.get "taskId")).or (carried.get "task_id"))

def contextIdGiven (result : Dict) : String :=
  let carried := carrier (kindOf result)
  text ((carried.get "contextId").or (carried.get "context_id"))

/-- The text of a result, by its kind. -/
def answerGiven (result : Dict) : String :=
  match kindOf result with
  | .task task => answerFromA2aResult task
  | .statusUpdate update => textFromMessage ((update.get "status").dict.get "message").dict
  | .artifactUpdate update => (artifactDraft (update.get "artifact").dict).content
  | .message message => textFromMessage message
  | .event _ => ""

variable [UpperData]

/-- The local status that a result reports, which only two kinds do. -/
def statusGiven (result : Dict) : String :=
  match kindOf result with
  | .task task => statusFromA2aTask task
  | .statusUpdate update => statusFromStatusUpdate update
  | _ => ""

/-- What the loop remembers behind a result. -/
def next (fold : Fold) (result : Dict) : Fold :=
  let read := fold.readIds (carrier (kindOf result))
  { read with
    status := orKept (statusGiven result) fold.status
    answer := orKept (answerGiven result) fold.answer
    eventCount := fold.eventCount + 1
    lastRemote := result }

end Given

section Turns
variable [CharData] (uuid4 : Nat → Uuid)

/-- The artifacts of a result, as far as it has any. -/
def artifactsGiven (result : Dict) : List Dict :=
  match kindOf result with
  | .task task => objects (task.get "artifacts").list
  | .artifactUpdate update =>
      let artifact := (update.get "artifact").dict
      if artifact = [] then [] else [artifact]
  | _ => []

/-- The artifacts are stored. -/
def persisted (store : Store) (taskId : String) (artifacts : List Dict) : Store :=
  artifacts.foldl (fun store artifact => (persistA2aArtifact uuid4 store taskId artifact).2) store

/-- The rows after the branch of a result: a task is logged before its artifacts, an update behind them. -/
def recorded (store : Store) (taskId : String) (result : Dict) : Store :=
  match kindOf result with
  | .task _ => persisted uuid4 (Store.log store taskId (loggedEvent (kindOf result))) taskId (artifactsGiven result)
  | _ => Store.log (persisted uuid4 store taskId (artifactsGiven result)) taskId (loggedEvent (kindOf result))

/-- How the loop marks the task behind a result. -/
def markOf (fold : Fold) : Mark where
  status := settled fold.status
  remoteTaskId := fold.remoteTaskId
  remoteContextId := fold.remoteContextId

def turned (store : Store) (taskId : String) (fold : Fold) (result : Dict) : Store :=
  markTask (recorded uuid4 store taskId result) taskId (markOf fold)

end Turns

section Equations
variable [CharData] (uuid4 : Nat → Uuid)

omit [CharData] in
theorem orKept_empty (kept : String) : orKept "" kept = kept := if_pos rfl

theorem text_or_str (value : Json) (kept : String) :
    text (value.or (.str kept)) = if value.truthy then value.toStr else kept := by
  unfold text
  by_cases truthy : value.truthy = true
  · rw [if_pos truthy, Json.or_of_truthy truthy, Json.or_of_truthy truthy]
  · have kept_ : value.or (.str kept) = .str kept := if_neg truthy
    rw [if_neg truthy, kept_]
    exact text_str kept

theorem text_eq (value : Json) : text value = if value.truthy then value.toStr else "" := by
  rw [text, Json.or]
  split <;> rfl

theorem readIds_nil (fold : Fold) : fold.readIds [] = fold := by
  have nothing : ∀ kept : String, text (Json.null.or (.str kept)) = kept := fun kept => text_or_str .null kept
  unfold Fold.readIds remoteIdsFromResult
  simp only [Dict.get_nil]
  have missing : (Json.null.or Json.null) = Json.null := rfl
  rw [missing, missing, nothing, nothing]

omit [CharData] in
theorem statusMessage_of_dict {update : Dict} (wellFormed : ((update.lookup "status").getD (.obj [])).isDict = true) :
    ∃ message, statusMessage update = .ok message ∧
      message.dict = ((update.get "status").dict.get "message").dict := by
  unfold statusMessage Dict.get
  cases found : update.lookup "status" with
  | none => exact ⟨.obj [], rfl, rfl⟩
  | some status =>
    rw [found] at wellFormed
    cases status with
    | obj status =>
      refine ⟨(status.lookup "message").getD (.obj []), rfl, ?_⟩
      show _ = ((status.lookup "message").getD .null).dict
      cases status.lookup "message" <;> rfl
    | _ => exact absurd wellFormed (by simp [Json.isDict])

omit [CharData] in
theorem statusMessage_of_not_dict {update : Dict}
    (broken : ((update.lookup "status").getD (.obj [])).isDict = false) :
    ∃ message, statusMessage update = .error ⟨.attributeError, message⟩ := by
  unfold statusMessage
  generalize (update.lookup "status").getD (.obj []) = status at broken
  cases status with
  | obj status => exact absurd broken (by simp [Json.isDict])
  | _ => exact ⟨_, rfl⟩

variable [UpperData]

theorem handleResult_of_wellFormed {result : Dict} (wellFormed : malformed result = false) (store : Store)
    (taskId : String) (fold : Fold) :
    handleResult uuid4 store taskId { fold with eventCount := fold.eventCount + 1, lastRemote := result } result =
      .ok (next fold result, recorded uuid4 store taskId result) := by
  unfold handleResult next recorded statusGiven answerGiven artifactsGiven
  cases kind : kindOf result with
  | task task => rfl
  | statusUpdate update =>
    rw [malformed, kind] at wellFormed
    obtain ⟨message, read, same⟩ := statusMessage_of_dict (by simpa using wellFormed)
    simp only [read, Except.map, same]
    rfl
  | artifactUpdate update =>
    simp only
    by_cases empty : (update.get "artifact").dict = []
    · rw [if_pos empty, if_pos empty, empty]
      rfl
    · rw [if_neg empty, if_neg empty]
      rfl
  | message message =>
    simp only [carrier, orKept_empty]
    rfl
  | event result =>
    simp only [carrier, readIds_nil, orKept_empty]
    rfl

theorem handleResult_of_malformed {result : Dict} (broken : malformed result = true) (store : Store)
    (taskId : String) (fold : Fold) :
    ∃ message, handleResult uuid4 store taskId fold result = .error ⟨.attributeError, message⟩ := by
  unfold handleResult
  cases kind : kindOf result with
  | statusUpdate update =>
    rw [malformed, kind] at broken
    obtain ⟨message, read⟩ := statusMessage_of_not_dict (by simpa using broken)
    simp only [read]
    exact ⟨message, rfl⟩
  | _ => simp [malformed, kind] at broken

theorem processResult_of_wellFormed {result : Dict} (wellFormed : malformed result = false) (store : Store)
    (taskId : String) (fold : Fold) : processResult uuid4 store taskId fold result =
      .ok (next fold result, turned uuid4 store taskId (next fold result) result) := by
  rw [processResult, handleResult_of_wellFormed uuid4 wellFormed]
  rfl

theorem processResult_of_malformed {result : Dict} (broken : malformed result = true) (store : Store)
    (taskId : String) (fold : Fold) :
    ∃ message, processResult uuid4 store taskId fold result = .error ⟨.attributeError, message⟩ := by
  unfold processResult
  generalize { fold with eventCount := fold.eventCount + 1, lastRemote := result } = counted
  obtain ⟨message, failed⟩ := handleResult_of_malformed uuid4 broken store taskId counted
  rw [failed]
  exact ⟨message, rfl⟩

end Equations

end SoulClaw.Runtime.StreamTurns
