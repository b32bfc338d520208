import SoulClaw.Domain.A2ATasks
import SoulClaw.Foundation.JsonText
import SoulClaw.Runtime.A2A

/-! What the runtime reads of the JSON that a remote agent sends: the kind of a stream result, the identifiers, the
status, the answer and the artifacts. -/

namespace SoulClaw.Runtime.RemoteResults
open Foundation Domain.A2ATasks A2A

class UpperData where
  upper : Char → List Char
  upper_ascii : ∀ c, c.toNat < 0x80 → upper c = [c.toUpper]

/-- The ASCII part of the table. -/
@[reducible] def UpperData.ascii : UpperData where
  upper c := [c.toUpper]
  upper_ascii _ _ := rfl

def upper [UpperData] (text : String) : String := String.ofList (text.toList.flatMap UpperData.upper)

/-- `text.replace(old, new)`. -/
def replaceChar (old new : Char) (text : String) : String :=
  String.ofList (text.toList.map fun c => if c = old then new else c)

/-- `text.removeprefix(start)`. -/
def removeStart (start text : String) : String :=
  if start.toList.isPrefixOf text.toList then String.ofList (text.toList.drop start.toList.length) else text

/-! States. -/

def terminalTaskStates : List String := ["completed", "failed", "canceled", "rejected"]

def pausedTaskStates : List String := ["input-required"]

def localStatusByState : List (String × String) :=
  [("TASK_STATE_SUBMITTED", "submitted"), ("TASK_STATE_WORKING", "working"),
    ("TASK_STATE_INPUT_REQUIRED", "input-required"), ("TASK_STATE_COMPLETED", "completed"),
    ("TASK_STATE_FAILED", "failed"), ("TASK_STATE_CANCELED", "canceled"), ("TASK_STATE_CANCELLED", "canceled"),
    ("TASK_STATE_REJECTED", "rejected"), ("TASK_STATE_AUTH_REQUIRED", "auth-required")]

/-- `status in TERMINAL_TASK_STATES | PAUSED_TASK_STATES`. -/
def closing (status : String) : Bool := status ∈ terminalTaskStates ++ pausedTaskStates

/-- The status that is stored for a local status. -/
def settled (status : String) : String := if closing status then status else "working"

section Reading
variable [CharData] [UpperData]

def localStatusFromA2aState (state : Json) : String :=
  let raw := Text.strip (text state)
  if raw = "" then "working"
  else
    match localStatusByState.lookup (replaceChar '-' '_' (upper raw)) with
    | some status => status
    | none =>
        let lower := removeStart "task-state-" (replaceChar '_' '-' (Text.lower raw))
        if lower = "" then "working" else lower

/-- The status of a dictionary that has one under `status`. -/
def statusFrom (holder : Dict) : String :=
  match holder.get "status" with
  | .obj status => localStatusFromA2aState (Dict.get status "state")
  | _ => localStatusFromA2aState (.str "")

def statusFromA2aTask (task : Dict) : String := statusFrom task

def statusFromStatusUpdate (update : Dict) : String := statusFrom update

end Reading

section Texts
variable [CharData]

def remoteIdsFromResult (result : Dict) (remoteTaskId remoteContextId : String) : String × String :=
  (text ((((result.get "id").or (result.get "taskId")).or (result.get "task_id")).or (.str remoteTaskId)),
    text (((result.get "contextId").or (result.get "context_id")).or (.str remoteContextId)))

/-- The first of some texts that is not empty. -/
def firstText (texts : List String) : String := (texts.find? (· ≠ "")).getD ""

def artifactText : Json → String
  | .obj artifact => textFromParts (Dict.get artifact "parts")
  | _ => ""

def answerFromA2aResult (result : Dict) : String :=
  firstText (textFromMessage (result.get "message").dict ::
    textFromMessage ((result.get "status").dict.get "message").dict ::
    (result.get "artifacts").list.reverse.map artifactText)

def mimeOfPart : Json → Option String
  | .obj part =>
      match Dict.get part "mediaType", Dict.get part "file" with
      | .str mediaType, _ => some mediaType
      | _, .obj file =>
          match Dict.get file "mimeType" with
          | .str mimeType => some mimeType
          | _ => none
      | _, _ => none
  | _ => none

def mimeFromParts (parts : List Json) : String := (parts.findSome? mimeOfPart).getD "text/plain"

/-- What `_persist_a2a_artifact` hands to `add_artifact`. -/
def artifactDraft (artifact : Dict) : ArtifactDraft :=
  let parts := (artifact.get "parts").list
  { artifactId := text ((artifact.get "artifactId").or (artifact.get "id"))
    name := text ((artifact.get "name").or (.str "A2A Artifact"))
    mimeType := mimeFromParts parts
    content := textFromParts (.arr parts)
    parts
    metadata := (artifact.get "metadata").dict }

end Texts

/-- The dictionaries of a list. -/
def objects (items : List Json) : List Dict :=
  items.filterMap fun item =>
    match item with
    | .obj fields => some fields
    | _ => none

/-- The branches of the stream loop. -/
inductive ResultKind where
  | task (task : Dict)
  | statusUpdate (update : Dict)
  | artifactUpdate (update : Dict)
  | message (message : Dict)
  | event (result : Dict)
  deriving DecidableEq

def kindOf (result : Dict) : ResultKind :=
  match result.get "task" with
  | .obj task => .task task
  | _ =>
      match result.get "statusUpdate" with
      | .obj update => .statusUpdate update
      | _ =>
          match result.get "artifactUpdate" with
          | .obj update => .artifactUpdate update
          | _ =>
              match result.get "message" with
              | .obj message => .message message
              | _ => .event result

/-- The event that the loop adds for a result. -/
def loggedEvent : ResultKind → String × Dict
  | .task task => ("a2a.task", [("remote", .obj task)])
  | .statusUpdate update => ("a2a.status_update", [("remote", .obj update)])
  | .artifactUpdate update => ("a2a.artifact_update", [("remote", .obj update)])
  | .message message => ("a2a.message", [("remote", .obj message)])
  | .event result => ("a2a.event", [("remote", .obj result)])

end SoulClaw.Runtime.RemoteResults
