import SoulClaw.Evolution.History
import SoulClaw.Skills.Service

/-! `HeartbeatRuntime`: the active tasks of HEARTBEAT.md, and a proposal for each of them to append a note to the same
file. What is appended stands in the last section of the file. -/

namespace SoulClaw.Runtime.Heartbeat
open Foundation Files Lines Wiki.Storage Evolution.Workspace
open Wiki.Proposals (EvolutionProposal)
open Skills.Package (SkillService)
open Skills.Service (ProposalRequest createProposal)

/-! The active tasks. -/

/-- The variables of the loop over the lines. -/
structure TaskScan where
  inActive : Bool := false
  tasks : List String := []

section Tasks
variable [CharData]

/-- The body of the loop, for a line without the white space around it. -/
def TaskScan.next (scan : TaskScan) (stripped : List Char) : TaskScan :=
  if "## ".toList <+: stripped then
    { scan with inActive := Text.lower (String.ofList stripped) = "## active tasks" }
  else if scan.inActive ∧ "-".toList <+: stripped then
    let item := Text.strip (String.ofList (stripped.drop 1))
    if item ≠ "" ∧ !Text.contains (Text.lower item) "empty when no proactive" then { scan with tasks := scan.tasks ++ [item] }
    else scan
  else scan

def scanTasks (content : String) : TaskScan :=
  (splitlines content.toList).foldl (fun scan line => scan.next (strip line)) {}

/-- `active_heartbeat_tasks`. -/
def activeHeartbeatTasks (service : WorkspaceService) : FileM Raw (List String) := do
  let file ← service.read "heartbeat"
  return (scanTasks file.content).tasks

end Tasks

/-! The review. -/

structure HeartbeatRuntime where
  workspace : WorkspaceService
  skills : SkillService

structure HeartbeatResult where
  status : String
  activeTasks : Nat
  proposalsCreated : Nat
  proposalIds : List Nat

def reviewContent (index : Nat) (task : String) : String :=
  "- Reviewed active task " ++ toString index ++ ": " ++ task ++ "\n  - Status: pending human review."

def reviewRequest (index : Nat) (task : String) : ProposalRequest where
  targetType := "heartbeat"
  action := "append_file"
  riskLevel := "low"
  payload := [("kind", .str "heartbeat"), ("content", .str (reviewContent index task)), ("heartbeat_task", .str task)]
  evidence := [("heartbeat_task", .str task), ("source", .str "HEARTBEAT.md")]

def skippedRecord : Dict := [("type", .str "heartbeat"), ("status", .str "skipped"), ("reason", .str "no active tasks")]

def proposedRecord (tasks : List String) (ids : List Nat) : Dict :=
  [("type", .str "heartbeat"), ("status", .str "proposed"), ("active_tasks", .arr (tasks.map .str)),
    ("proposal_ids", .arr (ids.map fun id => .str (toString id)))]

section Calls
variable [CharData] (runtime : HeartbeatRuntime)

/-- The proposal for a task. -/
def propose (made : List Nat × Skills.Service.State) (task : String × Nat) : FileM Raw (List Nat × Skills.Service.State) := do
  let (id, state) ← createProposal runtime.skills made.2 (reviewRequest task.2 task.1)
  return (made.1 ++ [id], state)

/-- `run_check`, at a time in seconds and microseconds. -/
def runCheck (seconds microseconds : Nat) (state : Skills.Service.State) :
    FileM Raw (HeartbeatResult × Skills.Service.State) := do
  let tasks ← activeHeartbeatTasks runtime.workspace
  if tasks.isEmpty then
    runtime.workspace.appendHistory ⟨seconds, microseconds, skippedRecord⟩
    return (⟨"skipped", 0, 0, []⟩, state)
  else
    let (ids, state) ← (tasks.zipIdx 1).foldlM (propose runtime) ([], state)
    runtime.workspace.appendHistory ⟨seconds, microseconds, proposedRecord tasks ids⟩
    return (⟨"proposed", tasks.length, ids.length, ids⟩, state)

/-! Runs. -/

/-- The rows, the proposals that the checks have created, and the files. -/
structure State where
  rows : Skills.Service.State
  created : List Nat
  disk : Disk

inductive Action where
  | check (seconds microseconds : Nat)
  | apply (place : Nat) (actor : String) (now : Int)

/-- Each call is committed, or its rows are rolled back when it raises. -/
def step (state : State) : Action → Option State
  | .check seconds microseconds =>
      match (runCheck runtime seconds microseconds state.rows).exec state.disk with
      | (.ok (result, rows), disk) => some { rows, created := state.created ++ result.proposalIds, disk }
      | (.error _, disk) => some { state with disk }
  | .apply place actor now =>
      match state.created[place]? with
      | none => some state
      | some id =>
          match (applyProposal runtime.workspace actor now state.rows.proposals id).exec state.disk with
          | (.ok (_, proposals), disk) => some { state with rows := { state.rows with proposals }, disk }
          | (.error _, disk) => some { state with disk }

end Calls

end SoulClaw.Runtime.Heartbeat
