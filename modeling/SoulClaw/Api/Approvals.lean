import SoulClaw.Foundation.Runs
import SoulClaw.Runtime.ResumeTurn

/-! The endpoints of the approval console as one system: the transactions that create
approvals and those that a human decision on one of them starts. An endpoint that answers
with an error rolls the database back; what has left the executor stays. -/

namespace SoulClaw.Api.Approvals
open Foundation Domain.Approvals Domain.Tools Runtime.A2A Runtime.Agent Runtime.ResumeTurn

structure ApprovalResponse where
  approval : Option Approval
  turn : Option AgentTurnResult := none
  toolResult : Option Dict := none
  deriving DecidableEq, Repr

section Endpoints
variable [CharData]

/-- The answer to an exception that `resume_turn` or `execute` raises. -/
def exceptionError (error : PyException) : HttpError :=
  match error.kind with
  | .keyError => ⟨404, error.str⟩
  | .permissionError | .runtimeError | .valueError => ⟨400, error.str⟩
  | _ => ⟨500, error.str⟩

def failureError : Failure → HttpError
  | .raised error => exceptionError error
  | .approvalRequired message _ _ => ⟨400, message⟩

/-- `POST /api/approvals/{id}/resolve`. -/
def resolveEndpoint (world : World) (id : Nat) (status : String) (editedArguments : Dict)
    (response : String) : Except HttpError ApprovalResponse × World :=
  match resolveApproval world.approvals id status with
  | .error error => (.error (exceptionError error), world)
  | .ok approvals =>
      let approvals := approvals.modify id fun approval =>
        { approval with
          editedArguments := if editedArguments = [] then approval.editedArguments else editedArguments
          resumeState :=
            if response = "" then approval.resumeState
            else approval.resumeState.set "response" (.str response) }
      (.ok { approval := approvals.get? id }, { world with approvals := approvals })

/-- `POST /api/approvals/{id}/reject`. -/
def rejectApproval (world : World) (id : Nat) (reason : String) :
    Except HttpError ApprovalResponse × World :=
  match resolveApproval world.approvals id "rejected" with
  | .error error => (.error (exceptionError error), world)
  | .ok approvals =>
      let approvals := approvals.modify id fun approval =>
        { approval with payload := approval.payload.set "reject_reason" (.str reason) }
      (.ok { approval := approvals.get? id }, { world with approvals := approvals })

/-- Whether an approval belongs to an interrupted turn. -/
def checkpointed (approval : Approval) : Bool :=
  approval.turnCheckpoint.get "mode" = .str "agent_tool_loop" ∨
    approval.resumeState.get "mode" = .str "resume_turn"

def runnable (status : ApprovalStatus) : Bool := status = .pending ∨ status = .approved

def storedArguments (approval : Approval) : Dict :=
  if approval.editedArguments = [] then (approval.payload.get "arguments").dict
  else approval.editedArguments

def storedToolName (approval : Approval) : String := text (approval.payload.get "tool_name")

def approvePending (world : World) (id : Nat) : World :=
  setApproval world id fun approval =>
    if approval.status = .pending then { approval with status := .approved } else approval

variable [NumberData] (runtime : AgentRuntime)

/-- `POST /api/approvals/{id}/resume-turn`. -/
def resumeEndpoint (world : World) (id : Nat) (decision : String) (editedArguments : Dict)
    (response : String) : Except HttpError ApprovalResponse × World :=
  match resumeTurn runtime world id decision editedArguments response with
  | (.error error, after) => (.error (exceptionError error), world.rollback after)
  | (.ok turn, after) => (.ok { approval := after.approvals.get? id, turn := some turn }, after)

/-- The run of a stored call that belongs to no turn. -/
def runStoredCall (world : World) (id : Nat) (approval : Approval) :
    Except HttpError ApprovalResponse × World :=
  if storedToolName approval = "" then
    (.error ⟨400, "approval payload is missing tool_name"⟩, world)
  else
    match execute runtime.tools (approvePending world id) (storedToolName approval) (storedArguments approval)
      (text (approval.payload.get "turn_id")) (.stored id) with
    | (.error failure, after) => (.error (failureError failure), world.rollback after)
    | (.ok result, after) => (.ok { approval := after.approvals.get? id, toolResult := some result }, after)

/-- `POST /api/approvals/{id}/approve-and-run`. -/
def approveAndRun (world : World) (id : Nat) : Except HttpError ApprovalResponse × World :=
  match world.approvals.get? id with
  | none => (.error ⟨404, "approval not found: " ++ toString id⟩, world)
  | some approval =>
      if approval.subjectType ≠ "tool_run" then (.error ⟨400, "approval is not for a tool run"⟩, world)
      else if !runnable approval.status then (.error ⟨400, "approval is not runnable"⟩, world)
      else if checkpointed approval then resumeEndpoint runtime world id "approve" [] ""
      else runStoredCall runtime world id approval

/-- One transaction. -/
inductive Operation where
  | create (request : ApprovalRequest)
  | turn (context : TurnContext) (message sessionId turnId : String) (toolCalls : Option (List Dict))
  | resolve (id : Nat) (status : String) (editedArguments : Dict) (response : String)
  | reject (id : Nat) (reason : String)
  | approveAndRun (id : Nat)
  | resumeTurn (id : Nat) (decision : String) (editedArguments : Dict) (response : String)
  deriving DecidableEq, Repr

def apply (world : World) : Operation → World
  | .create request => { world with approvals := (createApproval world.approvals request).2 }
  | .turn context message sessionId turnId toolCalls =>
      (runTurn runtime context world message sessionId turnId toolCalls).2
  | .resolve id status editedArguments response =>
      (resolveEndpoint world id status editedArguments response).2
  | .reject id reason => (rejectApproval world id reason).2
  | .approveAndRun id => (approveAndRun runtime world id).2
  | .resumeTurn id decision editedArguments response =>
      (resumeEndpoint runtime world id decision editedArguments response).2

/-- Every operation is defined in every state. -/
def step (world : World) (operation : Operation) : Option World := some (apply runtime world operation)

end Endpoints

end SoulClaw.Api.Approvals
