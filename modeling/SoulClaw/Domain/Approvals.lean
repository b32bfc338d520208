import SoulClaw.Foundation.Table
import SoulClaw.Foundation.Text

/-! The approval records: what a request for a human decision stores, and the operations of
the platform service that create and resolve it. -/

namespace SoulClaw.Domain.Approvals
open Foundation

inductive ApprovalStatus where
  | pending
  | approved
  | rejected
  | cancelled
  deriving DecidableEq, Repr

structure Approval where
  status : ApprovalStatus := .pending
  subjectType : String
  subjectId : String := ""
  payload : Dict := []
  turnCheckpoint : Dict := []
  originalToolCall : Dict := []
  allowedDecisions : List String := []
  editedArguments : Dict := []
  resumeState : Dict := []
  deriving DecidableEq, Repr

def decisions : List String := ["approve", "edit", "reject", "respond"]

structure ApprovalRequest where
  subjectType : String
  subjectId : String := ""
  payload : Dict := []
  turnCheckpoint : Dict := []
  originalToolCall : Dict := []
  allowedDecisions : List String := []
  resumeState : Dict := []
  deriving DecidableEq, Repr

/-- The row that `create_approval` adds; an empty list of decisions is replaced by all. -/
def ApprovalRequest.row (request : ApprovalRequest) : Approval :=
  { status := .pending
    subjectType := request.subjectType
    subjectId := request.subjectId
    payload := request.payload
    turnCheckpoint := request.turnCheckpoint
    originalToolCall := request.originalToolCall
    allowedDecisions := if request.allowedDecisions = [] then decisions else request.allowedDecisions
    resumeState := request.resumeState }

def createApproval (approvals : Table Approval) (request : ApprovalRequest) : Nat × Table Approval :=
  (approvals.size, approvals.insert request.row)

/-- The statuses that `resolve_approval` accepts. -/
def resolution : String → Option ApprovalStatus
  | "approved" => some .approved
  | "rejected" => some .rejected
  | "cancelled" => some .cancelled
  | _ => none

def resolveApproval (approvals : Table Approval) (id : Nat) (status : String) :
    Except PyException (Table Approval) :=
  match resolution status with
  | none => .error ⟨.valueError, "approval status must be approved, rejected, or cancelled"⟩
  | some status =>
      match approvals.get? id with
      | none => .error ⟨.keyError, "approval not found: " ++ toString id⟩
      | some approval => .ok (approvals.set id { approval with status := status })

end SoulClaw.Domain.Approvals
