import SoulClaw.Runtime.Agent

/-! The continuation of an interrupted turn. Everything it knows about the turn is read back
from the checkpoint of the approval, a JSON document that any client may have written. -/

namespace SoulClaw.Runtime.ResumeTurn
open Foundation Domain.Approvals Domain.Tools A2A Agent

inductive Decision where
  | approve
  | edit
  | reject
  | respond
  deriving DecidableEq, Repr

def Decision.name : Decision → String
  | approve => "approve"
  | edit => "edit"
  | reject => "reject"
  | respond => "respond"

/-- `value or fallback` of texts. -/
def orText (value fallback : String) : String := if value = "" then fallback else value

section Read
variable [CharData]

def readDecision (decision : String) : Option Decision :=
  match orText (normalized decision) "approve" with
  | "approve" => some .approve
  | "edit" => some .edit
  | "reject" => some .reject
  | "respond" => some .respond
  | _ => none

def checkpointTurnId (checkpoint : Dict) : String := text (checkpoint.get "turn_id")

def checkpointPending (checkpoint : Dict) : Dict := (checkpoint.get "pending_tool_call").dict

/-- The guards that come before any decision is carried out. -/
def resumable (checkpoint : Dict) : Except PyException Unit := do
  if checkpoint.get "mode" ≠ .str "agent_tool_loop" then
    throw ⟨.valueError, "approval does not have an agent turn checkpoint"⟩
  if checkpointTurnId checkpoint = "" ∨ checkpointPending checkpoint = [] then
    throw ⟨.valueError, "approval checkpoint is missing turn_id or pending_tool_call"⟩

/-- The pending call with the arguments that it is executed with. -/
def pendingCall (editedArguments : Dict) (checkpoint : Dict) : Dict :=
  let pending := checkpointPending checkpoint
  let arguments := if editedArguments = [] then (pending.get "arguments").dict else editedArguments
  pending.set "arguments" (.obj arguments)

/-- The interrupted round, as the checkpoint has it. -/
structure Round where
  toolCalls : List Json
  pendingIndex : Int
  completedResults : List Json
  priorResults : List Json
  deriving DecidableEq, Repr

/-- Whether the last stored result is the one of the call that asked. -/
def markerCount (storedResults : List Json) : Except PyException Nat :=
  match storedResults.getLast? with
  | none => .ok 0
  | some last => do
      let fields ← last.receiver
      return if fields.get "status" = .str "approval_required" then 1 else 0

variable [NumberData]

def readRound (checkpoint : Dict) (pending : Dict) : Except PyException Round := do
  let toolCalls ← ((checkpoint.get "round_tool_calls").or (.arr [.obj pending])).toList
  let pendingIndex ← ((checkpoint.get "pending_index").or (.int 0)).toInt
  let completedResults ← ((checkpoint.get "round_completed_results").or (.arr [])).toList
  let storedResults ← ((checkpoint.get "tool_results").or (.arr [])).toList
  let marker ← markerCount storedResults
  return ⟨toolCalls, pendingIndex, completedResults,
    storedResults.take (storedResults.length - completedResults.length - marker)⟩

end Read

/-- Why the calls of the round do not run to their end. -/
inductive RoundStop where
  | raised (error : PyException)
  | asked (call : Dict) (index : Int) (results : List Json) (message : String) (approvalId : Option Nat)
  deriving DecidableEq, Repr

section Resume
variable [CharData] (runtime : AgentRuntime)

/-- The calls behind the pending one, with their own approval flags. -/
def resumeCalls (turnId : String) : Int → List Json → List Json → World →
    Except RoundStop (List Json) × World
  | _, results, [], world => (.ok results, world)
  | index, results, call :: rest, world =>
      match call.receiver with
      | .error error => (.error (.raised error), world)
      | .ok call =>
          match execute runtime.tools world (callName call) (callArguments call) turnId
            (callApproved call) with
          | (.ok result, world) =>
              resumeCalls turnId (index + 1) (results ++ [.obj result]) rest world
          | (.error (.approvalRequired message _ approvalId), world) =>
              (.error (.asked call index results message approvalId), world)
          | (.error (.raised error), world) => (.error (.raised error), world)

/-- The rest of the round, which starts with the call that the approval stores. -/
def resumeRound (id : Nat) (turnId : String) (pending : Dict) (round : Round) (world : World) :
    Except RoundStop (List Json) × World :=
  match sliceFrom round.toolCalls round.pendingIndex with
  | [] => (.ok round.completedResults, world)
  | _ :: rest =>
      match execute runtime.tools world (callName pending) (callArguments pending) turnId (.stored id) with
      | (.ok result, world) =>
          resumeCalls runtime turnId (round.pendingIndex + 1) (round.completedResults ++ [.obj result]) rest
            world
      | (.error (.approvalRequired message _ approvalId), world) =>
          (.error (.asked pending round.pendingIndex round.completedResults message approvalId), world)
      | (.error (.raised error), world) => (.error (.raised error), world)

def setApproval (world : World) (id : Nat) (change : Approval → Approval) : World :=
  { world with approvals := world.approvals.modify id change }

def markResumed (decision : Decision) (approval : Approval) : Approval :=
  { approval with
    resumeState := (approval.resumeState.set "resumed" (.bool true)).set "decision" (.str decision.name) }

def pausedTurn (turnId : String) (approvalId : Option Nat) (pending : Dict) (toolResults : List Json) :
    AgentTurnResult where
  turnId := turnId
  answer := .str approvalAnswer
  status := .approvalRequired
  approvalId := approvalId
  pendingToolCall := some pending
  resumeAvailable := true
  toolResults := toolResults

/-- The decisions that end the turn without the call. -/
def finishTurn (world : World) (id : Nat) (turnId answer : String) (status : TurnStatus)
    (checkpoint : Dict) : Except PyException AgentTurnResult × World :=
  match ((checkpoint.get "tool_results").or (.arr [])).toList with
  | .error error => (.error error, world)
  | .ok toolResults =>
      (.ok
        { turnId := turnId
          answer := .str answer
          status := status
          approvalId := some id
          toolResults := toolResults }, world)

def respondTurn (world : World) (id : Nat) (approval : Approval) (response : String) :
    Except PyException AgentTurnResult × World :=
  let answer := orText response
    ((approval.resumeState.get "response").or (.str "Handled by human response.")).toStr
  let world := setApproval world id fun approval =>
    { approval with
      status := .cancelled
      resumeState := ((approval.resumeState.set "response" (.str answer)).set "resumed" (.bool true)).set
        "decision" (.str "respond") }
  finishTurn world id (checkpointTurnId approval.turnCheckpoint) answer .responded approval.turnCheckpoint

def rejectTurn (world : World) (id : Nat) (approval : Approval) (response : String) :
    Except PyException AgentTurnResult × World :=
  let world := setApproval world id fun approval => { markResumed .reject approval with status := .rejected }
  finishTurn world id (checkpointTurnId approval.turnCheckpoint)
    (orText response "Approval was rejected, so I stopped that tool call.") .rejected
    approval.turnCheckpoint

variable [NumberData]

/-- The turn that has run to its end, with the answer of the loop or the fallback. -/
def completedTurn (turnId : String) (answer : Json) (status : LlmStatus)
    (toolCalls toolResults : List Json) (loop : Option LoopOutput) : AgentTurnResult where
  turnId := turnId
  answer := answer
  toolResults := toolResults
  llmStatus := some status
  toolCalls := toolCalls
  loop := loop

/-- The tool loop behind the completed round. -/
def resumeLoop (world : World) (id : Nat) (decision : Decision) (turnId : String) (checkpoint : Dict)
    (messages allCalls toolResults : List Json) : Except PyException AgentTurnResult × World :=
  let failed (status : LlmStatus) (world : World) : Except PyException AgentTurnResult × World :=
    (.ok (completedTurn turnId (.str (fallbackAnswer 0 0 0 toolResults.length)) status allCalls toolResults
      none), setApproval world id (markResumed decision))
  if !runtime.llmConfigured || messages.isEmpty then failed .notConfigured world
  else
    match complete runtime world messages with
    | (.error _, world) => failed .failed world
    | (.ok response, world) =>
        match ((checkpoint.get "round_index").or (.int 0)).toInt with
        | .error _ => failed .failed world
        | .ok roundIndex =>
            match loopFrom runtime turnId (roundIndex + 1) response messages allCalls toolResults world with
            | (.ok output, world) =>
                (.ok (completedTurn turnId output.answer output.status output.toolCalls output.toolResults
                  (some output)), setApproval world id (markResumed decision))
            | (.error stop, world) =>
                (.ok (pausedTurn turnId stop.interrupt.approvalId stop.interrupt.pendingToolCall
                  stop.toolResults),
                  saveApprovalCheckpoint world stop.interrupt.approvalId (loopCheckpoint checkpoint stop))

/-- The messages behind the completed round, and the calls of all rounds. -/
def closeRound (checkpoint : Dict) (round : Round) (pending : Dict) (results : List Json) :
    Except PyException (List Json × List Json) := do
  let toolCalls ← setItem round.toolCalls round.pendingIndex (.obj pending)
  let stored ← ((checkpoint.get "messages").or (.arr [])).toList
  let messages ← appendToolMessages stored toolCalls results
  let allCalls ← ((checkpoint.get "tool_calls").or (.arr [])).toList
  return (messages, allCalls)

/-- The decisions that execute the call. -/
def executeTurn (world : World) (id : Nat) (editedArguments : Dict) (checkpoint : Dict)
    (decision : Decision) : Except PyException AgentTurnResult × World :=
  let turnId := checkpointTurnId checkpoint
  let pending := pendingCall editedArguments checkpoint
  let world := setApproval world id fun approval => { approval with status := .approved }
  if !runtime.toolsConfigured then
    (.error ⟨.runtimeError, "tool executor is not configured"⟩, world)
  else
    match readRound checkpoint pending with
    | .error error => (.error error, world)
    | .ok round =>
        match resumeRound runtime id turnId pending round world with
        | (.error (.raised error), world) => (.error error, world)
        | (.error (.asked call index results message approvalId), world) =>
            let toolResults := round.priorResults ++ results ++
              [.obj (approvalResult message (.str (callName call)) approvalId)]
            (.ok (pausedTurn turnId approvalId call toolResults),
              saveApprovalCheckpoint world approvalId
                (roundCheckpoint checkpoint toolResults results call index))
        | (.ok results, world) =>
            match closeRound checkpoint round pending results with
            | .error error => (.error error, world)
            | .ok (messages, allCalls) =>
                resumeLoop runtime world id decision turnId checkpoint messages allCalls
                  (round.priorResults ++ results)

/-- `AgentRuntime.resume_turn`. -/
def resumeTurn (world : World) (id : Nat) (decision : String) (editedArguments : Dict)
    (response : String) : Except PyException AgentTurnResult × World :=
  match world.approvals.get? id with
  | none => (.error ⟨.keyError, "approval not found: " ++ toString id⟩, world)
  | some approval =>
      match resumable approval.turnCheckpoint with
      | .error error => (.error error, world)
      | .ok () =>
          match readDecision decision with
          | none => (.error ⟨.valueError, "decision must be approve, edit, reject, or respond"⟩, world)
          | some .respond => respondTurn world id approval response
          | some .reject => rejectTurn world id approval response
          | some .approve =>
              executeTurn runtime world id approval.editedArguments approval.turnCheckpoint .approve
          | some .edit =>
              let edited := if editedArguments = [] then approval.editedArguments else editedArguments
              executeTurn runtime
                (setApproval world id fun approval => { approval with editedArguments := edited }) id edited
                approval.turnCheckpoint .edit

end Resume

end SoulClaw.Runtime.ResumeTurn
