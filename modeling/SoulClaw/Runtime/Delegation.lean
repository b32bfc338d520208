import SoulClaw.Domain.Gate

/-! Every way into a delegation: the tool surface, the admin endpoint, the public JSON-RPC
interface and the turn that hands a research question over. The tool and the endpoint check
the risk of the request themselves; the JSON-RPC methods do not. -/

namespace SoulClaw.Runtime.Delegation
open Foundation Domain.Tools Domain.ToolEffects Domain.Gate A2A

/-- The task rows behind the interface: the methods that read or cancel a task, and the
public form of the task that a delegation names. -/
structure TaskStore where
  answer : World → String → Dict → Except PyException Json
  publish : World → Json → Except PyException Json

section Entries
variable [CharData] (tools : ToolRuntime) (tasks : TaskStore)

def messageSend (world : World) (params : Dict) : Except PyException Json × World :=
  match delegate tools .no world (messageSendRequest params) with
  | (.error error, world) => (.error error, world)
  | (.ok result, world) => (tasks.publish world result, world)

def jsonrpcError (requestId : Json) (code : Int) (message : String) : Json :=
  .obj [("jsonrpc", .str "2.0"), ("id", requestId),
    ("error", .obj [("code", .int code), ("message", .str message)])]

def errorCode : ExceptionKind → Int
  | .keyError => -32001
  | .permissionError => -32003
  | _ => -32603

def jsonrpcResponse (requestId : Json) : Except PyException Json → Json
  | .ok result => .obj [("jsonrpc", .str "2.0"), ("id", requestId), ("result", result)]
  | .error error => jsonrpcError requestId (errorCode error.kind) error.str

def sendMethods : List String := ["SendMessage", "SendStreamingMessage"]

def taskMethods : List String :=
  ["GetTask", "CancelTask", "SubscribeToTask", "ListTasks", "GetExtendedAgentCard"]

def handleJsonrpc (world : World) (payload : Dict) : Json × World :=
  let requestId := payload.get "id"
  let method := text (payload.get "method")
  let params := (payload.get "params").dict
  if method ∈ sendMethods then
    let (outcome, world) := messageSend tools tasks world params
    (jsonrpcResponse requestId outcome, world)
  else if method ∈ taskMethods then
    (jsonrpcResponse requestId (tasks.answer world method params), world)
  else (jsonrpcError requestId (-32601) ("method not found: " ++ method), world)

/-- `POST /api/a2a/delegate`; an exception of another kind is an internal error. -/
def delegateA2aTask (world : World) (request : A2ADelegateRequest) (username : String) :
    Except HttpError Json × World :=
  if request.highRisk then
    (.error ⟨409, "A2A delegation requires approval through the tool surface"⟩, world)
  else
    match delegate tools .no world request with
    | (.ok result, world) => (.ok (.obj (result.dict.set "requested_by" (.str username))), world)
    | (.error error, after) =>
        match error.kind with
        | .keyError => (.error ⟨404, error.str⟩, world.rollback after)
        | .runtimeError => (.error ⟨400, error.str⟩, world.rollback after)
        | _ => (.error ⟨500, error.str⟩, world.rollback after)

/-- One request to an entry point. -/
inductive Entry where
  | tool (toolName : String) (arguments : Dict) (turnId : String) (approved : Approved)
  | adminDelegate (request : A2ADelegateRequest) (username : String)
  | jsonrpc (payload : Dict)
  | turn (message sessionId turnId : String)
  deriving DecidableEq, Repr

def enter (world : World) : Entry → World
  | .tool toolName arguments turnId approved =>
      (execute tools world toolName arguments turnId approved).2
  | .adminDelegate request username => (delegateA2aTask tools world request username).2
  | .jsonrpc payload => (handleJsonrpc tools tasks world payload).2
  | .turn message sessionId turnId =>
      if tools.a2aConfigured && shouldDelegate message then
        (delegate tools .no world (deepResearchRequest message sessionId turnId)).2
      else world

/-- A delegation of high risk that no approved execution caused. -/
def ungated : Effect → Bool
  | .ran .. => false
  | .delegated request approved => request.highRisk && !approved.granted

/-- The chain of calls ends in a delegation of high risk, and carries `_approved` past the
gates on its way. -/
def forgesDelegation : Nat → Handler → Dict → Bool
  | 0, _, _ => false
  | limit + 1, handler, arguments =>
      match handler with
      | .other => false
      | .a2aDelegate =>
          tools.a2aConfigured && (delegateToolRequest arguments).highRisk && carriesApproval arguments
      | .toolCall =>
          match toolCallTarget tools arguments with
          | .error _ => false
          | .ok (target, handler) =>
              (!target.gatedTarget || carriesApproval arguments) &&
                forgesDelegation limit handler (toolCallArguments arguments)

/-- The request starts a delegation of high risk without an approval. -/
def slipsThrough : Entry → Bool
  | .tool toolName arguments _ approved =>
      !approved.granted &&
        match admitted tools toolName arguments approved with
        | none => false
        | some (_, handler) => forgesDelegation tools (tools.recursionLimit + 1) handler arguments
  | .adminDelegate _ _ => false
  | .jsonrpc payload =>
      decide (text (payload.get "method") ∈ sendMethods) &&
        (messageSendRequest (payload.get "params").dict).highRisk
  | .turn _ _ _ => false

/-! What each entry point starts. -/

theorem trace_ungated (approved : Approved) (limit : Nat) (throughToolCall : Bool)
    (tool : ToolDefinition) (handler : Handler) (arguments : Dict) :
    (trace tools approved limit throughToolCall tool handler arguments).any ungated =
      (!approved.granted && forgesDelegation tools limit handler arguments) := by
  induction limit generalizing throughToolCall tool handler arguments with
  | zero => rw [trace.eq_def, forgesDelegation.eq_def, Bool.and_false]; rfl
  | succ limit ih =>
    rw [trace.eq_def, forgesDelegation.eq_def]
    simp only [List.any_cons, ungated, Bool.false_or]
    cases handler with
    | other => rw [Bool.and_false]; rfl
    | a2aDelegate =>
      simp only [delegationTrace]
      generalize delegateToolRequest arguments = request
      generalize carriesApproval arguments = carried
      cases risky : request.highRisk <;> cases tools.a2aConfigured <;> cases carried <;>
        cases granted : approved.granted <;> simp [ungated, risky, granted]
    | toolCall =>
      cases toolCallTarget tools arguments with
      | error error => rw [Bool.and_false]; rfl
      | ok target =>
        obtain ⟨target, handler⟩ := target
        simp only
        cases target.gatedTarget with
        | false =>
          rw [Bool.false_and, if_neg Bool.false_ne_true, ih, Bool.not_false, Bool.true_or, Bool.true_and]
        | true =>
          cases carriesApproval arguments with
          | false =>
            rw [Bool.not_false, Bool.and_true, if_pos rfl, Bool.not_true, Bool.or_false,
              Bool.false_and, Bool.and_false]
            rfl
          | true =>
            rw [Bool.not_true, Bool.and_false, if_neg Bool.false_ne_true, ih, Bool.or_true,
              Bool.true_and]

omit [CharData] in
theorem newEffects_delegate (world : World) (request : A2ADelegateRequest) :
    newEffects world (delegate tools .no world request).2 = [.delegated request .no] := by
  simp [newEffects, delegate, World.log]

omit [CharData] in
theorem newEffects_self (world : World) : newEffects world world = [] := by
  simp [newEffects]

theorem handleJsonrpc_effects (world : World) (payload : Dict) :
    newEffects world (handleJsonrpc tools tasks world payload).2 =
      if text (payload.get "method") ∈ sendMethods then
        [.delegated (messageSendRequest (payload.get "params").dict) .no] else [] := by
  unfold handleJsonrpc
  by_cases send : text (payload.get "method") ∈ sendMethods
  · simp only [if_pos send]
    have sent := newEffects_delegate tools world (messageSendRequest (payload.get "params").dict)
    unfold messageSend
    cases outcome : delegate tools .no world (messageSendRequest (payload.get "params").dict) with
    | mk answer after =>
      rw [outcome] at sent
      cases answer <;> exact sent
  · simp only [if_neg send]
    by_cases known : text (payload.get "method") ∈ taskMethods
    · simp only [if_pos known, newEffects_self]
    · simp only [if_neg known, newEffects_self]

theorem delegateA2aTask_effects (world : World) (request : A2ADelegateRequest) (username : String) :
    newEffects world (delegateA2aTask tools world request username).2 =
      if request.highRisk then [] else [.delegated request .no] := by
  unfold delegateA2aTask
  cases risky : request.highRisk with
  | true => simp [newEffects_self]
  | false =>
    have sent := newEffects_delegate tools world request
    rw [if_neg Bool.false_ne_true, if_neg Bool.false_ne_true]
    cases outcome : delegate tools .no world request with
    | mk answer after =>
      rw [outcome] at sent
      cases answer with
      | ok result => exact sent
      | error error => cases kind : error.kind <;> simp only [kind] <;> exact sent

/-- A request starts a delegation of high risk without an approval exactly when it is a send
over JSON-RPC, or a tool call that forges the approval. -/
theorem delegations_gated_iff (world : World) (entry : Entry) :
    (∀ effect ∈ newEffects world (enter tools tasks world entry), ungated effect = false) ↔
      slipsThrough tools entry = false := by
  have quiet : ∀ effects : List Effect, (∀ effect ∈ effects, ungated effect = false) ↔
      effects.any ungated = false := by
    intro effects
    rw [List.any_eq_false]
    simp only [Bool.not_eq_true]
  rw [quiet]
  suffices same : (newEffects world (enter tools tasks world entry)).any ungated = slipsThrough tools entry by
    rw [same]
  cases entry with
  | tool toolName arguments turnId approved =>
    rw [enter, newEffects_execute, executionTrace, slipsThrough]
    cases admitted tools toolName arguments approved with
    | none => rw [Bool.and_false]; rfl
    | some called =>
      obtain ⟨definition, handler⟩ := called
      simp only [trace_ungated]
      cases granted : approved.granted with
      | true => rw [Bool.not_true, Bool.false_and, Bool.false_and]
      | false => rw [handlerArguments, granted, if_neg Bool.false_ne_true]
  | adminDelegate request username =>
    rw [enter, delegateA2aTask_effects, slipsThrough]
    cases risky : request.highRisk <;> simp [ungated, risky]
  | jsonrpc payload =>
    rw [enter, handleJsonrpc_effects, slipsThrough]
    by_cases send : text (payload.get "method") ∈ sendMethods
    · simp [send, ungated, Approved.granted]
    · simp [send]
  | turn message sessionId turnId =>
    rw [enter, slipsThrough]
    cases tools.a2aConfigured && shouldDelegate message with
    | false => simp [newEffects_self]
    | true =>
      simp only [if_true, newEffects_delegate]
      simp [ungated, deepResearchRequest_highRisk]

end Entries

/-- A public message that asks for a coding agent. -/
def codingMessage : Dict :=
  [("jsonrpc", .str "2.0"), ("id", .int 1), ("method", .str "SendMessage"),
    ("params", .obj [("message", .obj [("parts", .arr [.obj [("text", .str "change repo")]]),
      ("metadata", .obj [("capability", .str "code-writing")])])])]

def emptyTaskStore : TaskStore where
  answer _ _ _ := .ok .null
  publish _ result := .ok result

/-- The JSON-RPC interface delegates to it without asking. -/
theorem jsonrpc_delegates_unapproved : ¬∀ effect ∈ newEffects {}
    (@enter CharData.ascii answering emptyTaskStore {} (.jsonrpc codingMessage)),
    @ungated CharData.ascii effect = false := by
  decide

end SoulClaw.Runtime.Delegation
