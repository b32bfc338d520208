import SoulClaw.Domain.Approvals
import SoulClaw.Runtime.A2A

/-! The tool registry, the hard safety floor and the audited execution of a tool. What a
handler does outside the registry is a parameter of the runtime; the two handlers that
dispatch further, `tool_call` and `a2a_delegate`, are modelled in full. -/

namespace SoulClaw.Domain.Tools
open Foundation Approvals Runtime.A2A

/-- The handler of a tool: one of the two that read the approval flag, or any other body. -/
inductive Handler where
  | toolCall
  | a2aDelegate
  | other
  deriving DecidableEq, Repr

structure ToolDefinition where
  name : String
  scope : String
  requiresApproval : Bool := false
  available : Bool := true
  handler : Option Handler := none
  deriving DecidableEq, Repr

inductive ToolRunStatus where
  | running
  | succeeded
  | failed
  | approvalRequired
  deriving DecidableEq, Repr

structure ToolRun where
  turnId : String
  toolName : String
  status : ToolRunStatus := .running
  arguments : Dict
  result : Json := .obj []
  deriving DecidableEq, Repr

/-- The `approved` flag of an execution, together with where it comes from: the caller, or
the decision on a stored approval. -/
inductive Approved where
  | no
  | caller
  | stored (approval : Nat)
  deriving DecidableEq, Repr

def Approved.granted : Approved → Bool
  | no => false
  | _ => true

/-- What leaves the executor: a handler body that is entered, and a delegation that starts. -/
inductive Effect where
  | ran (tool : ToolDefinition) (arguments : Dict) (approved : Approved) (throughToolCall : Bool)
  | delegated (request : A2ADelegateRequest) (approved : Approved)
  deriving DecidableEq, Repr

structure World where
  approvals : Table Approval := .empty
  toolRuns : Table ToolRun := .empty
  effects : List Effect := []
  /-- The message lists that the model has been asked to complete. -/
  requests : List (List Json) := []
  deriving DecidableEq, Repr

def World.log (world : World) (effect : Effect) : World :=
  { world with effects := world.effects ++ [effect] }

/-- The database as it was, after the transaction is rolled back; effects stay. -/
def World.rollback (before after : World) : World :=
  { after with approvals := before.approvals, toolRuns := before.toolRuns }

/-- An exception that `execute` raises. -/
inductive Failure where
  | raised (error : PyException)
  | approvalRequired (message toolName : String) (approvalId : Option Nat)
  deriving DecidableEq, Repr

structure ToolRuntime where
  registry : String → Option ToolDefinition
  /-- `pattern.search(text)` of a compiled pattern. -/
  search : String → String → Bool := fun _ _ => false
  a2aConfigured : Bool := true
  platformConfigured : Bool := true
  /-- How deep the interpreter lets handlers call each other. -/
  recursionLimit : Nat := 1000
  /-- The body of any other handler. -/
  perform : World → String → Dict → Except PyException Json
  /-- The answer to a delegation. -/
  delegate : World → A2ADelegateRequest → Except PyException Json

section Safety
variable [CharData]

def blockedPatterns : List String :=
  ["\\brm\\s+-rf\\s+/", "\\bgit\\s+reset\\s+--hard\\b", "\\bgit\\s+checkout\\s+--\\s+/", "\\bmkfs\\.",
    "\\bchmod\\s+-R\\s+777\\s+/"]

def mutatingScopes : List String :=
  ["memory.write", "skill.write", "wiki.write", "system.write", "external.write"]

def ToolDefinition.mutating (tool : ToolDefinition) : Bool := tool.scope ∈ mutatingScopes

def validate (search : String → String → Bool) (tool : ToolDefinition) (arguments : Dict)
    (approved : Bool) : Except PyException Unit :=
  match blockedPatterns.find? fun pattern => search pattern (Json.obj arguments).repr with
  | some pattern => .error ⟨.permissionError, "blocked by hard safety floor: " ++ pattern⟩
  | none =>
      if tool.mutating && tool.requiresApproval && !approved then
        .error ⟨.permissionError, "tool requires approval before execution"⟩
      else .ok ()

end Safety

section Handlers
variable [CharData] (tools : ToolRuntime)

/-- `bool(arguments.get("_approved"))`. -/
def carriesApproval (arguments : Dict) : Bool := (arguments.get "_approved").truthy

/-- The gate of `_tool_call`, stricter than the one of `execute`. -/
def ToolDefinition.gatedTarget (tool : ToolDefinition) : Bool := tool.requiresApproval || tool.mutating

def toolCallArguments (arguments : Dict) : Dict :=
  let callArguments := (arguments.get "arguments").dict
  if carriesApproval arguments then callArguments.set "_approved" (.bool true) else callArguments

/-- The tool that `_tool_call` dispatches to, before it looks at the approval. -/
def toolCallTarget (arguments : Dict) : Except PyException (ToolDefinition × Handler) :=
  let toolName := text (arguments.get "tool_name")
  if toolName = "tool_call" ∨ toolName = "" then
    .error ⟨.valueError, "tool_call requires a non-recursive target tool_name"⟩
  else
    match tools.registry toolName with
    | none => .error ⟨.keyError, "tool not found: " ++ toolName⟩
    | some tool =>
        match tool.handler with
        | none => .error ⟨.keyError, "tool not found: " ++ toolName⟩
        | some handler =>
            if !tool.available then .error ⟨.runtimeError, "tool unavailable: " ++ toolName⟩
            else .ok (tool, handler)

/-- `delegate`: the task is created and the message is sent. -/
def delegate (approved : Approved) (world : World) (request : A2ADelegateRequest) :
    Except PyException Json × World :=
  (tools.delegate world request, world.log (.delegated request approved))

def a2aDelegate (approved : Approved) (world : World) (arguments : Dict) :
    Except PyException Json × World :=
  let request := delegateToolRequest arguments
  if !tools.a2aConfigured then (.error ⟨.runtimeError, "A2A runtime is not configured"⟩, world)
  else if request.highRisk && !carriesApproval arguments then
    (.error ⟨.permissionError, "A2A delegation requires approval for high-risk capability"⟩, world)
  else delegate tools approved world request

/-- One handler call; every call takes a frame of the recursion limit. -/
def handle (approved : Approved) :
    Nat → Bool → World → ToolDefinition → Handler → Dict → Except PyException Json × World
  | 0, _, world, _, _, _ => (.error ⟨.runtimeError, "maximum recursion depth exceeded"⟩, world)
  | limit + 1, throughToolCall, world, tool, handler, arguments =>
      let world := world.log (.ran tool arguments approved throughToolCall)
      match handler with
      | .other => (tools.perform world tool.name arguments, world)
      | .a2aDelegate => a2aDelegate tools approved world arguments
      | .toolCall =>
          match toolCallTarget tools arguments with
          | .error error => (.error error, world)
          | .ok (target, handler) =>
              let toolName := text (arguments.get "tool_name")
              if target.gatedTarget && !carriesApproval arguments then
                (.error ⟨.permissionError, "tool requires approval: " ++ toolName⟩, world)
              else
                match handle approved limit true world target handler (toolCallArguments arguments) with
                | (.error error, world) => (.error error, world)
                | (.ok result, world) =>
                    (.ok (.obj [("tool_name", .str toolName), ("result", result)]), world)

end Handlers

section Executor
variable [CharData] (tools : ToolRuntime)

def approvalText : Option Nat → Json
  | some id => .str (toString id)
  | none => .null

def toolApprovalRequest (toolName : String) (arguments : Dict) (turnId : String)
    (dynamicApproval : Bool) : ApprovalRequest where
  subjectType := "tool_run"
  subjectId := toolName
  payload :=
    let payload : Dict :=
      [("tool_name", .str toolName), ("arguments", .obj arguments), ("turn_id", .str turnId)]
    if dynamicApproval then payload.set "dynamic_approval" (.bool true) else payload
  originalToolCall := [("tool_name", .str toolName), ("arguments", .obj arguments)]
  turnCheckpoint := [("turn_id", .str turnId), ("tool_name", .str toolName)]
  allowedDecisions := decisions
  resumeState := [("mode", .str "rerun_tool")]

def createToolApproval (world : World) (request : ApprovalRequest) : Option Nat × World :=
  if tools.platformConfigured then
    let (id, approvals) := createApproval world.approvals request
    (some id, { world with approvals := approvals })
  else (none, world)

def World.startRun (world : World) (run : ToolRun) : World :=
  { world with toolRuns := world.toolRuns.insert run }

def World.finishRun (world : World) (id : Nat) (status : ToolRunStatus) (result : Json) : World :=
  { world with
    toolRuns := world.toolRuns.modify id fun run => { run with status := status, result := result } }

/-- What `execute` returns. -/
def toolReport (run : Nat) (toolName : String) (result : Json) : Dict :=
  [("tool_run_id", .str (toString run)), ("tool_name", .str toolName), ("status", .str "succeeded"),
    ("result", result)]

/-- The call of the handler inside its `ToolRun`. -/
def runTool (world : World) (definition : ToolDefinition) (handler : Handler) (toolName : String)
    (arguments : Dict) (turnId : String) (approved : Approved) : Except Failure Dict × World :=
  let run := world.toolRuns.size
  let world := world.startRun { turnId := turnId, toolName := toolName, arguments := arguments }
  let handlerArguments :=
    if approved.granted then arguments.set "_approved" (.bool true) else arguments
  match handle tools approved (tools.recursionLimit + 1) false world definition handler handlerArguments with
  | (.ok result, world) => (.ok (toolReport run toolName result), world.finishRun run .succeeded result)
  | (.error error, world) =>
      if error.kind = .permissionError then
        let (approval, world) :=
          createToolApproval tools world (toolApprovalRequest toolName arguments turnId true)
        (.error (.approvalRequired error.str toolName approval),
          world.finishRun run .approvalRequired
            (.obj [("error", .str error.str), ("approval_id", approvalText approval)]))
      else
        (.error (.raised error), world.finishRun run .failed (.obj [("error", .str error.str)]))

/-- `ToolExecutor.execute`. -/
def execute (world : World) (toolName : String) (arguments : Dict) (turnId : String)
    (approved : Approved) : Except Failure Dict × World :=
  match tools.registry toolName with
  | none => (.error (.raised ⟨.keyError, "tool not found: " ++ toolName⟩), world)
  | some definition =>
      match definition.handler with
      | none => (.error (.raised ⟨.keyError, "tool not found: " ++ toolName⟩), world)
      | some handler =>
          if !definition.available then
            (.error (.raised ⟨.runtimeError, "tool unavailable: " ++ toolName⟩), world)
          else if definition.requiresApproval && !approved.granted then
            let (approval, world) :=
              createToolApproval tools world (toolApprovalRequest toolName arguments turnId false)
            (.error (.approvalRequired ("tool requires approval: " ++ toolName) toolName approval), world)
          else
            match validate tools.search definition arguments approved.granted with
            | .error error => (.error (.raised error), world)
            | .ok () => runTool tools world definition handler toolName arguments turnId approved

end Executor

/-! The registered tools that reach beyond one handler body. -/

def toolCallTool : ToolDefinition :=
  { name := "tool_call", scope := "system.write", handler := some .toolCall }

def gatewaySendTool : ToolDefinition :=
  { name := "gateway_send", scope := "external.write", requiresApproval := true, handler := some .other }

def a2aDelegateTool : ToolDefinition :=
  { name := "a2a_delegate", scope := "external.write", handler := some .a2aDelegate }

def builtinRegistry (toolName : String) : Option ToolDefinition :=
  [toolCallTool, gatewaySendTool, a2aDelegateTool].find? fun tool => tool.name = toolName

end SoulClaw.Domain.Tools
