import SoulClaw.Foundation.JsonText
import SoulClaw.Domain.Tools

/-! The agent turn: the tool loop of the model, its interruption for an approval, and the
continuation of an interrupted turn from the checkpoint that the approval stores. Reading
what a turn may retrieve and writing the conversation are not part of it. -/

namespace SoulClaw.Runtime.Agent
open Foundation Domain.Approvals Domain.Tools A2A

inductive LlmFailure where
  | rateLimited
  | circuitOpen
  | failed (error : String)
  deriving DecidableEq, Repr

inductive LlmStatus where
  | notConfigured
  | delegatedA2a
  | approvalRequired
  | completed
  | completedWithTools
  | rateLimited
  | circuitOpen
  | failed
  | maxToolRounds
  deriving DecidableEq, Repr

def LlmFailure.status : LlmFailure → LlmStatus
  | rateLimited => .rateLimited
  | circuitOpen => .circuitOpen
  | failed _ => .failed

structure LLMToolCall where
  name : String
  arguments : Json
  id : String := ""
  deriving DecidableEq, Repr

structure LLMResponse where
  content : Json
  toolCalls : List LLMToolCall
  deriving DecidableEq, Repr

structure AgentRuntime where
  tools : ToolRuntime
  toolsConfigured : Bool := true
  llmConfigured : Bool := true
  /-- The message with which the remote model answers the last request of the world. -/
  reply : World → List Json → Except LlmFailure Dict

/-! The tool calls of a reply. -/

section Parse
variable [CharData] [NumberData]

def parseArguments (raw : Json) : Json :=
  match raw.or (.str "\x7b\x7d") with
  | .str text => (Json.loads text).getD (.obj [("_raw", .str text)])
  | other =>
      match other.toDict? with
      | some fields => .obj fields
      | none => .obj [("_raw", other)]

/-- One call, which is left out when it has no name. -/
def parseToolCall (raw : Json) : Except PyException (Option LLMToolCall) := do
  let call ← raw.receiver
  let function ← ((call.get "function").or (.obj [])).receiver
  let name := text (function.get "name")
  if name = "" then return none
  return some ⟨name, parseArguments (function.get "arguments"), text (call.get "id")⟩

/-- `_parse_tool_calls`. -/
def parseToolCalls (raw : Json) : Except PyException (List LLMToolCall) := do
  let calls ← (raw.or (.arr [])).toList
  let parsed ← calls.mapM parseToolCall
  return parsed.filterMap id

def readReply (message : Dict) : Except LlmFailure LLMResponse :=
  match parseToolCalls (message.get "tool_calls") with
  | .ok calls => .ok ⟨(message.get "content").or (.str ""), calls⟩
  | .error error => .error (.failed error.str)

/-- `llm.complete`. -/
def complete (runtime : AgentRuntime) (world : World) (messages : List Json) :
    Except LlmFailure LLMResponse × World :=
  let world := { world with requests := world.requests ++ [messages] }
  (runtime.reply world messages >>= readReply, world)

end Parse

/-! One round of tool calls. -/

def callOf (call : LLMToolCall) : Dict :=
  [("id", .str call.id), ("name", .str call.name), ("arguments", call.arguments)]

def idText : Option Nat → String
  | some id => toString id
  | none => ""

/-- The call at which a round stops, with the results before it. -/
structure Interrupt where
  approvalId : Option Nat
  pendingToolCall : Dict
  completedResults : List Json
  approvalResult : Dict
  pendingIndex : Nat
  deriving DecidableEq, Repr

section Round
variable [CharData]

def callName (call : Dict) : String := text ((call.get "name").or (call.get "tool_name"))

def callArguments (call : Dict) : Dict := (call.get "arguments").dict

/-- `bool(call.get("approved", False))`. -/
def callApproved (call : Dict) : Approved := if (call.get "approved").truthy then .caller else .no

/-- The result that stands for an exception. -/
def errorResult (call : Dict) (error : PyException) : Dict :=
  [("status", .str (if error.kind = .permissionError then "approval_required" else "failed")),
    ("error", .str error.str), ("tool_name", (call.get "name").or (call.get "tool_name"))]

def approvalResult (message : String) (toolName : Json) (approvalId : Option Nat) : Dict :=
  [("status", .str "approval_required"), ("error", .str message), ("tool_name", toolName),
    ("approval_id", .str (idText approvalId))]

/-- `_execute_tool_calls`, behind the calls whose results are known. -/
def executeToolCalls (tools : ToolRuntime) (turnId : String) :
    List Json → List Dict → World → Except Interrupt (List Json) × World
  | results, [], world => (.ok results, world)
  | results, call :: rest, world =>
      match execute tools world (callName call) (callArguments call) turnId (callApproved call) with
      | (.ok result, world) => executeToolCalls tools turnId (results ++ [.obj result]) rest world
      | (.error (.approvalRequired message _ approvalId), world) =>
          (.error
            { approvalId := approvalId
              pendingToolCall := call
              completedResults := results
              approvalResult :=
                approvalResult message ((call.get "name").or (call.get "tool_name")) approvalId
              pendingIndex := results.length }, world)
      | (.error (.raised error), world) =>
          executeToolCalls tools turnId (results ++ [.obj (errorResult call error)]) rest world

/-- The id under which the answer to a call is filed. -/
def callId (index : Nat) (call : Dict) : String :=
  ((call.get "id").or (.str ("tool_call_" ++ toString index))).toStr

def assistantToolCall (index : Nat) (call : Dict) : Json :=
  .obj [("id", .str (callId index call)), ("type", .str "function"),
    ("function", .obj [("name", .str (callName call)),
      ("arguments", .str ((call.get "arguments").or (.obj [])).dumps)])]

def toolMessage (toolCallId : String) (result : Json) : Json :=
  .obj [("role", .str "tool"), ("tool_call_id", .str toolCallId), ("content", .str result.dumps)]

def assistantMessage (calls : List Dict) : Json :=
  .obj [("role", .str "assistant"), ("content", .str ""),
    ("tool_calls", .arr (calls.mapIdx assistantToolCall))]

/-- The messages behind a round that has a call for every result. -/
def roundMessages (messages : List Json) (calls : List Dict) (results : List Json) : List Json :=
  messages ++ assistantMessage calls :: List.zipWith toolMessage (calls.mapIdx callId) results

/-- `_append_tool_messages`. -/
def appendToolMessages (messages : List Json) (toolCalls results : List Json) :
    Except PyException (List Json) := do
  let calls ← toolCalls.mapM Json.receiver
  if calls.length < results.length then throw ⟨.indexError, "list index out of range"⟩
  return roundMessages messages calls results

/-- The calls with the ids that `_append_tool_messages` writes into them. -/
def numbered (calls : List Dict) : List Dict :=
  calls.mapIdx fun index call => call.set "id" (.str (callId index call))

end Round

/-! The tool loop. -/

/-- What `_continue_llm_loop` returns. -/
structure LoopOutput where
  answer : Json
  toolCalls : List Json
  status : LlmStatus
  messages : List Json
  toolResults : List Json
  deriving DecidableEq, Repr

/-- An interrupt with the state of the loop around it. -/
structure LoopInterrupt where
  interrupt : Interrupt
  messages : List Json
  toolCalls : List Json
  toolResults : List Json
  roundToolCalls : List Json
  roundIndex : Int
  deriving DecidableEq, Repr

section Loop
variable [CharData] [NumberData] (runtime : AgentRuntime) (turnId : String)

def maxRounds : Int := 4

/-- `_execute_tool_calls`, which has no results without a tool executor. -/
def executeRound (calls : List Dict) (world : World) : Except Interrupt (List Json) × World :=
  if runtime.toolsConfigured then executeToolCalls runtime.tools turnId [] calls world
  else (.ok [], world)

/-- `_continue_llm_loop` with the rounds that are left. -/
def continueLlmLoop : Nat → LLMResponse → List Json → List Json → List Json → LlmStatus → World →
    Except LoopInterrupt LoopOutput × World
  | 0, response, messages, allCalls, toolResults, _, world =>
      (.ok ⟨response.content, allCalls, .maxToolRounds, messages, toolResults⟩, world)
  | remaining + 1, response, messages, allCalls, toolResults, status, world =>
      let calls := response.toolCalls.map callOf
      if calls = [] then (.ok ⟨response.content, allCalls, status, messages, toolResults⟩, world)
      else
        match executeRound runtime turnId calls world with
        | (.error interrupt, world) =>
            (.error
              { interrupt := interrupt
                messages := messages
                toolCalls := allCalls ++ calls.map .obj
                toolResults := toolResults ++ interrupt.completedResults ++ [.obj interrupt.approvalResult]
                roundToolCalls := calls.map .obj
                roundIndex := maxRounds - (remaining + 1 : Nat) }, world)
        | (.ok results, world) =>
            let allCalls := allCalls ++ (numbered calls).map .obj
            let toolResults := toolResults ++ results
            -- `executeRound` has at most one result for every call, so nothing is raised here.
            let messages := roundMessages messages calls results
            match complete runtime world messages with
            | (.error failure, world) =>
                (.ok ⟨.str "", allCalls, failure.status, messages, toolResults⟩, world)
            | (.ok response, world) =>
                continueLlmLoop remaining response messages allCalls toolResults .completedWithTools world

/-- The loop from a round on. -/
def loopFrom (startRound : Int) (response : LLMResponse) (messages allCalls toolResults : List Json)
    (world : World) : Except LoopInterrupt LoopOutput × World :=
  continueLlmLoop runtime turnId (maxRounds - startRound).toNat response messages allCalls toolResults
    (if toolResults = [] then .completed else .completedWithTools) world

/-- `_run_llm`. -/
def runLlm (messages : List Json) (world : World) : Except LoopInterrupt LoopOutput × World :=
  if !runtime.llmConfigured then (.ok ⟨.str "", [], .notConfigured, [], []⟩, world)
  else
    match complete runtime world messages with
    | (.error failure, world) => (.ok ⟨.str "", [], failure.status, messages, []⟩, world)
    | (.ok response, world) => loopFrom runtime turnId 0 response messages [] [] world

end Loop

/-! Answers that the model does not write. -/

def approvalAnswer : String := "Approval is required before I can continue this turn."

def fallbackAnswer (wikiHits resident dynamicMemory toolResults : Nat) : String :=
  Text.joinWith " " (["SoulClaw runtime is online."] ++
    (if wikiHits = 0 then [] else ["Retrieved " ++ toString wikiHits ++ " Wiki item(s)."]) ++
    (if resident = 0 ∧ dynamicMemory = 0 then [] else
      ["Retrieved " ++ toString resident ++ " resident and " ++ toString dynamicMemory ++
        " dynamic memory item(s)."]) ++
    (if toolResults = 0 then [] else ["Executed " ++ toString toolResults ++ " tool call(s)."]))

def degradedAnswer : LlmStatus → String
  | .failed => "The model call failed. The turn was recorded with trace context for troubleshooting."
  | .rateLimited => "The model call was rate limited. Please retry after the configured cooldown window."
  | .circuitOpen => "The model circuit breaker is open. Please retry after the recovery window."
  | _ => ""

/-! A turn. -/

inductive TurnStatus where
  | completed
  | approvalRequired
  | responded
  | rejected
  deriving DecidableEq, Repr

structure AgentTurnResult where
  turnId : String
  answer : Json
  status : TurnStatus := .completed
  approvalId : Option Nat := none
  pendingToolCall : Option Dict := none
  resumeAvailable : Bool := false
  toolResults : List Json := []
  llmStatus : Option LlmStatus := none
  toolCalls : List Json := []
  /-- What the tool loop returned, where it ran to its end. -/
  loop : Option LoopOutput := none
  deriving DecidableEq, Repr

/-- `_save_approval_checkpoint`. -/
def saveApprovalCheckpoint (world : World) (approvalId : Option Nat) (checkpoint : Dict) : World :=
  match approvalId with
  | none => world
  | some id => { world with
      approvals := world.approvals.modify id fun approval =>
        { approval with
          turnCheckpoint := checkpoint
          originalToolCall := (checkpoint.get "pending_tool_call").dict
          allowedDecisions := decisions
          resumeState := approval.resumeState.set "mode" (.str "resume_turn")
          payload :=
            if approval.payload = [] then []
            else approval.payload.set "resume_mode" (.str "agent_tool_loop") } }

def turnCheckpoint (sessionId turnId message : String) (stop : LoopInterrupt) : Dict :=
  [("mode", .str "agent_tool_loop"), ("session_id", .str sessionId), ("turn_id", .str turnId),
    ("message", .str message), ("messages", .arr stop.messages), ("tool_calls", .arr stop.toolCalls),
    ("tool_results", .arr stop.toolResults), ("round_tool_calls", .arr stop.roundToolCalls),
    ("round_completed_results", .arr stop.interrupt.completedResults),
    ("pending_tool_call", .obj stop.interrupt.pendingToolCall),
    ("pending_index", .int stop.interrupt.pendingIndex), ("round_index", .int stop.roundIndex)]

/-- The checkpoint of a resumed turn that is interrupted in a later round. -/
def loopCheckpoint (checkpoint : Dict) (stop : LoopInterrupt) : Dict :=
  [("messages", Json.arr stop.messages), ("tool_calls", .arr stop.toolCalls),
    ("tool_results", .arr stop.toolResults), ("round_tool_calls", .arr stop.roundToolCalls),
    ("round_completed_results", .arr stop.interrupt.completedResults),
    ("pending_tool_call", .obj stop.interrupt.pendingToolCall),
    ("pending_index", .int stop.interrupt.pendingIndex), ("round_index", .int stop.roundIndex)].foldl
      (fun dict field => Dict.set dict field.1 field.2) checkpoint

/-- The checkpoint of a resumed turn that is interrupted in the same round. -/
def roundCheckpoint (checkpoint : Dict) (toolResults completedResults : List Json)
    (pendingToolCall : Dict) (pendingIndex : Int) : Dict :=
  [("tool_results", Json.arr toolResults), ("round_completed_results", .arr completedResults),
    ("pending_tool_call", .obj pendingToolCall), ("pending_index", .int pendingIndex)].foldl
      (fun dict field => Dict.set dict field.1 field.2) checkpoint

/-- What the services retrieve for a turn. -/
structure TurnContext where
  contextText : String := ""
  wikiHits : Nat := 0
  resident : Nat := 0
  dynamicMemory : Nat := 0
  deriving DecidableEq, Repr

def systemPrompt : String :=
  "You are SoulClaw. Memory stores durable facts and preferences; " ++
  "Skills store procedural know-how; LLM-Wiki stores traceable evidence. " ++
  "Use skill_search before reading a full skill, and skill_read only when the skill is relevant. " ++
  "For Wiki-backed facts, first call wiki_route. If it recommends browse_first, use wiki_browse; " ++
  "if search_first, use wiki_search; if bridge, combine wiki_search/wiki_browse with wiki_follow_links. " ++
  "Always call wiki_read before relying on a page body, and use wiki_sufficiency_check for complex " ++
  "or constrained claims. " ++
  "For durable memory facts, use memory_search and memory_get before relying on them. " ++
  "Cite Wiki pages as [[page_key]] when using Wiki evidence, and record useful skill outcomes with " ++
  "skill_use_trace."

def promptMessage (role content : String) : Json := .obj [("role", .str role), ("content", .str content)]

def turnMessages (context : TurnContext) (message : String) : List Json :=
  [promptMessage "system" systemPrompt, promptMessage "system" context.contextText,
    promptMessage "user" message]

section Turn
variable [CharData]

def delegatedAnswer (result : Dict) : String :=
  if result.get "status" = .str "failed" then
    "A2A delegation failed: " ++ ((result.get "error").or (.str "unknown error")).toStr
  else
    let taskId := (result.get "task_id").or (.str "")
    let status := (result.get "status").or (.str "")
    let answer := (result.get "answer").or (.str "")
    let artifacts := (result.get "artifacts").list
    Text.joinWith " " (
      [if status = .str "completed" then "A2A delegation completed" else "A2A delegation started"] ++
      (if taskId.truthy then ["task_id=" ++ taskId.toStr] else []) ++
      (if status.truthy then ["status=" ++ status.toStr] else []) ++
      (if artifacts = [] then [] else ["artifacts=" ++ toString artifacts.length]) ++
      (if answer.truthy then ["\n\n" ++ answer.toStr] else []))

variable [NumberData] (runtime : AgentRuntime)

/-- The delegation with which a turn may start. -/
def delegatedResult (world : World) (message sessionId turnId : String) : Option Dict × World :=
  if runtime.tools.a2aConfigured && shouldDelegate message then
    match delegate runtime.tools .no world (deepResearchRequest message sessionId turnId) with
    | (.ok result, world) => (some result.dict, world)
    | (.error error, world) => (some [("status", .str "failed"), ("error", .str error.str)], world)
  else (none, world)

/-- The calls that a caller hands to the turn; each gets a result. -/
def executeGivenCalls (turnId : String) : List Dict → AgentTurnResult → World → AgentTurnResult × World
  | [], result, world => (result, world)
  | call :: rest, result, world =>
      match execute runtime.tools world (callName call) (callArguments call) turnId (callApproved call) with
      | (.ok report, world) =>
          executeGivenCalls turnId rest { result with toolResults := result.toolResults ++ [.obj report] } world
      | (.error (.approvalRequired message _ approvalId), world) =>
          executeGivenCalls turnId rest
            { result with
              status := .approvalRequired
              approvalId := approvalId
              pendingToolCall := some call
              resumeAvailable := false
              toolResults := result.toolResults ++
                [.obj (approvalResult message ((call.get "name").or (call.get "tool_name")) approvalId)] } world
      | (.error (.raised error), world) =>
          executeGivenCalls turnId rest
            { result with toolResults := result.toolResults ++ [.obj (errorResult call error)] } world

/-- The turn as far as the model drives it. -/
def llmTurn (context : TurnContext) (world : World) (message sessionId turnId : String) :
    AgentTurnResult × World :=
  match runLlm runtime turnId (turnMessages context message) world with
  | (.ok output, world) =>
      ({ turnId := turnId
         answer := output.answer
         toolResults := output.toolResults
         llmStatus := some output.status
         toolCalls := output.toolCalls
         loop := some output }, world)
  | (.error stop, world) =>
      ({ turnId := turnId
         answer := .str approvalAnswer
         status := .approvalRequired
         approvalId := stop.interrupt.approvalId
         pendingToolCall := some stop.interrupt.pendingToolCall
         resumeAvailable := stop.interrupt.approvalId.isSome
         toolResults := stop.toolResults
         llmStatus := some .approvalRequired
         toolCalls := stop.toolCalls },
        saveApprovalCheckpoint world stop.interrupt.approvalId
          (turnCheckpoint sessionId turnId message stop))

/-- `run_turn`; the answer of a loop that has none is replaced. -/
def runTurn (context : TurnContext) (world : World) (message sessionId turnId : String)
    (toolCalls : Option (List Dict)) : AgentTurnResult × World :=
  let (result, world) :=
    match toolCalls with
    | some calls =>
        let result : AgentTurnResult :=
          { turnId := turnId, answer := .str "", llmStatus := some .notConfigured }
        if runtime.toolsConfigured then executeGivenCalls runtime turnId calls result world
        else (result, world)
    | none =>
        match delegatedResult runtime world message sessionId turnId with
        | (some answer, world) =>
            ({ turnId := turnId, answer := .str (delegatedAnswer answer), llmStatus := some .delegatedA2a },
              world)
        | (none, world) => llmTurn runtime context world message sessionId turnId
  let degraded := (result.llmStatus.map degradedAnswer).getD ""
  let fallback := fallbackAnswer (if runtime.llmConfigured then 0 else context.wikiHits)
    context.resident context.dynamicMemory result.toolResults.length
  ({ result with answer := (result.answer.or (.str degraded)).or (.str fallback) }, world)

end Turn

end SoulClaw.Runtime.Agent
