import SoulClaw.Runtime.Mcp

/-! The calls that an execution makes: the executor enters the handler of an MCP tool directly or through `tool_call`,
and hands over its arguments together with its approval. -/

namespace SoulClaw.Runtime.McpCalls
open Foundation Domain.Tools Domain.ToolEffects Domain.Gate A2A Mcp

section Traces
variable [CharData] (sessions : Sessions) (servers : Servers) (tools : ToolRuntime) (registry : ToolRegistry)

theorem sessionCalls_eq (world : World) (toolName : String) (arguments : Dict) (turnId : String) (approved : Approved) :
    sessionCalls sessions servers tools registry world toolName arguments turnId approved =
      (executionTrace (runtime sessions servers tools registry) toolName arguments approved).flatMap
        (reached sessions servers registry) := by
  unfold sessionCalls
  dsimp only
  rw [newEffects_execute]

variable {sessions servers tools registry}

omit [CharData] in
theorem find?_iff {tool : RegisteredTool} {name : String} :
    registry.tools.find? name = some tool ↔ tool ∈ registry.tools.rows ∧ tool.name = name := Keyed.find?_eq_some_iff

omit [CharData] in
/-- A tool that does more than its call has no server to call. -/
theorem target_eq_none {tool : RegisteredTool} {handler : Handler} (member : tool ∈ registry.tools.rows)
    (body : tool.definition.handler = some handler) (other : handler ≠ .other) : tool.target = none := by
  cases target : tool.target with
  | none => rfl
  | some pair =>
    have plain := registry.calls tool member (by rw [target]; rfl)
    rw [body, Option.some.injEq] at plain
    exact absurd plain other

/-- What an admitted execution starts from. -/
theorem tool_of_admitted {toolName : String} {arguments : Dict} {approved : Approved} {definition : ToolDefinition}
    {handler : Handler}
    (passed : admitted (runtime sessions servers tools registry) toolName arguments approved = some (definition, handler)) :
    ∃ tool, registry.tools.find? toolName = some tool ∧ tool.definition = definition ∧
      definition.handler = some handler ∧ (definition.requiresApproval = false ∨ approved.granted = true) := by
  unfold admitted at passed
  split at passed
  · cases passed
  next known found =>
    split at passed
    · cases passed
    next body callable =>
      obtain ⟨tool, stored, rfl⟩ := Option.map_eq_some_iff.1 (show (registry.tools.find? toolName).map _ = some known from found)
      rw [Option.ite_none_right_eq_some, Option.some.injEq, Prod.mk.injEq] at passed
      obtain ⟨gates, rfl, rfl⟩ := passed
      rw [Bool.and_eq_true, Bool.and_eq_true, Bool.or_eq_true, Bool.not_eq_true'] at gates
      exact ⟨tool, stored, rfl, callable, gates.1.2⟩

omit [CharData] in
theorem name_of_find? {tool : RegisteredTool} {name : String} (found : registry.tools.find? name = some tool) :
    tool.definition.name = name := (find?_iff.1 found).2

/-- The calls of a handler that enters no other one. -/
theorem trace_reached {tool : RegisteredTool} {name : String} {handler : Handler} (found : registry.tools.find? name = some tool)
    (body : tool.definition.handler = some handler) (direct : handler ≠ .toolCall) (approved : Approved) (limit : Nat)
    (throughToolCall : Bool) (arguments : Dict) :
    (trace (runtime sessions servers tools registry) approved (limit + 1) throughToolCall tool.definition handler
        arguments).flatMap (reached sessions servers registry) =
      match tool.target with
      | some (serverName, toolName) => (callTool sessions servers serverName toolName arguments).2
      | none => [] := by
  have self : registry.tools.find? tool.definition.name = some tool := by rw [name_of_find? found, found]
  have first : reached sessions servers registry (.ran tool.definition arguments approved throughToolCall) =
      match tool.target with
      | some (serverName, toolName) => (callTool sessions servers serverName toolName arguments).2
      | none => [] := by
    cases target : tool.target with
    | none =>
      unfold reached
      dsimp only
      rw [self, Option.bind_some, target]
    | some pair =>
      unfold reached
      dsimp only
      rw [self, Option.bind_some, target]
  rw [trace.eq_def]
  dsimp only
  rw [List.flatMap_cons, first]
  cases handler with
  | other => exact List.append_nil _
  | toolCall => exact absurd rfl direct
  | a2aDelegate =>
    rw [target_eq_none (find?_iff.1 found).1 body (by decide)]
    dsimp only
    rw [delegationTrace]
    split
    · rfl
    · rfl

/-- The execution of a tool that calls a server makes its calls when it is admitted. -/
theorem sessionCalls_direct {tool : RegisteredTool} {toolName : String} {target : String × String}
    (found : registry.tools.find? toolName = some tool) (calls : tool.target = some target) (world : World)
    (arguments : Dict) (turnId : String) (approved : Approved) :
    sessionCalls sessions servers tools registry world toolName arguments turnId approved =
      if (admitted (runtime sessions servers tools registry) toolName arguments approved).isSome then
        (callTool sessions servers target.1 target.2 (handlerArguments arguments approved)).2
      else [] := by
  rw [sessionCalls_eq, executionTrace]
  cases passed : admitted (runtime sessions servers tools registry) toolName arguments approved with
  | none => rfl
  | some entry =>
    obtain ⟨definition, handler⟩ := entry
    obtain ⟨known, stored, rfl, body, _⟩ := tool_of_admitted passed
    obtain rfl : tool = known := Option.some.inj (found.symm.trans stored)
    have direct : handler ≠ .toolCall := by
      rintro rfl
      have none_ := target_eq_none (find?_iff.1 found).1 body (by decide)
      rw [calls] at none_
      cases none_
    dsimp only
    rw [trace_reached found body direct, calls]
    rfl

/-- The handler of an MCP tool that an execution enters, the arguments that it is handed, and the gate in front of it. -/
inductive Entered (registry : ToolRegistry) (arguments : Dict) (approved : Approved) :
    String → RegisteredTool → Dict → Prop
  | directly {toolName : String} {tool : RegisteredTool} (found : registry.tools.find? toolName = some tool)
      (gate : tool.definition.requiresApproval = false ∨ approved.granted = true) :
      Entered registry arguments approved toolName tool (handlerArguments arguments approved)
  | throughToolCall {tool : RegisteredTool}
      (found : registry.tools.find? (text (arguments.get "tool_name")) = some tool)
      (gate : tool.definition.gatedTarget = false ∨ carriesApproval (handlerArguments arguments approved) = true) :
      Entered registry arguments approved "tool_call" tool (toolCallArguments (handlerArguments arguments approved))

theorem toolCallTarget_ok {arguments : Dict} {target : ToolDefinition} {handler : Handler}
    (found : toolCallTarget (runtime sessions servers tools registry) arguments = .ok (target, handler)) :
    ∃ tool, registry.tools.find? (text (arguments.get "tool_name")) = some tool ∧ tool.definition = target ∧
      target.handler = some handler ∧ tool.name ≠ "tool_call" := by
  unfold toolCallTarget at found
  dsimp only at found
  generalize text (arguments.get "tool_name") = name at found ⊢
  by_cases recursive : name = "tool_call" ∨ name = ""
  · rw [if_pos recursive] at found
    cases found
  · rw [if_neg recursive] at found
    split at found
    · cases found
    next known stored =>
      split at found
      · cases found
      next body callable =>
        split at found
        · cases found
        · rw [Except.ok.injEq, Prod.mk.injEq] at found
          obtain ⟨rfl, rfl⟩ := found
          obtain ⟨tool, registered, rfl⟩ :=
            Option.map_eq_some_iff.1 (show (registry.tools.find? name).map _ = some known from stored)
          refine ⟨tool, registered, rfl, callable, ?_⟩
          intro same
          exact recursive (.inl ((find?_iff.1 registered).2.symm.trans same))

omit [CharData] in
theorem handlerArguments_toolName (arguments : Dict) (approved : Approved) :
    (handlerArguments arguments approved).get "tool_name" = arguments.get "tool_name" := by
  unfold handlerArguments
  split
  · rw [Dict.get_set, if_neg (by decide)]
  · rfl

/-- A call that the target of a tool makes. -/
theorem target_of_mem {tool : RegisteredTool} {handed : Dict} {call : SessionCall}
    (member : call ∈ (match tool.target with
      | some (serverName, toolName) => (callTool sessions servers serverName toolName handed).2
      | none => [])) :
    ∃ target, tool.target = some target ∧ call ∈ (callTool sessions servers target.1 target.2 handed).2 := by
  cases calls : tool.target with
  | none =>
    rw [calls] at member
    exact absurd member List.not_mem_nil
  | some target =>
    rw [calls] at member
    exact ⟨target, rfl, member⟩

/-- The calls of `tool_call` are made by the tool that it chooses. -/
theorem entered_of_mem_toolCall {tool : RegisteredTool} {arguments : Dict} {approved : Approved} {call : SessionCall}
    (found : registry.tools.find? "tool_call" = some tool) (body : tool.definition.handler = some .toolCall)
    (made : call ∈ (trace (runtime sessions servers tools registry) approved
      ((runtime sessions servers tools registry).recursionLimit + 1) false tool.definition .toolCall
        (handlerArguments arguments approved)).flatMap (reached sessions servers registry)) :
    ∃ other target handed, Entered registry arguments approved "tool_call" other handed ∧ other.target = some target ∧
      call ∈ (callTool sessions servers target.1 target.2 handed).2 := by
  have silent : reached sessions servers registry
      (.ran tool.definition (handlerArguments arguments approved) approved false) = [] := by
    unfold reached
    dsimp only
    rw [name_of_find? found, found, Option.bind_some, target_eq_none (find?_iff.1 found).1 body (by decide)]
  rw [trace.eq_def] at made
  dsimp only at made
  rw [List.flatMap_cons, silent, List.nil_append] at made
  cases chosen : toolCallTarget (runtime sessions servers tools registry) (handlerArguments arguments approved) with
  | error raised =>
    rw [chosen] at made
    exact absurd made List.not_mem_nil
  | ok chosenTool =>
    obtain ⟨target, next⟩ := chosenTool
    rw [chosen] at made
    obtain ⟨other, stored, rfl, callable, apart⟩ := toolCallTarget_ok chosen
    rw [handlerArguments_toolName] at stored
    dsimp only at made
    by_cases closed : (other.definition.gatedTarget && !carriesApproval (handlerArguments arguments approved)) = true
    · rw [if_pos closed] at made
      exact absurd made List.not_mem_nil
    · rw [if_neg closed] at made
      have open_ : other.definition.gatedTarget = false ∨
          carriesApproval (handlerArguments arguments approved) = true := by
        rw [Bool.and_eq_true, Bool.not_eq_true', not_and_or, Bool.not_eq_true, Bool.not_eq_false] at closed
        exact closed
      have plain : next ≠ .toolCall := by
        rintro rfl
        exact apart (registry.dispatches other (find?_iff.1 stored).1 callable)
      cases limit : (runtime sessions servers tools registry).recursionLimit with
      | zero =>
        rw [limit] at made
        exact absurd made List.not_mem_nil
      | succ limit =>
        rw [limit, trace_reached stored callable plain] at made
        obtain ⟨pair, calls, member⟩ := target_of_mem made
        exact ⟨other, pair, _, .throughToolCall stored open_, calls, member⟩

/-- Every call of an execution is made by an MCP tool whose handler the execution enters. -/
theorem entered_of_mem {world : World} {toolName : String} {arguments : Dict} {turnId : String} {approved : Approved}
    {call : SessionCall}
    (made : call ∈ sessionCalls sessions servers tools registry world toolName arguments turnId approved) :
    ∃ tool target handed, Entered registry arguments approved toolName tool handed ∧ tool.target = some target ∧
      call ∈ (callTool sessions servers target.1 target.2 handed).2 := by
  rw [sessionCalls_eq, executionTrace] at made
  cases passed : admitted (runtime sessions servers tools registry) toolName arguments approved with
  | none =>
    rw [passed] at made
    exact absurd made List.not_mem_nil
  | some entry =>
    obtain ⟨definition, handler⟩ := entry
    rw [passed] at made
    obtain ⟨tool, found, rfl, body, gate⟩ := tool_of_admitted passed
    dsimp only at made
    by_cases direct : handler = .toolCall
    · subst direct
      have named : toolName = "tool_call" := by
        rw [← (find?_iff.1 found).2]
        exact registry.dispatches tool (find?_iff.1 found).1 body
      subst named
      exact entered_of_mem_toolCall found body made
    · rw [trace_reached found body direct] at made
      obtain ⟨pair, calls, member⟩ := target_of_mem made
      exact ⟨tool, pair, _, .directly found gate, calls, member⟩

/-- A call that reaches a server carries the arguments that the handler was handed, under the permission of the row. -/
theorem mem_callTool {serverName toolName : String} {arguments : Dict} {call : SessionCall}
    (made : call ∈ (callTool sessions servers serverName toolName arguments).2) :
    ∃ server config, servers.find? serverName = some server ∧ server.enabled = true ∧
      serverConfig server = .ok config ∧ call = ⟨serverName, toolName, arguments, toolPermission config toolName⟩ := by
  unfold callTool at made
  split at made
  · exact absurd made List.not_mem_nil
  next server found =>
    split at made
    · exact absurd made List.not_mem_nil
    next enabled =>
      split at made
      · exact absurd made List.not_mem_nil
      next config configured =>
        refine ⟨server, config, found, ?_, configured, List.eq_of_mem_replicate made⟩
        rwa [Bool.not_eq_true', Bool.not_eq_false] at enabled

end Traces

/-! The arguments of a call. -/

section Arguments
variable [CharData]

omit [CharData] in
/-- The arguments that a caller submits to a tool, next to its name where it goes through `tool_call`. -/
def submitted (toolName : String) (arguments : Dict) : Dict :=
  if toolName = "tool_call" then (arguments.get "arguments").dict else arguments

/-- The execution is approved, or its caller says so to `tool_call`. -/
def marked (toolName : String) (arguments : Dict) (approved : Approved) : Bool :=
  approved.granted || toolName = "tool_call" && carriesApproval arguments

omit [CharData] in
theorem carriesApproval_handlerArguments (arguments : Dict) (approved : Approved) :
    carriesApproval (handlerArguments arguments approved) = (approved.granted || carriesApproval arguments) := by
  unfold handlerArguments
  split
  next granted =>
    unfold carriesApproval
    rw [granted, Dict.get_set_self]
    rfl
  next denied => rw [Bool.not_eq_true _ |>.mp denied, Bool.false_or]

variable {sessions : Sessions} {servers : Servers} {tools : ToolRuntime} {registry : ToolRegistry}

omit [CharData] in
theorem name_of_target {tool : RegisteredTool} {name : String} (found : registry.tools.find? name = some tool)
    {target : String × String} (calls : tool.target = some target) : name ≠ "tool_call" := by
  obtain ⟨member, named⟩ := find?_iff.1 found
  have mcp := registry.names tool member (by rw [calls]; rfl)
  rw [named] at mcp
  rintro rfl
  exact absurd mcp (by decide)

/-- What a handler is handed: the submitted arguments, with the flag where the execution is marked. -/
theorem handed_eq {toolName : String} {arguments handed : Dict} {approved : Approved} {tool : RegisteredTool}
    {target : String × String} (entered : Entered registry arguments approved toolName tool handed)
    (calls : tool.target = some target) :
    handed = if marked toolName arguments approved then (submitted toolName arguments).set "_approved" (.bool true)
      else submitted toolName arguments := by
  cases entered with
  | directly found gate =>
    have other := name_of_target found calls
    unfold marked submitted handlerArguments
    rw [if_neg other, decide_eq_false other, Bool.false_and, Bool.or_false]
  | throughToolCall found gate =>
    have inner : (handlerArguments arguments approved).get "arguments" = arguments.get "arguments" := by
      unfold handlerArguments
      split
      · rw [Dict.get_set, if_neg (by decide)]
      · rfl
    unfold marked submitted toolCallArguments
    dsimp only
    rw [carriesApproval_handlerArguments, inner, if_pos rfl, decide_eq_true rfl, Bool.true_and]

/-- A call carries the arguments that were submitted exactly when the execution is not marked, or the flag was
submitted with them. -/
theorem call_arguments_iff {world : World} {toolName : String} {arguments : Dict} {turnId : String} {approved : Approved}
    {call : SessionCall}
    (made : call ∈ sessionCalls sessions servers tools registry world toolName arguments turnId approved) :
    call.arguments = submitted toolName arguments ↔
      marked toolName arguments approved = false ∨
        (submitted toolName arguments).lookup "_approved" = some (.bool true) := by
  obtain ⟨tool, target, handed, entered, calls, member⟩ := entered_of_mem made
  obtain ⟨server, config, _, _, _, rfl⟩ := mem_callTool member
  show handed = submitted toolName arguments ↔ _
  rw [handed_eq entered calls]
  cases marked toolName arguments approved with
  | false => exact iff_of_true rfl (.inl rfl)
  | true =>
    rw [if_pos rfl, Dict.set_eq_self_iff]
    exact ⟨.inr, fun either => either.resolve_left Bool.true_eq_false.mp⟩

end Arguments

section Files
attribute [local instance] CharData.ascii

/-- A connected server with one tool to read and one to write. -/
def filesServer : MCPServer where
  name := "files"
  transport := "http"
  url := "http://files"
  status := "connected"
  toolCount := 2
  config := [("tools", .obj [("override_permission", .obj [("read", .str "safe")])])]
  toolsCache := (discovered [("name", .str "files"), ("tools", .obj [("override_permission", .obj [("read", .str "safe")])])]
    [{ name := "read" }, { name := "write" }]).map MCPToolDescriptor.toCache

def filesServers : Servers := ⟨[filesServer], by decide⟩

/-- Sessions in which the first attempt succeeds. -/
def answered : Sessions where
  tries _ := 1
  answer _ := .ok (.obj [])

def written : Dict := [("path", .str "a.md")]

/-- The calls of an execution over the built-in tools and the ones of the server. -/
def filesCalls (toolName : String) (arguments : Dict) (approved : Approved) : List SessionCall :=
  sessionCalls answered filesServers answering (installIntoRegistry filesServers builtinTools) {} toolName arguments
    "turn" approved

theorem call_arguments_read :
    (⟨"files", "read", written, "safe"⟩ : SessionCall) ∈ filesCalls "mcp__files__read" written .no ∧
      (written = submitted "mcp__files__read" written ↔ marked "mcp__files__read" written .no = false ∨
        (submitted "mcp__files__read" written).lookup "_approved" = some (.bool true)) := by
  have made : (⟨"files", "read", written, "safe"⟩ : SessionCall) ∈ filesCalls "mcp__files__read" written .no := by
    decide +kernel
  exact ⟨made, call_arguments_iff made⟩

/-- The server gets the flag of an approved call. -/
theorem flag_reaches_server :
    ¬∀ call ∈ filesCalls "mcp__files__write" written .caller, call.arguments = submitted "mcp__files__write" written := by
  decide +kernel

end Files

end SoulClaw.Runtime.McpCalls
