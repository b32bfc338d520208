import SoulClaw.Domain.ToolEffects
import SoulClaw.Foundation.JsonRead
import SoulClaw.Foundation.Yaml
import SoulClaw.Runtime.Agent

/-! What a turn sends to the model: after the messages that it starts with, rounds of one message with tool calls and
the answers to them. Reading such a message as the reply of a model gives the calls that it was written for. -/

namespace SoulClaw.Runtime.Dialogue
open Foundation Domain.Tools Domain.ToolEffects A2A Agent

section Calls
variable [CharData] [NumberData]

/-- A call as the transcript shows it. -/
def echoed (index : Nat) (call : LLMToolCall) : LLMToolCall :=
  ⟨call.name, call.arguments.or (.obj []), callId index (callOf call)⟩

omit [NumberData] in
theorem callName_callOf (call : LLMToolCall) : callName (callOf call) = call.name := by
  unfold callName
  show text ((Json.str call.name).or (Dict.get (callOf call) "tool_name")) = call.name
  by_cases blank : call.name = ""
  · rw [blank]
    rfl
  · rw [Json.or_of_truthy (by simpa [Json.truthy] using blank), text_str]

omit [NumberData] in
theorem callId_callOf (index : Nat) (call : LLMToolCall) :
    callId index (callOf call) = if call.id = "" then "tool_call_" ++ toString index else call.id := by
  show ((Json.str call.id).or (.str ("tool_call_" ++ toString index))).toStr = _
  by_cases blank : call.id = ""
  · rw [if_pos blank, blank]
    rfl
  · rw [if_neg blank, Json.or_of_truthy (by simpa [Json.truthy] using blank)]
    rfl

omit [NumberData] in
theorem callId_ne_empty (index : Nat) (call : LLMToolCall) : callId index (callOf call) ≠ "" := by
  rw [callId_callOf]
  split_ifs with blank
  · intro same
    have texts := congrArg String.toList same
    rw [String.toList_append] at texts
    cases texts
  · exact blank

omit [CharData] [NumberData] in
theorem or_or (value : Json) : (value.or (.obj [])).or (.obj []) = value.or (.obj []) := by
  unfold Json.or
  cases filled : value.truthy with
  | true => simp only [filled, if_true]
  | false => simp only [Bool.false_eq_true, if_false, ite_self]

omit [CharData] [NumberData] in
theorem or_arr (items : List Json) : (Json.arr items).or (.arr []) = .arr items := by
  cases items <;> rfl

omit [NumberData] in
/-- An echoed call is shown as the call itself. -/
theorem assistantToolCall_echoed (index : Nat) (call : LLMToolCall) :
    assistantToolCall index (callOf (echoed index call)) = assistantToolCall index (callOf call) := by
  have id : callId index (callOf (echoed index call)) = callId index (callOf call) := by
    rw [callId_callOf]
    exact if_neg (callId_ne_empty index call)
  have arguments : (Dict.get (callOf (echoed index call)) "arguments").or (.obj []) =
      (Dict.get (callOf call) "arguments").or (.obj []) := or_or call.arguments
  unfold assistantToolCall
  rw [id, arguments, callName_callOf, callName_callOf]
  rfl

omit [CharData] in
/-- Arguments that are written as a text are read as they were. -/
theorem parseArguments_dumps {arguments : Json} (proper : Loads.Proper arguments) :
    parseArguments (.str arguments.dumps) = arguments := by
  obtain ⟨c, later, chars, _⟩ := Loads.dumps_head proper
  have visible : arguments.dumps ≠ "" := by
    intro same
    rw [same] at chars
    cases chars
  have read := Loads.loads_dumps proper (fun (c : Char) (member : c ∈ []) => absurd member List.not_mem_nil)
  rw [List.nil_append, String.ofList_toList] at read
  unfold parseArguments
  rw [Json.or_of_truthy (by simpa [Json.truthy] using visible)]
  simp only [read, Option.getD_some]

omit [CharData] in
theorem proper_or {arguments : Json} (proper : Loads.Proper arguments) : Loads.Proper (arguments.or (.obj [])) := by
  unfold Json.or
  split_ifs
  · exact proper
  · exact ⟨List.nodup_nil, trivial⟩

/-- What the transcript shows of a call is read as this call. -/
theorem parseToolCall_assistantToolCall (index : Nat) {call : LLMToolCall} (named : call.name ≠ "")
    (proper : Loads.Proper call.arguments) :
    parseToolCall (assistantToolCall index (callOf call)) = .ok (some (echoed index call)) := by
  have name : text (Json.str (callName (callOf call))) = call.name := by rw [text_str, callName_callOf]
  have id : text (Json.str (callId index (callOf call))) = callId index (callOf call) := text_str _
  have arguments : parseArguments (.str ((Dict.get (callOf call) "arguments").or (.obj [])).dumps) =
      call.arguments.or (.obj []) := parseArguments_dumps (proper_or proper)
  show (if text (Json.str (callName (callOf call))) = "" then Except.ok none
    else Except.ok (some (LLMToolCall.mk (text (Json.str (callName (callOf call))))
      (parseArguments (.str ((Dict.get (callOf call) "arguments").or (.obj [])).dumps))
      (text (Json.str (callId index (callOf call))))))) = _
  rw [name, if_neg named, id, arguments]
  rfl

/-- The calls of a round as the transcript shows them. -/
def echoes (calls : List LLMToolCall) : List LLMToolCall := calls.mapIdx echoed

theorem parseToolCalls_assistantMessage {calls : List LLMToolCall} (named : ∀ call ∈ calls, call.name ≠ "")
    (proper : ∀ call ∈ calls, Loads.Proper call.arguments) :
    parseToolCalls (Dict.get (assistantMessage (calls.map callOf)).dict "tool_calls") = .ok (echoes calls) := by
  have read : ∀ (calls : List LLMToolCall) (show_ : Nat → Dict → Json) (echo : Nat → LLMToolCall → LLMToolCall),
      (∀ index, ∀ call ∈ calls, parseToolCall (show_ index (callOf call)) = .ok (some (echo index call))) →
      ((calls.map callOf).mapIdx show_).mapM parseToolCall = .ok ((calls.mapIdx echo).map some) := by
    intro calls
    induction calls with
    | nil => exact fun _ _ _ => rfl
    | cons call rest ih =>
      intro show_ echo reads
      rw [List.map_cons, List.mapIdx_cons, List.mapM_cons, reads 0 call List.mem_cons_self, List.mapIdx_cons,
        ih _ (fun index => echo (index + 1)) fun index other member => reads (index + 1) other (List.mem_cons_of_mem _ member)]
      rfl
  have parsed := read calls assistantToolCall echoed fun index call member =>
    parseToolCall_assistantToolCall index (named call member) (proper call member)
  show parseToolCalls (.arr ((calls.map callOf).mapIdx assistantToolCall)) = _
  unfold parseToolCalls
  rw [or_arr]
  show (((calls.map callOf).mapIdx assistantToolCall).mapM parseToolCall >>= fun parsed => pure (parsed.filterMap id)) = _
  rw [parsed]
  show Except.ok (((calls.mapIdx echoed).map some).filterMap id) = _
  rw [List.filterMap_map]
  exact congrArg _ (List.filterMap_some ..)

omit [NumberData] in
theorem assistantMessage_echoes (calls : List LLMToolCall) :
    assistantMessage ((echoes calls).map callOf) = assistantMessage (calls.map callOf) := by
  have shown : ((echoes calls).map callOf).mapIdx assistantToolCall = (calls.map callOf).mapIdx assistantToolCall := by
    apply List.ext_getElem
    · simp [echoes]
    · intro index inside _
      simp only [echoes, List.getElem_mapIdx, List.getElem_map]
      exact assistantToolCall_echoed index _
  unfold assistantMessage
  rw [shown]

/-! The grammar of a dialogue. -/

/-- The identifier that an answer names. -/
def toolCallId (message : Json) : Json := Dict.get message.dict "tool_call_id"

/-- After the messages that a turn starts with, rounds: a message whose calls, read and written once more, give this
message, and one answer for each of them, in their order. -/
inductive Spoken (start : List Json) : List Json → Prop
  | opened : Spoken start start
  | round {messages : List Json} {assistant : Json} {calls : List LLMToolCall} {answers : List Json}
      (spoken : Spoken start messages) (some_ : calls ≠ [])
      (read : parseToolCalls (Dict.get assistant.dict "tool_calls") = .ok calls)
      (written : assistantMessage (calls.map callOf) = assistant)
      (answered : answers.map toolCallId = calls.map fun call => .str call.id)
      (roles : ∀ answer ∈ answers, Dict.get answer.dict "role" = .str "tool") :
      Spoken start (messages ++ assistant :: answers)

omit [CharData] [NumberData] in
theorem map_toolCallId (ids : List String) (results : List Json) (counted : results.length = ids.length) :
    (List.zipWith toolMessage ids results).map toolCallId = ids.map Json.str := by
  induction ids generalizing results with
  | nil => rfl
  | cons id rest ih =>
    cases results with
    | nil => cases counted
    | cons result later =>
      rw [List.zipWith_cons_cons, List.map_cons, List.map_cons, ih later (Nat.succ.inj counted)]
      rfl

omit [CharData] [NumberData] in
theorem role_toolMessage {ids : List String} {results : List Json} {answer : Json}
    (member : answer ∈ List.zipWith toolMessage ids results) : Dict.get answer.dict "role" = .str "tool" := by
  obtain ⟨index, inside, rfl⟩ := List.getElem_of_mem member
  rw [List.getElem_zipWith]
  rfl

/-- A round that answers all of its calls goes on with the dialogue. -/
theorem Spoken.round_of_results {start messages results : List Json} {calls : List LLMToolCall}
    (spoken : Spoken start messages) (some_ : calls ≠ []) (named : ∀ call ∈ calls, call.name ≠ "")
    (proper : ∀ call ∈ calls, Loads.Proper call.arguments) (counted : results.length = calls.length) :
    Spoken start (roundMessages messages (calls.map callOf) results) := by
  have ids : ((calls.map callOf).mapIdx callId).map Json.str = (echoes calls).map fun call => .str call.id := by
    apply List.ext_getElem
    · simp [echoes]
    · intro index inside _
      simp [echoes, echoed]
  have answered : (List.zipWith toolMessage ((calls.map callOf).mapIdx callId) results).map toolCallId =
      (echoes calls).map fun call => .str call.id := by
    rw [map_toolCallId _ _ (by simp [counted]), ids]
  have filled : echoes calls ≠ [] := by simpa [echoes] using some_
  exact .round spoken filled (parseToolCalls_assistantMessage named proper) (assistantMessage_echoes calls) answered
    fun answer member => role_toolMessage member

/-! The loop. -/

variable (runtime : AgentRuntime) (turnId : String)

omit [NumberData] in
/-- A round that is not interrupted has a result for each call, and asks the model for nothing. -/
theorem executeToolCalls_ok (tools : ToolRuntime) (calls : List Dict) (known : List Json) (world : World) :
    (executeToolCalls tools turnId known calls world).2.requests = world.requests ∧
      ∀ results, (executeToolCalls tools turnId known calls world).1 = .ok results →
        results.length = known.length + calls.length := by
  induction calls generalizing known world with
  | nil =>
    refine ⟨rfl, fun results done => ?_⟩
    cases done
    rfl
  | cons call rest ih =>
    have spec := execute_executed tools world (callName call) (callArguments call) turnId (callApproved call)
    rw [executeToolCalls]
    generalize execute tools world (callName call) (callArguments call) turnId (callApproved call) = outcome at spec
    have longer : ∀ (result : Json) (results : List Json),
        results.length = (known ++ [result]).length + rest.length → results.length = known.length + (call :: rest).length := by
      intro result results counted
      rw [counted, List.length_append, List.length_singleton, List.length_cons, Nat.add_assoc, Nat.add_comm 1]
    cases spec with
    | succeeded result passed approvals requests history =>
      obtain ⟨same, counted⟩ := ih (known ++ [.obj (toolReport world.toolRuns.size (callName call) result)]) _
      exact ⟨same.trans requests, fun results done => longer _ results (counted results done)⟩
    | asked message request approval approvals requests history =>
      refine ⟨requests, fun results done => ?_⟩
      cases done
    | raised error approvals requests history =>
      obtain ⟨same, counted⟩ := ih (known ++ [.obj (errorResult call error)]) _
      exact ⟨same.trans requests, fun results done => longer _ results (counted results done)⟩

/-- What `json.loads` makes of the arguments in a reply is a value that `json.dumps` writes. -/
def Reads : Prop := ∀ world messages response, runtime.reply world messages >>= readReply = .ok response →
  ∀ call ∈ response.toolCalls, Loads.Proper call.arguments

/-- The calls of a response that a round can be made of. -/
def Sayable (response : LLMResponse) : Prop :=
  ∀ call ∈ response.toolCalls, call.name ≠ "" ∧ Loads.Proper call.arguments

theorem parseToolCall_named {raw : Json} {call : LLMToolCall} (parsed : parseToolCall raw = .ok (some call)) :
    call.name ≠ "" := by
  unfold parseToolCall at parsed
  obtain ⟨fields, _, parsed⟩ := bind_eq_ok.1 parsed
  obtain ⟨function, _, parsed⟩ := bind_eq_ok.1 parsed
  dsimp only at parsed
  split_ifs at parsed with unnamed
  · cases parsed
  · cases parsed
    exact unnamed

/-- A call without a name is left out. -/
theorem parseToolCalls_named {raw : Json} {calls : List LLMToolCall} (parsed : parseToolCalls raw = .ok calls) :
    ∀ call ∈ calls, call.name ≠ "" := by
  unfold parseToolCalls at parsed
  obtain ⟨items, _, parsed⟩ := bind_eq_ok.1 parsed
  obtain ⟨read, done, parsed⟩ := bind_eq_ok.1 parsed
  cases parsed
  intro call member
  obtain ⟨one, listed, same⟩ := List.mem_filterMap.1 member
  obtain rfl : one = some call := same
  have each : ∀ (items : List Json) (read : List (Option LLMToolCall)), items.mapM parseToolCall = .ok read →
      some call ∈ read → ∃ item, parseToolCall item = .ok (some call) := by
    intro items
    induction items with
    | nil =>
      intro read done listed
      cases done
      cases listed
    | cons item rest ih =>
      intro read done listed
      rw [List.mapM_cons] at done
      obtain ⟨first, parsed, done⟩ := bind_eq_ok.1 done
      obtain ⟨others, later, done⟩ := bind_eq_ok.1 done
      cases done
      rcases List.mem_cons.1 listed with rfl | behind
      · exact ⟨item, parsed⟩
      · exact ih others later behind
  obtain ⟨item, parsed⟩ := each items read done listed
  exact parseToolCall_named parsed

variable {runtime}

theorem complete_sayable (reads : Reads runtime) {world after : World} {messages : List Json} {response : LLMResponse}
    (done : complete runtime world messages = (.ok response, after)) : Sayable response := by
  unfold complete at done
  obtain ⟨replied, _⟩ := Prod.mk.inj done
  intro call member
  refine ⟨?_, reads _ _ _ replied call member⟩
  obtain ⟨message, _, read⟩ := bind_eq_ok.1 replied
  unfold readReply at read
  cases parsed : parseToolCalls (Dict.get message "tool_calls") with
  | error raised =>
    rw [parsed] at read
    cases read
  | ok calls =>
    rw [parsed] at read
    cases read
    exact parseToolCalls_named parsed call member

theorem requests_complete (runtime : AgentRuntime) (world : World) (messages : List Json) :
    (complete runtime world messages).2.requests = world.requests ++ [messages] := rfl

/-- Every request of the loop is a dialogue, as long as the round before it was. -/
theorem requests_loop (configured : runtime.toolsConfigured = true) (reads : Reads runtime) {start : List Json}
    (remaining : Nat) {response : LLMResponse} (sayable : Sayable response) {messages : List Json}
    (spoken : Spoken start messages) (allCalls toolResults : List Json) (status : LlmStatus) (world : World) :
    ∀ request ∈ (continueLlmLoop runtime turnId remaining response messages allCalls toolResults status world).2.requests,
      request ∈ world.requests ∨ Spoken start request := by
  induction remaining generalizing response messages allCalls toolResults status world with
  | zero => exact fun request member => .inl member
  | succ remaining ih =>
    rw [continueLlmLoop]
    by_cases silent : response.toolCalls.map callOf = []
    · rw [if_pos silent]
      exact fun request member => .inl member
    · rw [if_neg silent]
      have round := executeToolCalls_ok turnId runtime.tools (response.toolCalls.map callOf) [] world
      have executes : executeRound runtime turnId (response.toolCalls.map callOf) world =
          executeToolCalls runtime.tools turnId [] (response.toolCalls.map callOf) world := if_pos configured
      rw [executes]
      cases called : executeToolCalls runtime.tools turnId [] (response.toolCalls.map callOf) world with
      | mk outcome after =>
        rw [called] at round
        cases outcome with
        | error interrupt =>
          intro request member
          exact .inl (round.1 ▸ member)
        | ok results =>
          have counted : results.length = response.toolCalls.length := by
            rw [round.2 results rfl, List.length_map, List.length_nil, Nat.zero_add]
          have later : Spoken start (roundMessages messages (response.toolCalls.map callOf) results) :=
            spoken.round_of_results (fun none => silent (by rw [none]; rfl)) (fun call member => (sayable call member).1)
              (fun call member => (sayable call member).2) counted
          have asked := requests_complete runtime after (roundMessages messages (response.toolCalls.map callOf) results)
          have settled : ∀ request ∈ world.requests ++ [roundMessages messages (response.toolCalls.map callOf) results],
              request ∈ world.requests ∨ Spoken start request := by
            intro request member
            rcases List.mem_append.1 member with old | new
            · exact .inl old
            · exact .inr (List.mem_singleton.1 new ▸ later)
          rw [round.1] at asked
          dsimp only
          cases completed : complete runtime after (roundMessages messages (response.toolCalls.map callOf) results) with
          | mk reply final =>
            rw [completed] at asked
            cases reply with
            | error failure =>
              intro request member
              exact settled request (asked ▸ member)
            | ok next =>
              intro request member
              rcases ih (complete_sayable reads completed) later _ _ _ final request member with old | new
              · exact settled request (asked ▸ old)
              · exact .inr new

/-! A turn. -/

theorem requests_runLlm (configured : runtime.toolsConfigured = true) (reads : Reads runtime) (messages : List Json)
    (world : World) : ∀ request ∈ (runLlm runtime turnId messages world).2.requests,
      request ∈ world.requests ∨ Spoken messages request := by
  have asked := requests_complete runtime world messages
  have settled : ∀ request ∈ world.requests ++ [messages], request ∈ world.requests ∨ Spoken messages request := by
    intro request member
    rcases List.mem_append.1 member with old | new
    · exact .inl old
    · exact .inr (List.mem_singleton.1 new ▸ .opened)
  unfold runLlm
  split_ifs
  · exact fun request member => .inl member
  · cases completed : complete runtime world messages with
    | mk reply after =>
      rw [completed] at asked
      cases reply with
      | error failure =>
        intro request member
        exact settled request (asked ▸ member)
      | ok response =>
        intro request member
        rcases requests_loop turnId configured reads _ (complete_sayable reads completed) .opened _ _ _ after request member
          with old | new
        · exact settled request (asked ▸ old)
        · exact .inr new

omit [NumberData] in
theorem requests_executeGivenCalls (runtime : AgentRuntime) (calls : List Dict) (result : AgentTurnResult) (world : World) :
    (executeGivenCalls runtime turnId calls result world).2.requests = world.requests := by
  induction calls generalizing result world with
  | nil => rfl
  | cons call rest ih =>
    have spec := execute_executed runtime.tools world (callName call) (callArguments call) turnId (callApproved call)
    rw [executeGivenCalls]
    generalize execute runtime.tools world (callName call) (callArguments call) turnId (callApproved call) = outcome at spec
    cases spec with
    | succeeded value passed approvals requests history => exact (ih _ _).trans requests
    | asked message request approval approvals requests history => exact (ih _ _).trans requests
    | raised error approvals requests history => exact (ih _ _).trans requests

omit [NumberData] in
theorem requests_delegatedResult (runtime : AgentRuntime) (world : World) (message sessionId turnId : String) :
    (delegatedResult runtime world message sessionId turnId).2.requests = world.requests := by
  unfold delegatedResult
  split_ifs
  · have logged : (delegate runtime.tools .no world (deepResearchRequest message sessionId turnId)).2.requests =
        world.requests := by
      unfold delegate
      rfl
    cases delegated : delegate runtime.tools .no world (deepResearchRequest message sessionId turnId) with
    | mk outcome after =>
      rw [delegated] at logged
      cases outcome <;> exact logged
  · rfl

theorem requests_llmTurn (configured : runtime.toolsConfigured = true) (reads : Reads runtime) (context : TurnContext)
    (world : World) (message sessionId turnId : String) :
    ∀ request ∈ (llmTurn runtime context world message sessionId turnId).2.requests,
      request ∈ world.requests ∨ Spoken (turnMessages context message) request := by
  have asked := requests_runLlm turnId configured reads (turnMessages context message) world
  unfold llmTurn
  cases ran : runLlm runtime turnId (turnMessages context message) world with
  | mk outcome after =>
    rw [ran] at asked
    cases outcome with
    | ok output => exact asked
    | error stop =>
      have kept : ∀ checkpoint, (saveApprovalCheckpoint after stop.interrupt.approvalId checkpoint).requests =
          after.requests := by
        intro checkpoint
        unfold saveApprovalCheckpoint
        cases stop.interrupt.approvalId <;> rfl
      intro request member
      exact asked request (kept _ ▸ member)

/-- Whatever the model replies and the tools do, each list of messages that a turn sends to the model is a dialogue: each
of its messages with tool calls is followed by one answer for each call, and reading and writing these calls once more
gives the message again. -/
theorem turn_speaks (configured : runtime.toolsConfigured = true) (reads : Reads runtime) (context : TurnContext)
    (world : World) (message sessionId turnId : String) (toolCalls : Option (List Dict)) :
    ∀ request ∈ (runTurn runtime context world message sessionId turnId toolCalls).2.requests,
      request ∈ world.requests ∨ Spoken (turnMessages context message) request := by
  unfold runTurn
  cases toolCalls with
  | some calls =>
    intro request member
    simp only [configured, if_true, requests_executeGivenCalls] at member
    exact .inl member
  | none =>
    dsimp only
    have delegated := requests_delegatedResult runtime world message sessionId turnId
    cases answered : delegatedResult runtime world message sessionId turnId with
    | mk answer after =>
      rw [answered] at delegated
      cases answer with
      | some result =>
        intro request member
        exact .inl (delegated ▸ member)
      | none =>
        intro request member
        exact delegated ▸ requests_llmTurn configured reads context after message sessionId turnId request member

end Calls

section Demo
attribute [local instance] CharData.ascii NumberData.decimal

/-- A model that looks something up, in a call without an identifier, and then answers. -/
private def lookupReply : Dict :=
  [("content", .str ""), ("tool_calls", .arr [.obj [("function",
    .obj [("name", .str "look"), ("arguments", .str "\x7b\"q\": \"tea\"\x7d")])]])]

private def lookupRuntime : AgentRuntime where
  tools :=
    { registry := fun toolName =>
        if toolName = "look" then some { name := "look", scope := "wiki.read", handler := some .other } else none
      perform := fun _ _ _ => .ok (.str "green")
      delegate := fun _ _ => .ok .null }
  reply _ messages := if messages.length = 3 then .ok lookupReply else .ok [("content", .str "Green.")]

theorem lookupRuntime_reads : Reads lookupRuntime := by
  intro world messages response replied
  unfold lookupRuntime at replied
  simp only at replied
  by_cases first : messages.length = 3
  · rw [if_pos first] at replied
    have parsed : readReply lookupReply =
        .ok ⟨.str "", [⟨"look", .obj [("q", .str "tea")], ""⟩]⟩ := by decide +kernel
    have same := parsed.symm.trans replied
    cases same
    intro call member
    rw [List.mem_singleton.1 member]
    exact ⟨by decide, trivial, trivial⟩
  · rw [if_neg first] at replied
    have parsed : readReply [("content", .str "Green.")] = .ok ⟨.str "Green.", []⟩ := by decide +kernel
    have same := parsed.symm.trans replied
    cases same
    simp

theorem lookup_turn_speaks :
    (runTurn lookupRuntime {} {} "Which tea?" "session" "turn" none).2.requests.length = 2 ∧
      ∀ request ∈ (runTurn lookupRuntime {} {} "Which tea?" "session" "turn" none).2.requests,
        request ∈ ({} : World).requests ∨ Spoken (turnMessages {} "Which tea?") request :=
  ⟨by decide +kernel, turn_speaks rfl lookupRuntime_reads {} {} "Which tea?" "session" "turn" none⟩

end Demo

end SoulClaw.Runtime.Dialogue
