import SoulClaw.Runtime.IdealTurn
import SoulClaw.Runtime.ResumeTurn

/-! Rounds of calls whose tools raise nothing but the request for an approval. Such a round
runs as it is meant up to the first call that asks, whether it starts at its first call or
is resumed at a pending one. -/

namespace SoulClaw.Runtime.Rounds
open Foundation Domain.Approvals Domain.Tools Domain.ToolEffects A2A Agent ResumeTurn IdealTurn

/-! The call that the loop makes of a call of the model. -/

section Calls
variable [CharData]

theorem callName_callOf (call : LLMToolCall) : callName (callOf call) = call.name := by
  have named : (callOf call).get "name" = .str call.name := rfl
  have unnamed : (callOf call).get "tool_name" = .null := rfl
  rw [callName, named, unnamed]
  by_cases empty : call.name = ""
  · rw [empty]
    rfl
  · rw [Json.or_of_truthy (by simpa [Json.truthy] using empty), text_str]

omit [CharData] in
theorem callArguments_callOf (call : LLMToolCall) : callArguments (callOf call) = call.arguments.dict := rfl

omit [CharData] in
theorem callApproved_callOf (call : LLMToolCall) : callApproved (callOf call) = .no := rfl

/-- The call with the arguments that `resume_turn` puts in the place of its own. -/
def normalizedCall (call : LLMToolCall) : LLMToolCall := { call with arguments := .obj call.arguments.dict }

omit [CharData] in
theorem executionOf_normalizedCall (call : LLMToolCall) :
    executionOf (normalizedCall call) = executionOf call := rfl

end Calls

/-! What the tools are relied on for. -/

section Tools
variable [CharData] (tools : ToolRuntime) (model : Model) (result : Results)

/-- The execution returns the result that belongs behind what has completed. -/
def Returns (world : World) (execution : Execution) (turnId : String) (approved : Approved) : Prop :=
  (execute tools world execution.1 execution.2 turnId approved).1 =
    .ok (toolReport world.toolRuns.size execution.1 (result (completed world) execution.1 execution.2))

/-- The execution asks for an approval, which is stored. -/
def Asks (world : World) (execution : Execution) (turnId : String) (approved : Approved) : Prop :=
  ∃ message id,
    (execute tools world execution.1 execution.2 turnId approved).1 =
      .error (.approvalRequired message execution.1 (some id))

/-- A call of the model returns once it is approved, and at worst asks before. -/
structure Cooperative : Prop where
  approved : ∀ world execution turnId id, model.Requests execution →
    Returns tools result world execution turnId (.stored id)
  unapproved : ∀ world execution turnId, model.Requests execution →
    Returns tools result world execution turnId .no ∨ Asks tools world execution turnId .no

/-- No call of the model needs an approval. -/
def Ungated : Prop :=
  ∀ world execution turnId, model.Requests execution → Returns tools result world execution turnId .no

end Tools

/-! Single executions. -/

/-- The approval has a row, and nobody has edited its arguments. -/
def Asked (world : World) (id : Nat) : Prop :=
  ∃ row, world.approvals.get? id = some row ∧ row.editedArguments = []

/-- The calls have been answered, and the model has not been asked meanwhile. -/
structure Performed (result : Results) (before : World) (calls : List LLMToolCall) (results : List Json)
    (after : World) : Prop where
  reports : List.Forall₂ ReportOf (idealRound result (completed before) (calls.map executionOf)) results
  history : completed after = completed before ++ calls.map executionOf
  requests : after.requests = before.requests

theorem Performed.length {result : Results} {before after : World} {calls : List LLMToolCall} {results : List Json}
    (performed : Performed result before calls results after) : results.length = calls.length := by
  rw [← performed.reports.length_eq, length_idealRound, List.length_map]

/-- What is stored about the calls beside their executions does not matter. -/
theorem Performed.congr {result : Results} {before after : World} {calls others : List LLMToolCall}
    {results : List Json} (performed : Performed result before calls results after)
    (same : others.map executionOf = calls.map executionOf) :
    Performed result before others results after where
  reports := same ▸ performed.reports
  history := same ▸ performed.history
  requests := performed.requests

theorem Performed.refl (result : Results) (world : World) : Performed result world [] [] world where
  reports := List.Forall₂.nil
  history := by rw [List.map_nil, List.append_nil]
  requests := rfl

theorem Performed.trans {result : Results} {first second third : World} {calls others : List LLMToolCall}
    {results more : List Json} (earlier : Performed result first calls results second)
    (later : Performed result second others more third) :
    Performed result first (calls ++ others) (results ++ more) third := by
  constructor
  · rw [List.map_append, idealRound_append, ← earlier.history]
    exact List.rel_append earlier.reports later.reports
  · rw [later.history, earlier.history, List.map_append, List.append_assoc]
  · rw [later.requests, earlier.requests]

section Executions
variable [CharData] {tools : ToolRuntime}

theorem not_asks_of_returns {result : Results} {world : World} {execution : Execution} {turnId : String}
    {approved : Approved} (returns : Returns tools result world execution turnId approved) :
    ¬Asks tools world execution turnId approved := by
  intro ⟨message, id, asks⟩
  rw [Returns, asks] at returns
  cases returns

theorem execute_returns {result : Results} {world : World} {call : LLMToolCall} {turnId : String} {approved : Approved}
    (returns : Returns tools result world (executionOf call) turnId approved) :
    ∃ report after, execute tools world call.name call.arguments.dict turnId approved = (.ok report, after) ∧
      Performed result world [call] [.obj report] after := by
  have spec := execute_executed tools world call.name call.arguments.dict turnId approved
  unfold Returns executionOf at returns
  generalize execute tools world call.name call.arguments.dict turnId approved = step at spec returns ⊢
  cases spec with
  | succeeded value _ _ requests history =>
    obtain same := Except.ok.inj returns
    refine ⟨_, _, rfl, ?_, history, requests⟩
    exact List.Forall₂.cons ⟨_, congrArg Json.obj same⟩ List.Forall₂.nil
  | asked => cases returns
  | raised => cases returns

theorem execute_asks (result : Results) {world : World} {call : LLMToolCall} {turnId : String} {approved : Approved}
    (asks : Asks tools world (executionOf call) turnId approved) :
    ∃ message id after,
      execute tools world call.name call.arguments.dict turnId approved =
        (.error (.approvalRequired message call.name (some id)), after) ∧
      Performed result world [] [] after ∧ Asked after id := by
  have spec := execute_executed tools world call.name call.arguments.dict turnId approved
  obtain ⟨message, id, asks⟩ := asks
  unfold executionOf at asks
  generalize execute tools world call.name call.arguments.dict turnId approved = step at spec asks ⊢
  cases spec with
  | succeeded => cases asks
  | raised => cases asks
  | asked message request approval approvals requests history =>
    cases asks
    rcases approvals with ⟨absent, _⟩ | ⟨made, added⟩
    · cases absent
    · refine ⟨_, _, _, rfl, ⟨List.Forall₂.nil, ?_, requests⟩, request.row, ?_, rfl⟩
      · rw [history, List.map_nil, List.append_nil]
      · rw [added, Option.some.inj made, Table.get?_insert_self]

end Executions

/-! Rounds. -/

/-- The round stops at the call, with the results of the calls before it. -/
structure StopsAt [CharData] (tools : ToolRuntime) (result : Results) (turnId : String) (before : World)
    (calls done : List LLMToolCall) (call : LLMToolCall) (results : List Json) (id : Nat)
    (after : World) : Prop where
  place : done ++ [call] <+: calls
  performed : Performed result before done results after
  asked : Asked after id
  gated : ∃ world, Asks tools world (executionOf call) turnId .no

section Rounds
variable [CharData] {tools : ToolRuntime} {result : Results} {turnId : String}

theorem StopsAt.later {before between after : World} {first call : LLMToolCall}
    {rest done : List LLMToolCall} {report : Json} {results : List Json} {id : Nat}
    (earlier : Performed result before [first] [report] between)
    (stops : StopsAt tools result turnId between rest done call results id after) :
    StopsAt tools result turnId before (first :: rest) (first :: done) call (report :: results) id after where
  place := List.cons_prefix_cons.2 ⟨rfl, stops.place⟩
  performed := earlier.trans stops.performed
  asked := stops.asked
  gated := stops.gated

theorem StopsAt.mem {before after : World} {calls done : List LLMToolCall} {call : LLMToolCall}
    {results : List Json} {id : Nat}
    (stops : StopsAt tools result turnId before calls done call results id after) : call ∈ calls := by
  apply stops.place.subset
  exact List.mem_append_right done List.mem_cons_self

theorem stopsAt_first {world after : World} {call : LLMToolCall} (rest : List LLMToolCall) {id : Nat}
    (asks : Asks tools world (executionOf call) turnId .no) (performed : Performed result world [] [] after)
    (asked : Asked after id) : StopsAt tools result turnId world (call :: rest) [] call [] id after where
  place := List.prefix_append [call] rest
  performed := performed
  asked := asked
  gated := ⟨world, asks⟩

/-- The interrupt at a call of the model. -/
def interruptAt (call : LLMToolCall) (results : List Json) (message : String) (id : Nat) : Interrupt where
  approvalId := some id
  pendingToolCall := callOf call
  completedResults := results
  approvalResult :=
    approvalResult message (((callOf call).get "name").or ((callOf call).get "tool_name")) (some id)
  pendingIndex := results.length

variable {calls : List LLMToolCall} (either : ∀ world, ∀ call ∈ calls,
  Returns tools result world (executionOf call) turnId .no ∨ Asks tools world (executionOf call) turnId .no)
include either

theorem executeToolCalls_spec (known : List Json) (world : World) :
    (∃ results after,
      executeToolCalls tools turnId known (calls.map callOf) world = (.ok (known ++ results), after) ∧
        Performed result world calls results after) ∨
    ∃ done call results message id after,
      executeToolCalls tools turnId known (calls.map callOf) world =
        (.error (interruptAt call (known ++ results) message id), after) ∧
      StopsAt tools result turnId world calls done call results id after := by
  induction calls generalizing known world with
  | nil =>
    refine .inl ⟨[], world, ?_, .refl result world⟩
    rw [List.append_nil]
    rfl
  | cons call rest ih =>
    have others := fun world next member => either world next (List.mem_cons_of_mem call member)
    rw [List.map_cons, executeToolCalls, callName_callOf, callArguments_callOf, callApproved_callOf]
    rcases either world call List.mem_cons_self with returns | asks
    · obtain ⟨report, between, returned, first⟩ := execute_returns returns
      rw [returned]
      rcases ih others (known ++ [.obj report]) between with
        ⟨results, after, ran, performed⟩ | ⟨done, next, results, message, id, after, ran, stops⟩
      · refine .inl ⟨.obj report :: results, after, ?_, first.trans performed⟩
        rw [List.append_assoc, List.singleton_append] at ran
        exact ran
      · refine .inr ⟨call :: done, next, .obj report :: results, message, id, after, ?_, stops.later first⟩
        rw [List.append_assoc, List.singleton_append] at ran
        exact ran
    · obtain ⟨message, id, after, raised, performed, asked⟩ := execute_asks result asks
      refine .inr ⟨[], call, [], message, id, after, ?_, stopsAt_first rest asks performed asked⟩
      rw [raised, List.append_nil]
      rfl

theorem resumeCalls_spec (runtime : AgentRuntime) (same : runtime.tools = tools) (index : Nat)
    (known : List Json) (world : World) :
    (∃ results after,
      resumeCalls runtime turnId index known (calls.map fun call => .obj (callOf call)) world =
        (.ok (known ++ results), after) ∧ Performed result world calls results after) ∨
    ∃ done call results message id after,
      resumeCalls runtime turnId index known (calls.map fun call => .obj (callOf call)) world =
        (.error (.asked (callOf call) ((index + results.length : Nat) : Int) (known ++ results) message (some id)),
          after) ∧
      StopsAt tools result turnId world calls done call results id after := by
  induction calls generalizing index known world with
  | nil =>
    refine .inl ⟨[], world, ?_, .refl result world⟩
    rw [List.append_nil]
    rfl
  | cons call rest ih =>
    have others := fun world next member => either world next (List.mem_cons_of_mem call member)
    rw [List.map_cons, resumeCalls]
    simp only [Json.receiver, callName_callOf, callArguments_callOf, callApproved_callOf, same]
    rcases either world call List.mem_cons_self with returns | asks
    · obtain ⟨report, between, returned, first⟩ := execute_returns returns
      rw [returned]
      rcases ih others (index + 1) (known ++ [.obj report]) between with
        ⟨results, after, ran, performed⟩ | ⟨done, next, results, message, id, after, ran, stops⟩
      · refine .inl ⟨.obj report :: results, after, ?_, first.trans performed⟩
        rw [List.append_assoc, List.singleton_append] at ran
        exact ran
      · refine .inr ⟨call :: done, next, .obj report :: results, message, id, after, ?_, stops.later first⟩
        rw [List.append_assoc, List.singleton_append, Nat.add_right_comm] at ran
        exact ran
    · obtain ⟨message, id, after, raised, performed, asked⟩ := execute_asks result asks
      refine .inr ⟨[], call, [], message, id, after, ?_, stopsAt_first rest asks performed asked⟩
      rw [raised, List.append_nil]
      rfl

end Rounds

section Resumed
variable [CharData] {result : Results} {turnId : String}

/-- The rest of a round whose pending call is approved. -/
theorem resumeRound_spec (runtime : AgentRuntime) (id : Nat) {done rest : List LLMToolCall}
    (call : LLMToolCall) {round : Round}
    (calls : round.toolCalls = (done ++ call :: rest).map fun call => .obj (callOf call))
    (index : round.pendingIndex = done.length) (world : World)
    (approved : Returns runtime.tools result world (executionOf call) turnId (.stored id))
    (either : ∀ world, ∀ call ∈ rest, Returns runtime.tools result world (executionOf call) turnId .no ∨
      Asks runtime.tools world (executionOf call) turnId .no) :
    (∃ results after,
      resumeRound runtime id turnId (callOf (normalizedCall call)) round world =
        (.ok (round.completedResults ++ results), after) ∧
      Performed result world (call :: rest) results after) ∨
    ∃ more next results message asked after,
      resumeRound runtime id turnId (callOf (normalizedCall call)) round world =
        (.error (.asked (callOf next) ((done.length + results.length : Nat) : Int)
          (round.completedResults ++ results) message (some asked)), after) ∧
      StopsAt runtime.tools result turnId world (call :: rest) (call :: more) next results asked after := by
  have slice : sliceFrom round.toolCalls round.pendingIndex =
      .obj (callOf call) :: rest.map fun call => .obj (callOf call) := by
    rw [calls, index, sliceFrom_natCast, List.map_append, List.drop_append_of_le_length (by simp),
      List.drop_of_length_le (by simp), List.nil_append, List.map_cons]
  obtain ⟨report, between, returned, first⟩ := execute_returns approved
  rw [resumeRound, slice]
  simp only [callName_callOf, callArguments_callOf]
  have pending : execute runtime.tools world (normalizedCall call).name (normalizedCall call).arguments.dict
      turnId (.stored id) = (.ok report, between) := returned
  rw [pending, index]
  rcases resumeCalls_spec either runtime rfl (done.length + 1) (round.completedResults ++ [.obj report]) between
    with ⟨results, after, ran, performed⟩ | ⟨more, next, results, message, asked, after, ran, stops⟩
  · refine .inl ⟨.obj report :: results, after, ?_, first.trans performed⟩
    rw [List.append_assoc, List.singleton_append] at ran
    exact ran
  · refine .inr ⟨more, next, .obj report :: results, message, asked, after, ?_, stops.later first⟩
    rw [List.append_assoc, List.singleton_append, Nat.add_right_comm] at ran
    exact ran

end Resumed

/-! The model behind a round. -/

section Loop
variable [CharData] [NumberData]

/-- The tools are there, and the model answers every request of the runtime. -/
structure Serves (runtime : AgentRuntime) (model : Model) : Prop where
  tools : runtime.toolsConfigured = true
  llm : runtime.llmConfigured = true
  answers : ∀ world messages, runtime.reply world messages >>= readReply = .ok (model.complete messages)

def requested (world : World) (messages : List Json) : World :=
  { world with requests := world.requests ++ [messages] }

theorem complete_serves {runtime : AgentRuntime} {model : Model} (serves : Serves runtime model)
    (world : World) (messages : List Json) :
    complete runtime world messages = (.ok (model.complete messages), requested world messages) := by
  show (runtime.reply (requested world messages) messages >>= readReply, requested world messages) = _
  rw [serves.answers]

omit [NumberData] in
/-- A round that has been performed, with the request behind it, is a round of the ideal turn. -/
theorem tracks_round {result : Results} {progress : Progress} {messages allCalls : List Json}
    {start after : World} (tracks : Tracks progress messages allCalls start)
    {calls : List LLMToolCall} {results more : List Json}
    (performed : Performed result start calls results after) (counted : more.length = calls.length) :
    Tracks (progress.round result calls) (roundMessages messages (calls.map callOf) results)
      (allCalls ++ more) (requested after (roundMessages messages (calls.map callOf) results)) := by
  constructor
  · apply renders_round (calls.map callOf) tracks.entries
    rw [← tracks.history]
    exact performed.reports
  · exact performed.history.trans (congrArg (· ++ calls.map executionOf) tracks.history)
  · rw [requested, List.length_append, performed.requests, tracks.requests]
    rfl
  · rw [List.length_append, tracks.calls, counted]
    rfl

/-- The first request of a turn, and the loop behind it. -/
theorem runLlm_serves {runtime : AgentRuntime} {model : Model} (serves : Serves runtime model)
    (turnId : String) (messages : List Json) (world : World) :
    runLlm runtime turnId messages world =
      continueLlmLoop runtime turnId 4 (model.complete messages) messages [] [] .completed
        (requested world messages) := by
  rw [runLlm, serves.llm, complete_serves serves]
  rfl

omit [CharData] [NumberData] in
theorem tracks_start (world : World) (messages : List Json) :
    Tracks
      { entries := messages.map .message
        history := completed world
        requests := world.requests.length + 1
        calls := 0 } messages [] (requested world messages) := by
  refine ⟨renders_messages messages, rfl, ?_, rfl⟩
  rw [requested, List.length_append]
  rfl

/-- A message that is not delegated goes to the tool loop; only its answer is touched again. -/
theorem runTurn_handled (runtime : AgentRuntime) {message : String}
    (handled : (runtime.tools.a2aConfigured && A2A.shouldDelegate message) = false)
    (context : TurnContext) (world : World) (sessionId turnId : String) :
    ∃ answer, runTurn runtime context world message sessionId turnId none =
      ({ (llmTurn runtime context world message sessionId turnId).1 with answer := answer },
        (llmTurn runtime context world message sessionId turnId).2) := by
  rw [runTurn, delegatedResult, handled]
  exact ⟨_, rfl⟩

end Loop

end SoulClaw.Runtime.Rounds
