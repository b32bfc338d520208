import SoulClaw.Runtime.Rounds

/-! The turn in which no call needs an approval does as the ideal turn. -/

namespace SoulClaw.Runtime.Uninterrupted
open Foundation Domain.Tools Domain.ToolEffects A2A Agent IdealTurn Rounds

theorem requests_response (model : Model) (messages : List Json) :
    ∀ call ∈ (model.complete messages).toolCalls, model.Requests (executionOf call) :=
  fun call member => ⟨messages, call, member, rfl⟩

section Loop
variable [CharData] {runtime : AgentRuntime} {model : Model} {result : Results} (turnId : String)

theorem executeRound_ungated (configured : runtime.toolsConfigured = true)
    (ungated : Ungated runtime.tools model result) {calls : List LLMToolCall}
    (requests : ∀ call ∈ calls, model.Requests (executionOf call)) (world : World) :
    ∃ results after, executeRound runtime turnId (calls.map callOf) world = (.ok results, after) ∧
      Performed result world calls results after := by
  have returns : ∀ world, ∀ call ∈ calls, Returns runtime.tools result world (executionOf call) turnId .no :=
    fun world call member => ungated world _ turnId (requests call member)
  have spec := executeToolCalls_spec (fun world call member => .inl (returns world call member)) [] world
  rw [executeRound, if_pos configured]
  rcases spec with ran | ⟨_, call, _, _, _, _, _, stops⟩
  · exact ran
  · obtain ⟨middle, asks⟩ := stops.gated
    exact absurd asks (not_asks_of_returns (returns middle call stops.mem))

variable [NumberData]

theorem continueLlmLoop_meets (serves : Serves runtime model) (ungated : Ungated runtime.tools model result)
    (remaining : Nat) {response : LLMResponse}
    (requests : ∀ call ∈ response.toolCalls, model.Requests (executionOf call)) {progress : Progress}
    {messages allCalls : List Json} (toolResults : List Json) (status : LlmStatus) {world : World}
    (tracks : Tracks progress messages allCalls world) :
    ∃ output last,
      continueLlmLoop runtime turnId remaining response messages allCalls toolResults status world =
        (.ok output, last) ∧
      Meets (idealLoop model result remaining response progress status) output last := by
  induction remaining generalizing response progress messages allCalls toolResults status world with
  | zero => exact ⟨_, _, rfl, rfl, rfl, tracks⟩
  | succ remaining ih =>
    rw [continueLlmLoop, idealLoop]
    by_cases silent : response.toolCalls = []
    · simp only [silent, List.map_nil, if_true]
      exact ⟨_, _, rfl, rfl, rfl, tracks⟩
    · have some : response.toolCalls.map callOf ≠ [] := by simpa using silent
      obtain ⟨results, after, ran, performed⟩ :=
        executeRound_ungated turnId serves.tools ungated requests world
      have counted : ((numbered (response.toolCalls.map callOf)).map Json.obj).length =
          response.toolCalls.length := by
        simp only [numbered, List.length_map, List.length_mapIdx]
      have next := tracks_round tracks performed counted
      simp only [if_neg silent, if_neg some, ran, complete_serves serves]
      rw [model.complete_of_renders next.entries]
      exact ih (requests_response model _) _ _ next

/-- The turn of a message that goes to the tool loop. -/
theorem runTurn_meets (serves : Serves runtime model) (ungated : Ungated runtime.tools model result)
    {message : String} (handled : (runtime.tools.a2aConfigured && shouldDelegate message) = false)
    (context : TurnContext) (world : World) (sessionId : String) :
    ∃ output last,
      (runTurn runtime context world message sessionId turnId none).1.loop = some output ∧
      (runTurn runtime context world message sessionId turnId none).2 = last ∧
      Meets (idealTurn model result world (turnMessages context message)) output last := by
  obtain ⟨output, last, ran, meets⟩ := continueLlmLoop_meets turnId serves ungated 4
    (requests_response model (turnMessages context message)) [] .completed
    (tracks_start world (turnMessages context message))
  obtain ⟨answer, turn⟩ := runTurn_handled runtime handled context world sessionId turnId
  rw [turn, llmTurn, runLlm_serves serves, ran]
  exact ⟨output, last, rfl, rfl, meets⟩

end Loop

end SoulClaw.Runtime.Uninterrupted
