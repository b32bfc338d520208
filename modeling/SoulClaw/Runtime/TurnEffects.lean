import SoulClaw.Domain.ToolEffects
import SoulClaw.Runtime.ResumeTurn

/-! What a turn changes about the approvals. A turn asks for approvals and never decides
one; only the resumption of a turn hands a stored call to its handler. -/

namespace SoulClaw.Runtime.TurnEffects
open Foundation Domain.Approvals Domain.Tools Domain.ToolEffects Agent ResumeTurn

/-- Every decision is kept, and no stored call is handed to its handler. -/
structure Undecided (before after : World) : Prop where
  runs : ∀ id, storedRuns id after = storedRuns id before
  decisions : ∀ id row, before.approvals.get? id = some row →
    ∃ later, after.approvals.get? id = some later ∧ later.status = row.status

theorem Undecided.refl (world : World) : Undecided world world :=
  ⟨fun _ => rfl, fun _ row found => ⟨row, found, rfl⟩⟩

theorem Undecided.trans {first second third : World} (earlier : Undecided first second)
    (later : Undecided second third) : Undecided first third := by
  constructor
  · intro id
    rw [later.runs, earlier.runs]
  · intro id row found
    obtain ⟨middle, known, same⟩ := earlier.decisions id row found
    obtain ⟨last, present, kept⟩ := later.decisions id middle known
    exact ⟨last, present, kept.trans same⟩

theorem keeps_insert (approvals : Table Approval) (next : Approval) :
    ∀ id row, approvals.get? id = some row →
      ∃ later, (approvals.insert next).get? id = some later ∧ later.status = row.status :=
  fun _ row found => ⟨row, Table.get?_insert_of_some next found, rfl⟩

theorem keeps_modify (approvals : Table Approval) (id : Nat) {change : Approval → Approval}
    (same : ∀ row, (change row).status = row.status) :
    ∀ other row, approvals.get? other = some row →
      ∃ later, (approvals.modify id change).get? other = some later ∧ later.status = row.status := by
  intro other row found
  rw [Table.get?_modify, found]
  by_cases here : other = id
  · rw [if_pos here]
    exact ⟨_, rfl, same row⟩
  · rw [if_neg here]
    exact ⟨row, rfl, rfl⟩

section Turn
variable [CharData]

/-- The approvals after an execution, whoever approved it. -/
theorem execute_keeps (tools : ToolRuntime) (world : World) (toolName : String) (arguments : Dict)
    (turnId : String) (approved : Approved) :
    ∀ id row, world.approvals.get? id = some row →
      ∃ later, (execute tools world toolName arguments turnId approved).2.approvals.get? id = some later ∧
        later.status = row.status := by
  intro id row found
  have spec := execute_executed tools world toolName arguments turnId approved
  generalize execute tools world toolName arguments turnId approved = step at spec ⊢
  cases spec with
  | succeeded _ _ approvals =>
    rw [approvals]
    exact ⟨row, found, rfl⟩
  | raised _ approvals =>
    rw [approvals]
    exact ⟨row, found, rfl⟩
  | asked _ request _ approvals =>
    rcases approvals with ⟨_, same⟩ | ⟨_, added⟩
    · rw [same]
      exact ⟨row, found, rfl⟩
    · rw [added]
      exact keeps_insert _ _ id row found

theorem execute_undecided (tools : ToolRuntime) (world : World) (toolName : String) (arguments : Dict)
    (turnId : String) {approved : Approved} (free : ∀ id, approved ≠ .stored id) :
    Undecided world (execute tools world toolName arguments turnId approved).2 := by
  constructor
  · intro id
    rw [execute_storedRuns, if_neg fun stored => free id stored.1, Nat.add_zero]
  · exact execute_keeps tools world toolName arguments turnId approved

omit [CharData] in
theorem callApproved_ne_stored (call : Dict) (id : Nat) : callApproved call ≠ .stored id := by
  unfold callApproved
  split <;> simp

omit [CharData] in
theorem saveApprovalCheckpoint_undecided (world : World) (approvalId : Option Nat) (checkpoint : Dict) :
    Undecided world (saveApprovalCheckpoint world approvalId checkpoint) := by
  cases approvalId with
  | none => exact .refl world
  | some id => exact ⟨fun _ => rfl, keeps_modify _ _ fun _ => rfl⟩

theorem executeToolCalls_undecided (tools : ToolRuntime) (turnId : String) (calls : List Dict)
    (results : List Json) (world : World) :
    Undecided world (executeToolCalls tools turnId results calls world).2 := by
  induction calls generalizing results world with
  | nil => exact .refl world
  | cons call rest ih =>
    have first := execute_undecided tools world (callName call) (callArguments call) turnId
      (callApproved_ne_stored call)
    rw [executeToolCalls]
    generalize execute tools world (callName call) (callArguments call) turnId (callApproved call) = step
      at first ⊢
    obtain ⟨outcome, after⟩ := step
    cases outcome with
    | ok result => exact first.trans (ih _ _)
    | error failure =>
      cases failure with
      | raised error => exact first.trans (ih _ _)
      | approvalRequired message toolName approvalId => exact first

theorem resumeCalls_undecided (runtime : AgentRuntime) (turnId : String) (calls : List Json)
    (index : Int) (results : List Json) (world : World) :
    Undecided world (resumeCalls runtime turnId index results calls world).2 := by
  induction calls generalizing index results world with
  | nil => exact .refl world
  | cons call rest ih =>
    rw [resumeCalls]
    cases call.receiver with
    | error error => exact .refl world
    | ok call =>
      have first := execute_undecided runtime.tools world (callName call) (callArguments call) turnId
        (callApproved_ne_stored call)
      simp only
      generalize execute runtime.tools world (callName call) (callArguments call) turnId
        (callApproved call) = step at first ⊢
      obtain ⟨outcome, after⟩ := step
      cases outcome with
      | ok result => exact first.trans (ih _ _ _)
      | error failure => cases failure <;> exact first

variable [NumberData] (runtime : AgentRuntime)

theorem complete_undecided (world : World) (messages : List Json) :
    Undecided world (complete runtime world messages).2 :=
  ⟨fun _ => rfl, fun _ row found => ⟨row, found, rfl⟩⟩

theorem continueLlmLoop_undecided (turnId : String) (remaining : Nat) (response : LLMResponse)
    (messages allCalls toolResults : List Json) (status : LlmStatus) (world : World) :
    Undecided world
      (continueLlmLoop runtime turnId remaining response messages allCalls toolResults status world).2 := by
  induction remaining generalizing response messages allCalls toolResults status world with
  | zero => exact .refl world
  | succ remaining ih =>
    rw [continueLlmLoop]
    by_cases silent : response.toolCalls.map callOf = []
    · simp only [if_pos silent]
      exact .refl world
    · simp only [if_neg silent]
      have round : Undecided world
          (executeRound runtime turnId (response.toolCalls.map callOf) world).2 := by
        unfold executeRound
        split
        · exact executeToolCalls_undecided _ _ _ _ _
        · exact .refl world
      generalize executeRound runtime turnId (response.toolCalls.map callOf) world = step at round ⊢
      obtain ⟨outcome, after⟩ := step
      cases outcome with
      | error interrupt => exact round
      | ok results =>
        have asked := complete_undecided runtime after
          (roundMessages messages (response.toolCalls.map callOf) results)
        simp only
        generalize complete runtime after
          (roundMessages messages (response.toolCalls.map callOf) results) = answered at asked ⊢
        obtain ⟨answer, next⟩ := answered
        cases answer with
        | error failure => exact round.trans asked
        | ok response => exact (round.trans asked).trans (ih _ _ _ _ _ _)

theorem runLlm_undecided (turnId : String) (messages : List Json) (world : World) :
    Undecided world (runLlm runtime turnId messages world).2 := by
  unfold runLlm
  split
  · exact .refl world
  · have asked := complete_undecided runtime world messages
    generalize complete runtime world messages = answered at asked ⊢
    obtain ⟨answer, after⟩ := answered
    cases answer with
    | error failure => exact asked
    | ok response => exact asked.trans (continueLlmLoop_undecided runtime _ _ _ _ _ _ _ _)

theorem llmTurn_undecided (context : TurnContext) (world : World) (message sessionId turnId : String) :
    Undecided world (llmTurn runtime context world message sessionId turnId).2 := by
  have looped := runLlm_undecided runtime turnId (turnMessages context message) world
  unfold llmTurn
  generalize runLlm runtime turnId (turnMessages context message) world = loop at looped ⊢
  obtain ⟨outcome, after⟩ := loop
  cases outcome with
  | ok output => exact looped
  | error stop => exact looped.trans (saveApprovalCheckpoint_undecided _ _ _)

omit [NumberData] in
theorem executeGivenCalls_undecided (turnId : String) (calls : List Dict) (result : AgentTurnResult)
    (world : World) : Undecided world (executeGivenCalls runtime turnId calls result world).2 := by
  induction calls generalizing result world with
  | nil => exact .refl world
  | cons call rest ih =>
    have first := execute_undecided runtime.tools world (callName call) (callArguments call) turnId
      (callApproved_ne_stored call)
    rw [executeGivenCalls]
    generalize execute runtime.tools world (callName call) (callArguments call) turnId
      (callApproved call) = step at first ⊢
    obtain ⟨outcome, after⟩ := step
    cases outcome with
    | ok report => exact first.trans (ih _ _)
    | error failure => cases failure <;> exact first.trans (ih _ _)

omit [NumberData] in
theorem delegatedResult_undecided (world : World) (message sessionId turnId : String) :
    Undecided world (delegatedResult runtime world message sessionId turnId).2 := by
  have sent : Undecided world
      (world.log (.delegated (A2A.deepResearchRequest message sessionId turnId) .no)) := by
    constructor
    · intro id
      rw [storedRuns, World.log, List.countP_append]
      rfl
    · exact fun _ row found => ⟨row, found, rfl⟩
  unfold delegatedResult delegate
  split
  · cases runtime.tools.delegate world (A2A.deepResearchRequest message sessionId turnId) <;> exact sent
  · exact .refl world

theorem runTurn_undecided (context : TurnContext) (world : World) (message sessionId turnId : String)
    (toolCalls : Option (List Dict)) :
    Undecided world (runTurn runtime context world message sessionId turnId toolCalls).2 := by
  unfold runTurn
  cases toolCalls with
  | some calls =>
    cases runtime.toolsConfigured with
    | false => exact .refl world
    | true => exact executeGivenCalls_undecided runtime turnId calls _ world
  | none =>
    have delegated := delegatedResult_undecided runtime world message sessionId turnId
    simp only
    generalize delegatedResult runtime world message sessionId turnId = start at delegated ⊢
    obtain ⟨answer, after⟩ := start
    cases answer with
    | some answer => exact delegated
    | none => exact delegated.trans (llmTurn_undecided runtime context after message sessionId turnId)

end Turn

end SoulClaw.Runtime.TurnEffects
