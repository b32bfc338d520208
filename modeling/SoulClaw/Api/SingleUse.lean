import SoulClaw.Api.Approvals
import SoulClaw.Domain.Gate
import SoulClaw.Runtime.TurnEffects

/-! How often the call of an approval is handed to its handler. Each operation does so at
most once, but no operation looks at what an earlier one has done with the same approval. -/

namespace SoulClaw.Api.SingleUse
open Foundation Domain.Approvals Domain.Tools Domain.ToolEffects Runtime.Agent Runtime.ResumeTurn
  Runtime.TurnEffects Api.Approvals

/-- One approval gets a status, and its call is handed to its handler `count` times. -/
structure Decided (id : Nat) (status : ApprovalStatus) (count : Nat) (before after : World) : Prop where
  runs : ∀ other, storedRuns other after = storedRuns other before + if other = id then count else 0
  decisions : ∀ other row, before.approvals.get? other = some row →
    ∃ later, after.approvals.get? other = some later ∧
      later.status = if other = id then status else row.status

theorem Decided.undecided {id count : Nat} {status : ApprovalStatus} {first second third : World}
    (earlier : Decided id status count first second) (later : Undecided second third) :
    Decided id status count first third := by
  constructor
  · intro other
    rw [later.runs, earlier.runs]
  · intro other row found
    obtain ⟨middle, known, same⟩ := earlier.decisions other row found
    obtain ⟨last, present, kept⟩ := later.decisions other middle known
    exact ⟨last, present, kept.trans same⟩

theorem setApproval_decided (world : World) (id : Nat) {status : ApprovalStatus}
    {change : Approval → Approval} (decides : ∀ row, (change row).status = status) :
    Decided id status 0 world (setApproval world id change) := by
  constructor
  · intro other
    rw [ite_self, Nat.add_zero]
    rfl
  · intro other row found
    rw [setApproval, Table.get?_modify, found]
    by_cases here : other = id
    · rw [if_pos here, if_pos here]
      exact ⟨_, rfl, decides row⟩
    · rw [if_neg here, if_neg here]
      exact ⟨row, rfl, rfl⟩

theorem setApproval_undecided (world : World) (id : Nat) {change : Approval → Approval}
    (same : ∀ row, (change row).status = row.status) : Undecided world (setApproval world id change) :=
  ⟨fun _ => rfl, keeps_modify _ _ same⟩

section Operations
variable [CharData]

/-- The execution of the call that an approval stores. -/
theorem execute_stored (tools : ToolRuntime) (world : World) (id : Nat) (toolName : String)
    (arguments : Dict) (turnId : String) {status : ApprovalStatus} {first : World}
    (approved : Decided id status 0 first world) :
    Decided id status (if (admitted tools toolName arguments (.stored id)).isSome then 1 else 0) first
      (execute tools world toolName arguments turnId (.stored id)).2 := by
  constructor
  · intro other
    rw [execute_storedRuns, approved.runs, ite_self, Nat.add_zero]
    congr 1
    by_cases here : other = id
    · subst here
      simp
    · rw [if_neg here, if_neg fun stored => here (Approved.stored.inj stored.1).symm]
  · intro other row found
    obtain ⟨middle, known, same⟩ := approved.decisions other row found
    obtain ⟨last, present, kept⟩ := execute_keeps tools world toolName arguments turnId (.stored id)
      other middle known
    exact ⟨last, present, kept.trans same⟩

/-- The pending call of a round is handed to its handler. -/
def startsPending (tools : ToolRuntime) (id : Nat) (pending : Dict) (round : Round) : Bool :=
  !(sliceFrom round.toolCalls round.pendingIndex).isEmpty &&
    (admitted tools (callName pending) (callArguments pending) (.stored id)).isSome

theorem resumeRound_decided (runtime : AgentRuntime) (id : Nat) (turnId : String) (pending : Dict)
    (round : Round) {status : ApprovalStatus} {first world : World}
    (approved : Decided id status 0 first world) :
    Decided id status (if startsPending runtime.tools id pending round then 1 else 0) first
      (resumeRound runtime id turnId pending round world).2 := by
  unfold resumeRound startsPending
  cases sliceFrom round.toolCalls round.pendingIndex with
  | nil => exact approved
  | cons call rest =>
    have executed := execute_stored runtime.tools world id (callName pending) (callArguments pending)
      turnId approved
    simp only [List.isEmpty_cons, Bool.not_false, Bool.true_and]
    generalize execute runtime.tools world (callName pending) (callArguments pending) turnId
      (.stored id) = step at executed ⊢
    obtain ⟨outcome, after⟩ := step
    cases outcome with
    | ok result => exact executed.undecided (resumeCalls_undecided runtime turnId rest _ _ _)
    | error failure => cases failure <;> exact executed

variable [NumberData] (runtime : AgentRuntime)

/-- The guards between a decision to execute and the handler of the stored call. -/
def reachesCall (id : Nat) (editedArguments checkpoint : Dict) : Bool :=
  runtime.toolsConfigured &&
    match readRound checkpoint (pendingCall editedArguments checkpoint) with
    | .error _ => false
    | .ok round => startsPending runtime.tools id (pendingCall editedArguments checkpoint) round

theorem resumeLoop_undecided (world : World) (id : Nat) (decision : Decision) (turnId : String)
    (checkpoint : Dict) (messages allCalls toolResults : List Json) :
    Undecided world
      (resumeLoop runtime world id decision turnId checkpoint messages allCalls toolResults).2 := by
  have marked : ∀ world, Undecided world (setApproval world id (markResumed decision)) :=
    fun world => setApproval_undecided world id fun _ => rfl
  unfold resumeLoop
  by_cases idle : (!runtime.llmConfigured || messages.isEmpty) = true
  · simp only [if_pos idle]
    exact marked world
  · simp only [if_neg idle]
    have asked := complete_undecided runtime world messages
    generalize complete runtime world messages = answered at asked ⊢
    obtain ⟨answer, after⟩ := answered
    cases answer with
    | error failure => exact asked.trans (marked after)
    | ok response =>
      cases ((checkpoint.get "round_index").or (.int 0)).toInt with
      | error error => exact asked.trans (marked after)
      | ok roundIndex =>
        have looped := asked.trans (continueLlmLoop_undecided runtime turnId
          (maxRounds - (roundIndex + 1)).toNat response messages allCalls toolResults
          (if toolResults = [] then .completed else .completedWithTools) after)
        simp only [loopFrom]
        generalize continueLlmLoop runtime turnId _ response messages allCalls toolResults _ after = loop
          at looped ⊢
        obtain ⟨outcome, last⟩ := loop
        cases outcome with
        | ok output => exact looped.trans (marked last)
        | error stop => exact looped.trans (saveApprovalCheckpoint_undecided last _ _)

theorem executeTurn_decided (world : World) (id : Nat) (editedArguments checkpoint : Dict)
    (decision : Decision) :
    Decided id .approved (if reachesCall runtime id editedArguments checkpoint then 1 else 0) world
      (executeTurn runtime world id editedArguments checkpoint decision).2 := by
  have approved : Decided id .approved 0 world
      (setApproval world id fun approval => { approval with status := .approved }) :=
    setApproval_decided world id fun _ => rfl
  unfold executeTurn reachesCall
  cases runtime.toolsConfigured with
  | false => exact approved
  | true =>
    simp only [Bool.not_true, Bool.false_eq_true, if_false, Bool.true_and]
    cases readRound checkpoint (pendingCall editedArguments checkpoint) with
    | error error => exact approved
    | ok round =>
      have executed := resumeRound_decided runtime id (checkpointTurnId checkpoint)
        (pendingCall editedArguments checkpoint) round approved
      simp only
      generalize resumeRound runtime id (checkpointTurnId checkpoint)
        (pendingCall editedArguments checkpoint) round _ = step at executed ⊢
      obtain ⟨outcome, after⟩ := step
      cases outcome with
      | error stop =>
        cases stop with
        | raised error => exact executed
        | asked call index results message approvalId =>
          exact executed.undecided (saveApprovalCheckpoint_undecided after _ _)
      | ok results =>
        simp only
        cases closeRound checkpoint round (pendingCall editedArguments checkpoint) results with
        | error error => exact executed
        | ok closed =>
          exact executed.undecided (resumeLoop_undecided runtime after id decision _ checkpoint _ _ _)

/-- A resumption that hands the stored call to its handler. -/
def resumeExecutes (id : Nat) (approval : Approval) (decision : String) (editedArguments : Dict) : Bool :=
  (resumable approval.turnCheckpoint).toBool &&
    match readDecision decision with
    | some .approve => reachesCall runtime id approval.editedArguments approval.turnCheckpoint
    | some .edit =>
        reachesCall runtime id
          (if editedArguments = [] then approval.editedArguments else editedArguments)
          approval.turnCheckpoint
    | _ => false

/-- The guards in front of the stored call of an approval, for each operation on it. -/
def executes (world : World) (id : Nat) : Operation → Bool
  | .approveAndRun target =>
      decide (target = id) &&
        match world.approvals.get? id with
        | none => false
        | some approval =>
            decide (approval.subjectType = "tool_run") && runnable approval.status &&
              if checkpointed approval then resumeExecutes runtime id approval "approve" []
              else decide (storedToolName approval ≠ "") &&
                (admitted runtime.tools (storedToolName approval) (storedArguments approval)
                  (.stored id)).isSome
  | .resumeTurn target decision editedArguments _ =>
      decide (target = id) &&
        match world.approvals.get? id with
        | none => false
        | some approval => resumeExecutes runtime id approval decision editedArguments
  | _ => false

/-! One operation. -/

omit [CharData] [NumberData] in
theorem finishTurn_world (world : World) (id : Nat) (turnId answer : String) (status : TurnStatus)
    (checkpoint : Dict) : (finishTurn world id turnId answer status checkpoint).2 = world := by
  unfold finishTurn
  cases ((checkpoint.get "tool_results").or (.arr [])).toList <;> rfl

theorem resumeTurn_runs (world : World) {id : Nat} {approval : Approval}
    (found : world.approvals.get? id = some approval) (decision : String) (editedArguments : Dict)
    (response : String) (other : Nat) :
    storedRuns other (resumeTurn runtime world id decision editedArguments response).2 =
      storedRuns other world + if other = id then
        if resumeExecutes runtime id approval decision editedArguments then 1 else 0 else 0 := by
  have idle : storedRuns other world = storedRuns other world + if other = id then 0 else 0 := by
    rw [ite_self, Nat.add_zero]
  unfold resumeTurn resumeExecutes
  simp only [found]
  cases resumable approval.turnCheckpoint with
  | error error => exact idle
  | ok =>
    simp only [Except.toBool, Bool.true_and]
    cases readDecision decision with
    | none => exact idle
    | some chosen =>
      cases chosen with
      | approve =>
        exact (executeTurn_decided runtime world id approval.editedArguments approval.turnCheckpoint
          .approve).runs other
      | edit =>
        exact (executeTurn_decided runtime _ id _ approval.turnCheckpoint .edit).runs other
      | respond =>
        simp only [respondTurn, finishTurn_world]
        exact idle
      | reject =>
        simp only [rejectTurn, finishTurn_world]
        exact idle

theorem resumeEndpoint_runs (world : World) {id : Nat} {approval : Approval}
    (found : world.approvals.get? id = some approval) (decision : String) (editedArguments : Dict)
    (response : String) (other : Nat) :
    storedRuns other (resumeEndpoint runtime world id decision editedArguments response).2 =
      storedRuns other world + if other = id then
        if resumeExecutes runtime id approval decision editedArguments then 1 else 0 else 0 := by
  rw [← resumeTurn_runs runtime world found decision editedArguments response other]
  unfold resumeEndpoint
  generalize resumeTurn runtime world id decision editedArguments response = step
  obtain ⟨outcome, after⟩ := step
  cases outcome <;> rfl

omit [NumberData] in
theorem runStoredCall_runs (world : World) (id : Nat) (approval : Approval) (other : Nat) :
    storedRuns other (runStoredCall runtime world id approval).2 =
      storedRuns other world + if other = id then
        if decide (storedToolName approval ≠ "") && (admitted runtime.tools (storedToolName approval)
          (storedArguments approval) (.stored id)).isSome then 1 else 0 else 0 := by
  unfold runStoredCall
  by_cases unnamed : storedToolName approval = ""
  · simp [unnamed]
  · have runs := execute_storedRuns runtime.tools other (approvePending world id)
      (storedToolName approval) (storedArguments approval)
      (Runtime.A2A.text (approval.payload.get "turn_id")) (.stored id)
    have mine : Approved.stored id = .stored other ↔ other = id :=
      ⟨fun same => (Approved.stored.inj same).symm, fun same => by rw [same]⟩
    rw [if_neg unnamed, decide_eq_true unnamed, Bool.true_and, ← ite_and]
    simp only [mine] at runs
    generalize execute runtime.tools (approvePending world id) (storedToolName approval)
      (storedArguments approval) _ (.stored id) = step at runs ⊢
    obtain ⟨outcome, after⟩ := step
    cases outcome <;> exact runs

theorem apply_runs (world : World) (id : Nat) (operation : Operation) :
    storedRuns id (apply runtime world operation) =
      storedRuns id world + if executes runtime world id operation then 1 else 0 := by
  cases operation with
  | create request => rfl
  | turn context message sessionId turnId toolCalls =>
    exact (runTurn_undecided runtime context world message sessionId turnId toolCalls).runs id
  | resolve target status editedArguments response =>
    rw [apply, resolveEndpoint]
    cases resolveApproval world.approvals target status <;> rfl
  | reject target reason =>
    rw [apply, rejectApproval]
    cases resolveApproval world.approvals target "rejected" <;> rfl
  | resumeTurn target decision editedArguments response =>
    rw [apply, executes]
    cases found : world.approvals.get? target with
    | none =>
      have missing : resumeEndpoint runtime world target decision editedArguments response =
          (.error (exceptionError ⟨.keyError, "approval not found: " ++ toString target⟩), world) := by
        rw [resumeEndpoint, resumeTurn, found]
        rfl
      rw [missing]
      by_cases here : target = id
      · subst here
        rw [found]
        simp
      · simp [here]
    | some approval =>
      rw [resumeEndpoint_runs runtime world found]
      by_cases here : target = id
      · subst here
        simp [found]
      · simp [here, Ne.symm here]
  | approveAndRun target =>
    rw [apply, approveAndRun, executes]
    cases found : world.approvals.get? target with
    | none =>
      by_cases here : target = id
      · subst here
        rw [found]
        simp
      · simp [here]
    | some approval =>
      have other : target ≠ id → (decide (target = id) = false) := fun different => decide_eq_false different
      by_cases tool : approval.subjectType ≠ "tool_run"
      · simp only [if_pos tool]
        by_cases here : target = id
        · subst here
          simp [found, tool]
        · simp [here]
      · simp only [if_neg tool]
        push Not at tool
        cases ready : runnable approval.status with
        | false =>
          by_cases here : target = id
          · subst here
            simp [found, ready]
          · simp [here]
        | true =>
          simp only [Bool.not_true, Bool.false_eq_true, if_false]
          cases resumed : checkpointed approval with
          | true =>
            rw [if_pos rfl, resumeEndpoint_runs runtime world found]
            by_cases here : target = id
            · subst here
              simp [found, tool, ready, resumed]
            · simp [here, Ne.symm here]
          | false =>
            rw [if_neg Bool.false_ne_true, runStoredCall_runs]
            by_cases here : target = id
            · subst here
              simp [found, tool, ready, resumed]
            · simp [here, Ne.symm here]

/-- How many operations of a sequence pass the guards in front of the stored call. -/
def executing (world : World) (id : Nat) : List Operation → Nat
  | [] => 0
  | operation :: rest =>
      (if executes runtime world id operation then 1 else 0) +
        executing (apply runtime world operation) id rest

theorem run_runs {world last : World} {operations : List Operation}
    (ran : Runs.run (step runtime) world operations = some last) (id : Nat) :
    storedRuns id last = storedRuns id world + executing runtime world id operations := by
  induction operations generalizing world with
  | nil =>
    obtain rfl := Option.some.inj ran
    rfl
  | cons operation rest ih =>
    obtain ⟨next, stepped, later⟩ := Runs.run_cons_eq_some.1 ran
    obtain rfl := Option.some.inj stepped
    rw [ih later, apply_runs, executing, Nat.add_assoc]

theorem run_defined (world : World) (operations : List Operation) :
    ∃ last, Runs.run (step runtime) world operations = some last := by
  induction operations generalizing world with
  | nil => exact ⟨world, rfl⟩
  | cons operation rest ih =>
    obtain ⟨last, later⟩ := ih (apply runtime world operation)
    exact ⟨last, Runs.run_cons_eq_some.2 ⟨_, rfl, later⟩⟩

/-- A sequence of operations executes the call of an approval at most once exactly when at
most one of them passes the guards, each in the state that it meets. -/
theorem single_use_iff (world : World) (id : Nat) (operations : List Operation) :
    ∃ last, Runs.run (step runtime) world operations = some last ∧
      (storedRuns id last ≤ storedRuns id world + 1 ↔ executing runtime world id operations ≤ 1) := by
  obtain ⟨last, ran⟩ := run_defined runtime world operations
  refine ⟨last, ran, ?_⟩
  rw [run_runs runtime ran]
  omega

end Operations

/-- A runtime over the built-in tools whose model has nothing to say. -/
def quietRuntime : AgentRuntime where
  tools := Domain.Gate.answering
  reply _ _ := .ok []

/-- A pending approval for one outbound message. -/
def sendApproval : ApprovalRequest where
  subjectType := "tool_run"
  subjectId := "gateway_send"
  payload := [("tool_name", .str "gateway_send"),
    ("arguments", .obj [("gateway_name", .str "ops"), ("target_id", .str "1"), ("text", .str "hi")]),
    ("turn_id", .str "turn")]

/-- Approving twice sends the message twice. -/
theorem approved_twice_runs_twice : ∃ last,
    Runs.run (@step CharData.ascii NumberData.decimal quietRuntime) {}
        [.create sendApproval, .approveAndRun 0, .approveAndRun 0] = some last ∧
      ¬storedRuns 0 last ≤ storedRuns 0 {} + 1 := by
  refine ⟨_, rfl, ?_⟩
  decide

end SoulClaw.Api.SingleUse
