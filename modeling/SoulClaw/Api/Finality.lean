import SoulClaw.Api.SingleUse

/-! Decisions that are not taken back. `approve-and-run` refuses an approval that has been
rejected or cancelled; the other operations overwrite its status or execute its call. -/

namespace SoulClaw.Api.Finality
open Foundation Domain.Approvals Domain.Tools Domain.ToolEffects Runtime.Agent Runtime.ResumeTurn
  Runtime.TurnEffects Api.Approvals Api.SingleUse

/-- The status is kept, and the call is not handed to its handler. -/
structure Upheld (id : Nat) (status : ApprovalStatus) (before after : World) : Prop where
  decision : ∀ row, before.approvals.get? id = some row → row.status = status →
    ∃ later, after.approvals.get? id = some later ∧ later.status = status
  runs : storedRuns id after = storedRuns id before

theorem upheld_of_undecided {before after : World} (undecided : Undecided before after) (id : Nat)
    (status : ApprovalStatus) : Upheld id status before after := by
  constructor
  · intro row found known
    obtain ⟨later, present, same⟩ := undecided.decisions id row found
    exact ⟨later, present, same.trans known⟩
  · exact undecided.runs id

theorem Upheld.trans {id : Nat} {status : ApprovalStatus} {first second third : World}
    (earlier : Upheld id status first second) (later : Upheld id status second third) :
    Upheld id status first third := by
  constructor
  · intro row found known
    obtain ⟨middle, present, same⟩ := earlier.decision row found known
    exact later.decision middle present same
  · rw [later.runs, earlier.runs]

/-- A decision on another approval, or the same decision again without the call. -/
theorem upheld_of_decided {target count : Nat} {decided : ApprovalStatus} {before after : World}
    (change : Decided target decided count before after) {id : Nat} {status : ApprovalStatus}
    (spared : id = target → decided = status ∧ count = 0) : Upheld id status before after := by
  constructor
  · intro row found known
    obtain ⟨later, present, same⟩ := change.decisions id row found
    refine ⟨later, present, ?_⟩
    by_cases here : id = target
    · rw [if_pos here] at same
      rw [same, (spared here).1]
    · rw [if_neg here] at same
      rw [same, known]
  · rw [change.runs]
    by_cases here : id = target
    · rw [if_pos here, (spared here).2, Nat.add_zero]
    · rw [if_neg here, Nat.add_zero]

theorem rollback_upheld (before after : World) (id : Nat) (status : ApprovalStatus)
    (runs : storedRuns id after = storedRuns id before) :
    Upheld id status before (before.rollback after) :=
  ⟨fun row found known => ⟨row, found, known⟩, runs⟩

/-- `list(checkpoint.get("tool_results") or [])` does not raise. -/
def resultsReadable (checkpoint : Dict) : Bool :=
  (((checkpoint.get "tool_results").or (.arr [])).toList).toBool

theorem finishTurn_unreadable {checkpoint : Dict} (unreadable : resultsReadable checkpoint = false)
    (world : World) (id : Nat) (turnId answer : String) (status : TurnStatus) :
    ∃ error, finishTurn world id turnId answer status checkpoint = (.error error, world) := by
  unfold finishTurn
  unfold resultsReadable at unreadable
  cases read : ((checkpoint.get "tool_results").or (.arr [])).toList with
  | error error => exact ⟨error, rfl⟩
  | ok results =>
    rw [read] at unreadable
    exact absurd unreadable (by simp [Except.toBool])

theorem setItem_of_slice_nil {α : Type*} {items : List α} {index : Int} (value : α)
    (behind : sliceFrom items index = []) :
    setItem items index value = .error ⟨.indexError, "list assignment index out of range"⟩ := by
  unfold sliceFrom at behind
  have outside := List.drop_eq_nil_iff.1 behind
  unfold setItem
  rw [if_neg]
  intro inside
  omega

theorem resolveApproval_upheld (world : World) {target : Nat} {status : String}
    {approvals : Table Approval} (resolved : resolveApproval world.approvals target status = .ok approvals)
    {change : Approval → Approval} (same : ∀ row, (change row).status = row.status) {id : Nat}
    {decided : ApprovalStatus}
    (spared : target = id → ∀ next, resolution status = some next → next = decided) :
    Upheld id decided world { world with approvals := approvals.modify target change } := by
  refine ⟨?_, rfl⟩
  intro row found known
  unfold resolveApproval at resolved
  cases meaning : resolution status with
  | none => simp [meaning] at resolved
  | some next =>
    cases present : world.approvals.get? target with
    | none => simp [meaning, present] at resolved
    | some approval =>
      simp only [meaning, present, Except.ok.injEq] at resolved
      subst resolved
      rw [Table.get?_modify]
      by_cases here : id = target
      · subst here
        rw [if_pos rfl, Table.get?_set_self _ present]
        exact ⟨_, rfl, (same _).trans (spared rfl next meaning)⟩
      · rw [if_neg here, Table.get?_set_ne _ _ here]
        exact ⟨row, found, known⟩

section Operations
variable [CharData]

variable [NumberData] (runtime : AgentRuntime)

/-- A decision to execute that does not get to the handler ends in an exception. -/
theorem executeTurn_unreached {id : Nat} {editedArguments checkpoint : Dict}
    (unreached : reachesCall runtime id editedArguments checkpoint = false) (world : World)
    (decision : Decision) :
    ∃ error after, executeTurn runtime world id editedArguments checkpoint decision = (.error error, after) := by
  unfold reachesCall at unreached
  unfold executeTurn
  cases configured : runtime.toolsConfigured with
  | false => exact ⟨_, _, rfl⟩
  | true =>
    simp only [configured, Bool.true_and] at unreached
    simp only [Bool.not_true, Bool.false_eq_true, if_false]
    cases read : readRound checkpoint (pendingCall editedArguments checkpoint) with
    | error error => exact ⟨_, _, rfl⟩
    | ok round =>
      simp only [read, startsPending] at unreached
      simp only [resumeRound, closeRound]
      cases slice : sliceFrom round.toolCalls round.pendingIndex with
      | nil =>
        simp only [setItem_of_slice_nil _ slice]
        exact ⟨_, _, rfl⟩
      | cons call rest =>
        simp only [slice, List.isEmpty_cons, Bool.not_false, Bool.true_and,
          Option.isSome_eq_false_iff, Option.isNone_iff_eq_none] at unreached
        rcases execute_of_not_admitted runtime.tools unreached
          (setApproval world id fun approval => { approval with status := .approved })
          (checkpointTurnId checkpoint) with ⟨error, raised⟩ | ⟨denied, _⟩
        · simp only [raised]
          exact ⟨_, _, rfl⟩
        · exact absurd denied (by simp [Approved.granted])

/-- The resumption of a turn leaves a decision as it is. -/
def spares (id : Nat) (approval : Approval) (decision : String) (editedArguments : Dict) : Bool :=
  !(resumable approval.turnCheckpoint).toBool ||
    match readDecision decision with
    | none => true
    | some .respond => decide (approval.status = .cancelled) || !resultsReadable approval.turnCheckpoint
    | some .reject => decide (approval.status = .rejected) || !resultsReadable approval.turnCheckpoint
    | some .approve => !reachesCall runtime id approval.editedArguments approval.turnCheckpoint
    | some .edit =>
        !reachesCall runtime id
          (if editedArguments = [] then approval.editedArguments else editedArguments)
          approval.turnCheckpoint

/-- The operation neither overwrites the decision on an approval nor executes its call. -/
def upholds (world : World) (id : Nat) (operation : Operation) : Bool :=
  match world.approvals.get? id with
  | none => true
  | some approval =>
      match operation with
      | .resolve target status _ _ =>
          decide (target ≠ id) || (resolution status).all fun next => next = approval.status
      | .reject target _ => decide (target ≠ id) || decide (approval.status = .rejected)
      | .resumeTurn target decision editedArguments _ =>
          decide (target ≠ id) || spares runtime id approval decision editedArguments
      | _ => true

/-! The resumption of a turn whose approval has been decided. -/

section Resumption
variable {runtime} {world : World} {target : Nat} {decision : String} {editedArguments : Dict}
  {response : String} {id : Nat} {status : ApprovalStatus}

theorem resumeEndpoint_raised {error : PyException} {after : World}
    (step : resumeTurn runtime world target decision editedArguments response = (.error error, after))
    (runs : storedRuns id after = storedRuns id world) :
    Upheld id status world (resumeEndpoint runtime world target decision editedArguments response).2 := by
  rw [resumeEndpoint, step]
  exact rollback_upheld world after id status runs

theorem resumeEndpoint_settled
    (kept : Upheld id status world
      (resumeTurn runtime world target decision editedArguments response).2) :
    Upheld id status world (resumeEndpoint runtime world target decision editedArguments response).2 := by
  rw [resumeEndpoint]
  generalize resumeTurn runtime world target decision editedArguments response = step at kept ⊢
  obtain ⟨outcome, after⟩ := step
  cases outcome with
  | error error => exact rollback_upheld world after id status kept.runs
  | ok turn => exact kept

theorem resumeEndpoint_executed {first : World} {edited checkpoint : Dict} {chosen : Decision}
    (before : Undecided world first)
    (step : resumeTurn runtime world target decision editedArguments response =
      executeTurn runtime first target edited checkpoint chosen)
    (unreached : target = id → reachesCall runtime id edited checkpoint = false) :
    Upheld id status world (resumeEndpoint runtime world target decision editedArguments response).2 := by
  have decided := executeTurn_decided runtime first target edited checkpoint chosen
  by_cases here : target = id
  · subst here
    obtain ⟨error, after, stopped⟩ := executeTurn_unreached runtime (unreached rfl) first chosen
    have kept := decided.runs target
    rw [unreached rfl, stopped, before.runs] at kept
    apply resumeEndpoint_raised (step.trans stopped)
    rw [kept]
    simp
  · apply resumeEndpoint_settled
    rw [step]
    apply (upheld_of_undecided before id status).trans
    exact upheld_of_decided decided fun mine => absurd mine.symm here

/-- A decision without the call, which raises an exception or gives the status again. -/
theorem resumeEndpoint_finished {decided : ApprovalStatus} {settled : World} {turnId answer : String}
    {ended : TurnStatus} {checkpoint : Dict}
    (step : resumeTurn runtime world target decision editedArguments response =
      finishTurn settled target turnId answer ended checkpoint)
    (change : Decided target decided 0 world settled)
    (spared : target = id → decided = status ∨ resultsReadable checkpoint = false) :
    Upheld id status world (resumeEndpoint runtime world target decision editedArguments response).2 := by
  have left : (resumeTurn runtime world target decision editedArguments response).2 = settled := by
    rw [step, finishTurn_world]
  by_cases here : target = id
  · rcases spared here with same | unreadable
    · apply resumeEndpoint_settled
      rw [left]
      exact upheld_of_decided change fun _ => ⟨same, rfl⟩
    · obtain ⟨error, unread⟩ := finishTurn_unreadable unreadable settled target turnId answer ended
      apply resumeEndpoint_raised (step.trans unread)
      rw [change.runs, ite_self, Nat.add_zero]
  · apply resumeEndpoint_settled
    rw [left]
    exact upheld_of_decided change fun mine => absurd mine.symm here

end Resumption

theorem resumeEndpoint_upheld (world : World) {id target : Nat} {approval row : Approval}
    (found : world.approvals.get? target = some approval) (known : world.approvals.get? id = some row)
    {decision : String} {editedArguments : Dict} (response : String)
    (spared : target = id → spares runtime id row decision editedArguments = true) :
    Upheld id row.status world
      (resumeEndpoint runtime world target decision editedArguments response).2 := by
  have free : target = id → spares runtime id approval decision editedArguments = true ∧ approval = row := by
    intro here
    have same : approval = row := by
      subst here
      exact Option.some.inj (found.symm.trans known)
    exact ⟨same ▸ spared here, same⟩
  cases ready : resumable approval.turnCheckpoint with
  | error error =>
    apply @resumeEndpoint_raised _ _ runtime world target decision editedArguments response id row.status error world
    · simp only [resumeTurn, found, ready]
    · rfl
  | ok =>
    cases chosen : readDecision decision with
    | none =>
      apply @resumeEndpoint_raised _ _ runtime world target decision editedArguments response id row.status _ world
      · simp only [resumeTurn, found, ready, chosen]
        rfl
      · rfl
    | some choice =>
      cases choice with
      | approve =>
        apply resumeEndpoint_executed (.refl world)
        · simp only [resumeTurn, found, ready, chosen]
          rfl
        · intro here
          simpa [spares, ready, chosen, Except.toBool] using (free here).1
      | edit =>
        let edited := if editedArguments = [] then approval.editedArguments else editedArguments
        have before : Undecided world
            (setApproval world target fun approval => { approval with editedArguments := edited }) :=
          setApproval_undecided world target fun _ => rfl
        apply resumeEndpoint_executed before
        · simp only [resumeTurn, found, ready, chosen]
          rfl
        · intro here
          simpa [spares, ready, chosen, Except.toBool] using (free here).1
      | respond =>
        apply resumeEndpoint_finished
        · simp only [resumeTurn, found, ready, chosen]
          rfl
        · exact setApproval_decided world target fun _ => rfl
        · intro here
          obtain ⟨allowed, same⟩ := free here
          have allowed : approval.status = .cancelled ∨ resultsReadable approval.turnCheckpoint = false := by
            simpa [spares, ready, chosen, Except.toBool] using allowed
          exact same ▸ allowed.imp_left Eq.symm
      | reject =>
        apply resumeEndpoint_finished
        · simp only [resumeTurn, found, ready, chosen]
          rfl
        · exact setApproval_decided world target fun _ => rfl
        · intro here
          obtain ⟨allowed, same⟩ := free here
          have allowed : approval.status = .rejected ∨ resultsReadable approval.turnCheckpoint = false := by
            simpa [spares, ready, chosen, Except.toBool] using allowed
          exact same ▸ allowed.imp_left Eq.symm

/-! Every operation, and every run. -/

omit [NumberData] in
theorem runStoredCall_upheld (world : World) {id target : Nat} (approval : Approval)
    (different : id ≠ target) (status : ApprovalStatus) :
    Upheld id status world (runStoredCall runtime world target approval).2 := by
  have runs := runStoredCall_runs runtime world target approval id
  rw [if_neg different, Nat.add_zero] at runs
  have kept : ∀ row, world.approvals.get? id = some row →
      ∃ later, (execute runtime.tools (approvePending world target) (storedToolName approval)
        (storedArguments approval) (Runtime.A2A.text (approval.payload.get "turn_id"))
        (.stored target)).2.approvals.get? id = some later ∧ later.status = row.status := by
    intro row found
    apply execute_keeps
    rw [approvePending, setApproval, Table.get?_modify, if_neg different, found]
  unfold runStoredCall at runs ⊢
  split at runs
  next unnamed =>
    simp only [if_pos unnamed]
    exact ⟨fun row found known => ⟨row, found, known⟩, rfl⟩
  next named =>
    simp only [if_neg named]
    generalize execute runtime.tools (approvePending world target) (storedToolName approval)
      (storedArguments approval) _ (.stored target) = step at runs kept ⊢
    obtain ⟨outcome, after⟩ := step
    cases outcome with
    | error failure => exact rollback_upheld world after id status runs
    | ok result =>
      refine ⟨?_, runs⟩
      intro row found known
      obtain ⟨later, present, same⟩ := kept row found
      exact ⟨later, present, same.trans known⟩

theorem apply_upheld {world : World} {id : Nat} {row : Approval}
    (found : world.approvals.get? id = some row)
    (final : row.status = .rejected ∨ row.status = .cancelled) {operation : Operation}
    (spared : upholds runtime world id operation = true) :
    Upheld id row.status world (apply runtime world operation) := by
  have blocked : runnable row.status = false := by
    rcases final with rejected | cancelled
    · rw [rejected]
      rfl
    · rw [cancelled]
      rfl
  have unchanged : Upheld id row.status world world := ⟨fun row found known => ⟨row, found, known⟩, rfl⟩
  unfold upholds at spared
  simp only [found] at spared
  cases operation with
  | create request =>
    have added : Undecided world (apply runtime world (.create request)) :=
      ⟨fun _ => rfl, keeps_insert world.approvals request.row⟩
    exact upheld_of_undecided added id row.status
  | turn context message sessionId turnId toolCalls =>
    exact upheld_of_undecided (runTurn_undecided runtime context world message sessionId turnId toolCalls)
      id row.status
  | resolve target status editedArguments response =>
    rw [apply, resolveEndpoint]
    cases resolved : resolveApproval world.approvals target status with
    | error error => exact unchanged
    | ok approvals =>
      apply resolveApproval_upheld world resolved
      · exact fun _ => rfl
      · intro here next meaning
        simpa [here, meaning] using spared
  | reject target reason =>
    rw [apply, rejectApproval]
    cases resolved : resolveApproval world.approvals target "rejected" with
    | error error => exact unchanged
    | ok approvals =>
      apply resolveApproval_upheld world resolved
      · exact fun _ => rfl
      · intro here next meaning
        obtain rfl : ApprovalStatus.rejected = next := Option.some.inj meaning
        simpa [here, eq_comm] using spared
  | resumeTurn target decision editedArguments response =>
    rw [apply]
    cases present : world.approvals.get? target with
    | none =>
      rw [resumeEndpoint, resumeTurn, present]
      exact unchanged
    | some approval =>
      apply resumeEndpoint_upheld runtime world present found response
      intro here
      simpa [here] using spared
  | approveAndRun target =>
    rw [apply, approveAndRun]
    cases present : world.approvals.get? target with
    | none => exact unchanged
    | some approval =>
      by_cases here : target = id
      · subst here
        obtain rfl := Option.some.inj (found.symm.trans present)
        simp only [blocked]
        split <;> exact unchanged
      · simp only
        split
        · exact unchanged
        split
        · exact unchanged
        split
        · exact resumeEndpoint_upheld runtime world present found "" fun mine => absurd mine here
        · exact runStoredCall_upheld runtime world approval (Ne.symm here) row.status

/-- A rejected or cancelled approval keeps its status and its call is never executed, in
every run whose operations uphold the decision, each in the state that it meets. -/
theorem decisions_final {world last : World} {operations : List Operation} {id : Nat} {row : Approval}
    (found : world.approvals.get? id = some row)
    (final : row.status = .rejected ∨ row.status = .cancelled)
    (ran : Runs.run (step runtime) world operations = some last)
    (upheld : Runs.Along (step runtime) (fun state operation => upholds runtime state id operation = true)
      world operations) :
    (∃ later, last.approvals.get? id = some later ∧ later.status = row.status) ∧
      storedRuns id last = storedRuns id world := by
  refine Runs.run_invariant_along
    (fun state => (∃ later, state.approvals.get? id = some later ∧ later.status = row.status) ∧
      storedRuns id state = storedRuns id world) ?_ ⟨⟨row, found, rfl⟩, rfl⟩ upheld ran
  intro state operation next kept spared stepped
  obtain ⟨⟨current, present, same⟩, runs⟩ := kept
  obtain rfl := Option.some.inj stepped
  have change := apply_upheld runtime present (by rw [same]; exact final) spared
  constructor
  · obtain ⟨later, known, status⟩ := change.decision current present rfl
    exact ⟨later, known, status.trans same⟩
  · rw [change.runs, runs]

end Operations

section Examples

/-- The approval of an outbound message has been rejected. -/
def rejectedSend : World :=
  @apply CharData.ascii NumberData.decimal quietRuntime
    (@apply CharData.ascii NumberData.decimal quietRuntime {} (.create sendApproval)) (.reject 0 "no")

theorem decisions_final_rejectedSend :
    ∃ last, Runs.run (@step CharData.ascii NumberData.decimal quietRuntime) rejectedSend
        [.approveAndRun 0, .reject 0 "again"] = some last ∧
      (∃ later, last.approvals.get? 0 = some later ∧ later.status = .rejected) ∧
      storedRuns 0 last = storedRuns 0 rejectedSend := by
  refine ⟨_, rfl, ?_⟩
  exact @decisions_final CharData.ascii NumberData.decimal quietRuntime rejectedSend _
    [.approveAndRun 0, .reject 0 "again"] 0 _ rfl (.inl rfl) rfl (by decide)

/-- A second decision overturns the first, and the message is sent. -/
theorem rejected_send_runs :
    Runs.Reachable (@step CharData.ascii NumberData.decimal quietRuntime) {} rejectedSend ∧
      (∃ row, rejectedSend.approvals.get? 0 = some row ∧ row.status = .rejected) ∧
      ∃ last, Runs.run (@step CharData.ascii NumberData.decimal quietRuntime) rejectedSend
          [.resolve 0 "approved" [] "", .approveAndRun 0] = some last ∧
        ¬((∃ later, last.approvals.get? 0 = some later ∧ later.status = .rejected) ∧
          storedRuns 0 last = storedRuns 0 rejectedSend) := by
  refine ⟨⟨[.create sendApproval, .reject 0 "no"], rfl⟩, ⟨_, rfl, rfl⟩, _, rfl, ?_⟩
  intro kept
  exact absurd kept.2 (by decide)

end Examples

end SoulClaw.Api.Finality
