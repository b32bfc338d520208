import SoulClaw.Worker.Moves

/-! Attempts and runners. A delivery that has started and not finished owns its job: the
job is not up for another start, and its counter is still the one the delivery captured. -/

namespace SoulClaw.Worker.Attempts
open Foundation Domain.Jobs Queue Moves

/-- The attempt of a delivery between its start and its finish, also when its worker died. -/
def openAttempt : Phase → Option Nat
  | .running attempt _ => some attempt
  | .crashed attempt => some attempt
  | _ => none

/-- What holds of one job row whatever the deliveries of the job do. -/
structure RowBounded (row : BackgroundJob) : Prop where
  positive : 1 ≤ row.maxAttempts
  attempts : row.attemptCount ≤ row.maxAttempts
  pending : row.status ∈ retryableJobStatuses → row.attemptCount < row.maxAttempts
  locked : row.lockedAt.isSome = true ↔ row.status = .running

/-- `runner` names the job and the attempt of the deliveries between start and finish. -/
structure Owned (jobs : Table BackgroundJob) (runner : Nat → Option (Nat × Nat)) : Prop where
  row : ∀ delivery job attempt, runner delivery = some (job, attempt) →
    ∃ row, jobs.get? job = some row ∧ row.attemptCount = attempt ∧ row.status ∉ retryableJobStatuses
  alone : ∀ first second job attempt other, runner first = some (job, attempt) →
    runner second = some (job, other) → first = second

namespace RowBounded
variable {row : BackgroundJob} (bounded : RowBounded row)
include bounded

theorem enqueued (queueId : String) (ready : row.status ∈ retryableJobStatuses) :
    RowBounded (row.enqueued queueId) := by
  refine ⟨bounded.positive, bounded.attempts, fun _ => bounded.pending ready, ?_⟩
  have idle : row.status ≠ .running := by
    intro running
    rw [running] at ready
    exact absurd ready (by decide)
  simpa [BackgroundJob.enqueued, idle] using bounded.locked

theorem started (now : Time) (lockOwner : String) (ready : row.status ∈ retryableJobStatuses) :
    RowBounded (row.started now lockOwner) := by
  have below := bounded.pending ready
  refine ⟨bounded.positive, below, fun absurd => ?_, by simp [BackgroundJob.started]⟩
  simp [BackgroundJob.started, retryableJobStatuses] at absurd

theorem retrying (now : Time) (error : String) (left : row.attemptCount < row.maxAttempts) :
    RowBounded (row.retrying now error) :=
  ⟨bounded.positive, bounded.attempts, fun _ => left, by simp [BackgroundJob.retrying]⟩

theorem succeeded (now : Time) (result : Json) : RowBounded (row.succeeded now result) :=
  ⟨bounded.positive, bounded.attempts, by simp [BackgroundJob.succeeded, retryableJobStatuses],
    by simp [BackgroundJob.succeeded]⟩

theorem deadLettered (now : Time) (error : String) : RowBounded (row.deadLettered now error) :=
  ⟨bounded.positive, bounded.attempts, by simp [BackgroundJob.deadLettered, retryableJobStatuses],
    by simp [BackgroundJob.deadLettered]⟩

theorem cancelled (now : Time) : RowBounded (row.cancelled now) :=
  ⟨bounded.positive, bounded.attempts, by simp [BackgroundJob.cancelled, retryableJobStatuses],
    by simp [BackgroundJob.cancelled]⟩

end RowBounded

theorem newJob_bounded (request : EnqueueRequest) (key : String) :
    RowBounded ((newJob request key).enqueued request.queueId) :=
  ⟨attemptBound_pos _, Nat.zero_le _, fun _ => attemptBound_pos _,
    by simp [BackgroundJob.enqueued, newJob]⟩

namespace Owned
variable {jobs : Table BackgroundJob} {runner : Nat → Option (Nat × Nat)} (owned : Owned jobs runner)
include owned

/-- A job that is up for a start has no runner. -/
theorem idle {job : Nat} {row : BackgroundJob} (found : jobs.get? job = some row)
    (ready : row.status ∈ retryableJobStatuses) (delivery attempt : Nat) :
    runner delivery ≠ some (job, attempt) := by
  intro running
  obtain ⟨current, known, _, taken⟩ := owned.row delivery job attempt running
  rw [found] at known
  exact taken (Option.some.inj known ▸ ready)

/-- A write that leaves the counter alone and does not put the job up for a start. -/
theorem modify {job : Nat} {change : BackgroundJob → BackgroundJob}
    (counter : ∀ row, (change row).attemptCount = row.attemptCount)
    (taken : ∀ row, (change row).status ∉ retryableJobStatuses) :
    Owned (jobs.modify job change) runner := by
  refine ⟨fun delivery other attempt running => ?_, owned.alone⟩
  obtain ⟨row, found, same, notReady⟩ := owned.row delivery other attempt running
  rw [Table.get?_modify, found]
  by_cases here : other = job
  · rw [if_pos here]
    exact ⟨_, rfl, (counter row).trans same, taken row⟩
  · rw [if_neg here]
    exact ⟨row, rfl, same, notReady⟩

/-- Any write to a job that nobody runs. -/
theorem set_free {job : Nat} (free : ∀ delivery attempt, runner delivery ≠ some (job, attempt))
    (next : BackgroundJob) : Owned (jobs.set job next) runner := by
  refine ⟨fun delivery other attempt running => ?_, owned.alone⟩
  obtain ⟨current, known, same⟩ := owned.row delivery other attempt running
  have different : other ≠ job := by
    intro equal
    subst equal
    exact free delivery attempt running
  exact ⟨current, by rw [Table.get?_set_ne _ _ different, known], same⟩

theorem insert (row : BackgroundJob) : Owned (jobs.insert row) runner := by
  refine ⟨fun delivery job attempt running => ?_, owned.alone⟩
  obtain ⟨current, known, same⟩ := owned.row delivery job attempt running
  exact ⟨current, Table.get?_insert_of_some row known, same⟩

theorem begin {delivery job : Nat} {row : BackgroundJob} (found : jobs.get? job = some row)
    (free : ∀ delivery attempt, runner delivery ≠ some (job, attempt)) {next : BackgroundJob}
    (taken : next.status ∉ retryableJobStatuses) :
    Owned (jobs.set job next)
      (fun id => if id = delivery then some (job, next.attemptCount) else runner id) := by
  have others := owned.set_free free next
  constructor
  · intro id other attempt running
    by_cases here : id = delivery
    · rw [if_pos here] at running
      cases running
      exact ⟨next, Table.get?_set_self next found, rfl, taken⟩
    · rw [if_neg here] at running
      exact others.row id other attempt running
  · intro first second other attempt later left right
    by_cases one : first = delivery
    · by_cases two : second = delivery
      · rw [one, two]
      · rw [if_pos one] at left
        rw [if_neg two] at right
        cases left
        exact absurd right (free second later)
    · rw [if_neg one] at left
      by_cases two : second = delivery
      · rw [if_pos two] at right
        cases right
        exact absurd left (free first attempt)
      · rw [if_neg two] at right
        exact owned.alone first second other attempt later left right

/-- The only runner of a job finishes, whatever it writes into the row. -/
theorem finish {delivery job attempt : Nat} (running : runner delivery = some (job, attempt))
    (change : BackgroundJob → BackgroundJob) :
    Owned (jobs.modify job change) (fun id => if id = delivery then none else runner id) := by
  constructor
  · intro id other count holds
    by_cases here : id = delivery
    · rw [if_pos here] at holds
      cases holds
    · rw [if_neg here] at holds
      have different : other ≠ job := by
        intro equal
        subst equal
        exact here (owned.alone id delivery other count attempt holds running)
      rw [Table.get?_modify, if_neg different]
      exact owned.row id other count holds
  · intro first second other count later left right
    by_cases one : first = delivery
    · rw [if_pos one] at left
      cases left
    · by_cases two : second = delivery
      · rw [if_pos two] at right
        cases right
      · rw [if_neg one] at left
        rw [if_neg two] at right
        exact owned.alone first second other count later left right

end Owned

/-- The bound that a running delivery captured. -/
def openBound : Phase → Option Nat
  | .running _ bound => some bound
  | _ => none

/-- A captured bound is still the bound of the job. -/
def Captured (jobs : Table BackgroundJob) (bounds : Nat → Option (Nat × Nat)) : Prop :=
  ∀ delivery job bound, bounds delivery = some (job, bound) →
    ∃ row, jobs.get? job = some row ∧ row.maxAttempts = bound

namespace Captured
variable {jobs : Table BackgroundJob} {bounds : Nat → Option (Nat × Nat)}
  (captured : Captured jobs bounds)
include captured

theorem modify (job : Nat) {change : BackgroundJob → BackgroundJob}
    (same : ∀ row, (change row).maxAttempts = row.maxAttempts) :
    Captured (jobs.modify job change) bounds := by
  intro delivery other bound running
  obtain ⟨row, found, kept⟩ := captured delivery other bound running
  rw [Table.get?_modify, found]
  by_cases here : other = job
  · rw [if_pos here]
    exact ⟨_, rfl, (same row).trans kept⟩
  · rw [if_neg here]
    exact ⟨row, rfl, kept⟩

theorem set {job : Nat} {row next : BackgroundJob} (found : jobs.get? job = some row)
    (same : next.maxAttempts = row.maxAttempts) : Captured (jobs.set job next) bounds := by
  intro delivery other bound running
  obtain ⟨current, known, kept⟩ := captured delivery other bound running
  by_cases here : other = job
  · subst here
    obtain rfl := Option.some.inj (found.symm.trans known)
    exact ⟨next, Table.get?_set_self next found, same.trans kept⟩
  · exact ⟨current, by rw [Table.get?_set_ne _ _ here, known], kept⟩

theorem insert (row : BackgroundJob) : Captured (jobs.insert row) bounds := by
  intro delivery job bound running
  obtain ⟨current, known, kept⟩ := captured delivery job bound running
  exact ⟨current, Table.get?_insert_of_some row known, kept⟩

theorem begin (delivery : Nat) {job bound : Nat} {row : BackgroundJob}
    (found : jobs.get? job = some row) (same : row.maxAttempts = bound) :
    Captured jobs (fun id => if id = delivery then some (job, bound) else bounds id) := by
  intro id other bound running
  dsimp only at running
  by_cases here : id = delivery
  · rw [if_pos here] at running
    cases running
    exact ⟨row, found, same⟩
  · rw [if_neg here] at running
    exact captured id other bound running

theorem finish (delivery : Nat) :
    Captured jobs (fun id => if id = delivery then none else bounds id) := by
  intro id other bound running
  dsimp only at running
  by_cases here : id = delivery
  · rw [if_pos here] at running
    cases running
  · rw [if_neg here] at running
    exact captured id other bound running

end Captured

/-- The invariant of the attempts: bounded rows, and one runner for each job that still
knows the counter and the bound of its job. -/
structure SingleRunner (v : View) : Prop where
  rows : ∀ id row, v.jobs.get? id = some row → RowBounded row
  owned : Owned v.jobs (observe openAttempt v.deliveries)
  captured : Captured v.jobs (observe openBound v.deliveries)

theorem singleRunner_initial : SingleRunner (view State.initial) :=
  { rows := fun _ _ found => by cases found
    owned := ⟨fun _ _ _ running => (by cases running), fun _ _ _ _ _ left => (by cases left)⟩
    captured := fun _ _ _ running => (by cases running) }

theorem rows_modify {jobs : Table BackgroundJob} {job : Nat} {change : BackgroundJob → BackgroundJob}
    (rows : ∀ id row, jobs.get? id = some row → RowBounded row)
    (kept : ∀ row, jobs.get? job = some row → RowBounded row → RowBounded (change row)) :
    ∀ id row, (jobs.modify job change).get? id = some row → RowBounded row := by
  intro id row found
  obtain ⟨old, known, ⟨_, same⟩ | ⟨here, changed⟩⟩ := Table.modify_cases found
  · exact same ▸ rows id old known
  · subst here
    exact changed ▸ kept old known (rows id old known)

theorem rows_set {jobs : Table BackgroundJob} {job : Nat} {old next : BackgroundJob}
    (rows : ∀ id row, jobs.get? id = some row → RowBounded row) (found : jobs.get? job = some old)
    (kept : RowBounded next) : ∀ id row, (jobs.set job next).get? id = some row → RowBounded row := by
  rw [← Table.modify_of_some (fun _ => next) found]
  exact rows_modify rows fun _ _ _ => kept

theorem rows_insert {jobs : Table BackgroundJob} {next : BackgroundJob}
    (rows : ∀ id row, jobs.get? id = some row → RowBounded row) (kept : RowBounded next) :
    ∀ id row, (jobs.insert next).get? id = some row → RowBounded row := by
  intro id row found
  rcases Table.insert_cases found with known | ⟨_, new⟩
  · exact rows id row known
  · exact new ▸ kept

theorem ready_retryable {row : BackgroundJob} {now : Time} (ready : readyCondition now row = true) :
    row.status ∈ retryableJobStatuses := by
  rw [(of_decide_eq_true ready).1]
  decide

theorem runs_retryable {row : BackgroundJob} {now : Time} (runs : shouldRun row now = true) :
    row.status ∈ retryableJobStatuses := by
  have active := shouldRun_active runs
  revert active
  cases row.status <;> decide

theorem capturedBound_eq {row : BackgroundJob} (positive : 1 ≤ row.maxAttempts) :
    capturedBound row = row.maxAttempts := if_neg (by omega)

theorem owned_move {kind : Kind} {before after : View} (moved : Move kind before after)
    (owned : Owned before.jobs (observe openAttempt before.deliveries)) :
    Owned after.jobs (observe openAttempt after.deliveries) := by
  cases moved with
  | accept found due =>
    rw [observe_insert rfl]
    exact owned
  | postpone error found due left => exact owned
  | bury error found due spent =>
    exact owned.modify (fun _ => rfl) (by simp [BackgroundJob.deadLettered, retryableJobStatuses])
  | reschedule queueId found ready placed =>
    exact owned.set_free (owned.idle found (ready_retryable ready)) _
  | create request nonempty fresh placed => exact owned.insert _
  | begin lockOwner delivered found runs =>
    rw [observe_set delivered]
    exact owned.begin found (owned.idle found (runs_retryable runs))
      (by simp [BackgroundJob.started, retryableJobStatuses])
  | skip delivered idle =>
    rw [observe_set_same delivered]
    · exact owned
    · rfl
  | succeed result delivered =>
    rw [observe_set delivered]
    exact owned.finish (observe_of_get delivered) _
  | retry error delivered left =>
    rw [observe_set delivered]
    exact owned.finish (observe_of_get delivered) _
  | exhaust error delivered spent =>
    rw [observe_set delivered]
    exact owned.finish (observe_of_get delivered) _
  | cancel found cancellable =>
    rw [← Table.modify_of_some (BackgroundJob.cancelled before.now) found]
    exact owned.modify (fun _ => rfl) (by simp [BackgroundJob.cancelled, retryableJobStatuses])
  | redeliver job =>
    rw [observe_insert rfl]
    exact owned
  | crash delivered =>
    rw [observe_set_same delivered]
    · exact owned
    · rfl
  | advance seconds => exact owned

theorem captured_move {kind : Kind} {before after : View} (moved : Move kind before after)
    (rows : ∀ id row, before.jobs.get? id = some row → RowBounded row)
    (captured : Captured before.jobs (observe openBound before.deliveries)) :
    Captured after.jobs (observe openBound after.deliveries) := by
  cases moved with
  | accept found due =>
    rw [observe_insert rfl]
    exact captured
  | postpone error found due left => exact captured
  | bury error found due spent => exact captured.modify _ (fun _ => rfl)
  | reschedule queueId found ready placed => exact captured.set found rfl
  | create request nonempty fresh placed => exact captured.insert _
  | begin lockOwner delivered found runs =>
    rw [observe_set delivered, capturedBound_eq (rows _ _ found).positive]
    apply Captured.begin _ _ (Table.get?_set_self _ found)
    · rfl
    · exact captured.set found rfl
  | skip delivered idle =>
    rw [observe_set_same delivered]
    · exact captured
    · rfl
  | succeed result delivered =>
    rw [observe_set delivered]
    exact (captured.finish _).modify _ (fun _ => rfl)
  | retry error delivered left =>
    rw [observe_set delivered]
    exact (captured.finish _).modify _ (fun _ => rfl)
  | exhaust error delivered spent =>
    rw [observe_set delivered]
    exact (captured.finish _).modify _ (fun _ => rfl)
  | cancel found cancellable => exact captured.set found rfl
  | redeliver job =>
    rw [observe_insert rfl]
    exact captured
  | crash delivered =>
    rw [observe_set delivered]
    exact captured.finish _
  | advance seconds => exact captured

theorem rows_move {kind : Kind} {before after : View} (moved : Move kind before after)
    (holds : SingleRunner before) : ∀ id row, after.jobs.get? id = some row → RowBounded row := by
  obtain ⟨rows, owned, captured⟩ := holds
  cases moved with
  | accept found due => exact rows
  | postpone error found due left => exact rows
  | bury error found due spent => exact rows_modify rows fun _ _ bounded => bounded.deadLettered _ _
  | reschedule queueId found ready placed =>
    exact rows_set rows found ((rows _ _ found).enqueued queueId (ready_retryable ready))
  | create request nonempty fresh placed => exact rows_insert rows (newJob_bounded request _)
  | begin lockOwner delivered found runs =>
    exact rows_set rows found ((rows _ _ found).started _ lockOwner (runs_retryable runs))
  | skip delivered idle => exact rows
  | succeed result delivered => exact rows_modify rows fun _ _ bounded => bounded.succeeded _ _
  | retry error delivered left =>
    obtain ⟨row, found, counter, _⟩ := owned.row _ _ _ (observe_of_get delivered)
    obtain ⟨same, known, bound⟩ := captured _ _ _ (observe_of_get delivered)
    obtain rfl := Option.some.inj (found.symm.trans known)
    refine rows_modify rows fun current known bounded => ?_
    obtain rfl := Option.some.inj (found.symm.trans known)
    apply bounded.retrying
    omega
  | exhaust error delivered spent => exact rows_modify rows fun _ _ bounded => bounded.deadLettered _ _
  | cancel found cancellable => exact rows_set rows found ((rows _ _ found).cancelled _)
  | redeliver job => exact rows
  | crash delivered => exact rows
  | advance seconds => exact rows

theorem singleRunner_move (kind : Kind) (before after : View) (holds : SingleRunner before)
    (moved : Move kind before after) : SingleRunner after :=
  ⟨rows_move moved holds, owned_move moved holds.owned, captured_move moved holds.rows holds.captured⟩

section System
variable (sha256 : String → String)

/-- In every run of whole transactions the attempts of a job stay within their bound, a job
that waits for a run has one left, the lock marks exactly the running jobs, and no job has
two deliveries between their start and their finish. -/
theorem bounded_attempts_single_runner {actions : List Action} {state : State}
    (atomic : ∀ action ∈ actions, action.atomic = true)
    (ran : run sha256 State.initial actions = some state) :
    (∀ id job, state.db.jobs.get? id = some job →
      job.attemptCount ≤ job.maxAttempts ∧
      (job.status = .queued ∨ job.status = .retrying → job.attemptCount < job.maxAttempts) ∧
      (job.lockedAt.isSome = true ↔ job.status = .running)) ∧
    ∀ first second job left right,
      state.deliveries.get? first = some ⟨job, left⟩ → (openAttempt left).isSome = true →
      state.deliveries.get? second = some ⟨job, right⟩ → (openAttempt right).isSome = true →
      first = second := by
  have holds : SingleRunner (view state) :=
    run_moves_invariant sha256 singleRunner_move singleRunner_initial atomic ran
  constructor
  · intro id job found
    have bounded := holds.rows id job found
    refine ⟨bounded.attempts, fun waits => bounded.pending ?_, bounded.locked⟩
    rcases waits with queued | retrying
    · rw [queued]
      decide
    · rw [retrying]
      decide
  · intro first second job left right one opened two taken
    obtain ⟨attempt, opened⟩ := Option.isSome_iff_exists.1 opened
    obtain ⟨other, taken⟩ := Option.isSome_iff_exists.1 taken
    have owner : observe openAttempt state.deliveries first = some (job, attempt) := by
      rw [observe_of_get one, opened]
      rfl
    have rival : observe openAttempt state.deliveries second = some (job, other) := by
      rw [observe_of_get two, taken]
      rfl
    exact holds.owned.alone first second job attempt other owner rival

end System

/-- The first run of a job fails while a duplicate of its delivery waits. -/
def firstRunFails : List Action :=
  [.enqueue nightlyCompile, .replayOutbox (fun _ => none) 1, .redeliver 0, .start 0 "host:1",
    .fail 0 "timeout"]

theorem bounded_attempts_firstRunFails : ∃ state job,
    run nightlyDigest State.initial firstRunFails = some state ∧
    state.db.jobs.get? 0 = some job ∧ job.status = .retrying ∧
    job.attemptCount < job.maxAttempts := by
  refine ⟨_, _, rfl, rfl, rfl, ?_⟩
  have atomic : ∀ action ∈ firstRunFails, action.atomic = true := by decide
  exact ((bounded_attempts_single_runner nightlyDigest atomic rfl).1 0 _ rfl).2.1 (.inr rfl)

end SoulClaw.Worker.Attempts
