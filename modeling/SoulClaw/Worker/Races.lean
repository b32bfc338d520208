import SoulClaw.Worker.Attempts

/-! Starts that are split into their read and their commit. The start takes no row lock, so
two deliveries of one job can both read it before either commits. As long as the starts of
a job do not overlap in this way, its runs exclude each other. -/

namespace SoulClaw.Worker.Races
open Foundation Domain.Jobs Queue Moves Attempts

/-- Every start is split into its read and its commit. -/
def isSplit : Action → Bool
  | .start _ _ => false
  | _ => true

def isLoaded : Phase → Bool
  | .loaded _ => true
  | _ => false

/-- No other start of the job has read its row and not yet committed. -/
def apart (state : State) : Action → Bool
  | .load id =>
      (state.deliveries.get? id).all fun delivery =>
        !state.deliveries.rows.any fun other => other.job = delivery.job ∧ isLoaded other.phase
  | _ => true

/-- The counter that a split start has read. -/
def loadedAttempt : Phase → Option Nat
  | .loaded row => some row.attemptCount
  | _ => none

/-- The attempt that a delivery executes or has executed. -/
def ranAttempt : Phase → Option Nat
  | .running attempt _ => some attempt
  | .finished attempt => attempt
  | .crashed attempt => some attempt
  | _ => none

/-- Of the deliveries of one job at most one is between its read and its finish, and no
attempt is executed twice. -/
structure Exclusive (v : View) : Prop where
  owned : Owned v.jobs (observe openAttempt v.deliveries)
  current : ∀ delivery job attempt, observe loadedAttempt v.deliveries delivery = some (job, attempt) →
    ∃ row, v.jobs.get? job = some row ∧ row.attemptCount = attempt
  free : ∀ delivery job attempt, observe loadedAttempt v.deliveries delivery = some (job, attempt) →
    ∀ other count, observe openAttempt v.deliveries other ≠ some (job, count)
  single : ∀ first second job attempt other,
    observe loadedAttempt v.deliveries first = some (job, attempt) →
    observe loadedAttempt v.deliveries second = some (job, other) → first = second
  counted : ∀ delivery job attempt, observe ranAttempt v.deliveries delivery = some (job, attempt) →
    ∃ row, v.jobs.get? job = some row ∧ attempt ≤ row.attemptCount
  once : ∀ first second job attempt, observe ranAttempt v.deliveries first = some (job, attempt) →
    observe ranAttempt v.deliveries second = some (job, attempt) → first = second

/-! Steps that start nothing. -/

def KeepsCounters (before after : Table BackgroundJob) : Prop :=
  ∀ id row, before.get? id = some row →
    ∃ later, after.get? id = some later ∧ later.attemptCount = row.attemptCount

theorem keepsCounters_refl (jobs : Table BackgroundJob) : KeepsCounters jobs jobs :=
  fun _ row found => ⟨row, found, rfl⟩

theorem keepsCounters_modify (jobs : Table BackgroundJob) (id : Nat)
    {change : BackgroundJob → BackgroundJob}
    (same : ∀ row, (change row).attemptCount = row.attemptCount) :
    KeepsCounters jobs (jobs.modify id change) := by
  intro other row found
  rw [Table.get?_modify, found]
  by_cases here : other = id
  · rw [if_pos here]
    exact ⟨_, rfl, same row⟩
  · rw [if_neg here]
    exact ⟨row, rfl, rfl⟩

theorem keepsCounters_set {jobs : Table BackgroundJob} {id : Nat} {row next : BackgroundJob}
    (found : jobs.get? id = some row) (same : next.attemptCount = row.attemptCount) :
    KeepsCounters jobs (jobs.set id next) := by
  intro other current known
  by_cases here : other = id
  · subst here
    obtain rfl := Option.some.inj (found.symm.trans known)
    exact ⟨next, Table.get?_set_self next found, same⟩
  · exact ⟨current, by rw [Table.get?_set_ne _ _ here, known], rfl⟩

theorem keepsCounters_insert (jobs : Table BackgroundJob) (row : BackgroundJob) :
    KeepsCounters jobs (jobs.insert row) :=
  fun _ current known => ⟨current, Table.get?_insert_of_some row known, rfl⟩

/-- The step starts no run and reads no row for a start. -/
structure Quiet (before after : View) : Prop where
  counters : KeepsCounters before.jobs after.jobs
  loaded : observe loadedAttempt after.deliveries = observe loadedAttempt before.deliveries
  ran : observe ranAttempt after.deliveries = observe ranAttempt before.deliveries
  opened : ∀ delivery run, observe openAttempt after.deliveries delivery = some run →
    observe openAttempt before.deliveries delivery = some run

private theorem quiet_insert {before after : View} {job : Nat}
    (counters : KeepsCounters before.jobs after.jobs)
    (deliveries : after.deliveries = before.deliveries.insert ⟨job, .waiting⟩) : Quiet before after := by
  refine ⟨counters, ?_, ?_, ?_⟩
  · rw [deliveries, observe_insert rfl]
  · rw [deliveries, observe_insert rfl]
  · rw [deliveries, observe_insert rfl]
    exact fun _ _ running => running

private theorem quiet_same {before after : View} (counters : KeepsCounters before.jobs after.jobs)
    (deliveries : after.deliveries = before.deliveries) : Quiet before after := by
  refine ⟨counters, ?_, ?_, ?_⟩
  · rw [deliveries]
  · rw [deliveries]
  · rw [deliveries]
    exact fun _ _ running => running

private theorem quiet_end {before after : View} {id job attempt bound : Nat} {next : Phase}
    (counters : KeepsCounters before.jobs after.jobs)
    (delivered : before.deliveries.get? id = some ⟨job, .running attempt bound⟩)
    (deliveries : after.deliveries = before.deliveries.set id ⟨job, next⟩)
    (loaded : loadedAttempt next = none) (ran : ranAttempt next = some attempt)
    (opened : ∀ count, openAttempt next = some count → count = attempt) : Quiet before after := by
  refine ⟨counters, ?_, ?_, ?_⟩
  · rw [deliveries, observe_set_same delivered]
    exact loaded
  · rw [deliveries, observe_set_same delivered]
    exact ran
  · intro delivery run running
    rw [deliveries, observe_set delivered] at running
    dsimp only at running
    split at running
    next here =>
      obtain ⟨count, seen, rfl⟩ := Option.map_eq_some_iff.1 running
      rw [here, observe_of_get delivered, opened count seen]
      rfl
    next => exact running

theorem quiet_move {kind : Kind} {before after : View} (other : kind ≠ .start)
    (moved : Move kind before after) : Quiet before after := by
  cases moved with
  | accept found due => exact quiet_insert (keepsCounters_refl _) rfl
  | postpone error found due left => exact quiet_same (keepsCounters_refl _) rfl
  | bury error found due spent => exact quiet_same (keepsCounters_modify _ _ fun _ => rfl) rfl
  | reschedule queueId found ready placed => exact quiet_same (keepsCounters_set found rfl) rfl
  | create request nonempty fresh placed => exact quiet_same (keepsCounters_insert _ _) rfl
  | begin lockOwner delivered found runs => exact absurd rfl other
  | skip delivered idle => exact absurd rfl other
  | succeed result delivered =>
    exact quiet_end (keepsCounters_modify _ _ fun _ => rfl) delivered rfl rfl rfl (by simp [openAttempt])
  | retry error delivered left =>
    exact quiet_end (keepsCounters_modify _ _ fun _ => rfl) delivered rfl rfl rfl (by simp [openAttempt])
  | exhaust error delivered spent =>
    exact quiet_end (keepsCounters_modify _ _ fun _ => rfl) delivered rfl rfl rfl (by simp [openAttempt])
  | cancel found cancellable => exact quiet_same (keepsCounters_set found rfl) rfl
  | redeliver job => exact quiet_insert (keepsCounters_refl _) rfl
  | crash delivered =>
    refine quiet_end (keepsCounters_refl _) delivered rfl rfl rfl fun count seen => ?_
    exact (Option.some.inj seen).symm
  | advance seconds => exact quiet_same (keepsCounters_refl _) rfl

theorem exclusive_move {kind : Kind} (other : kind ≠ .start) (before after : View)
    (exclusive : Exclusive before) (moved : Move kind before after) : Exclusive after := by
  have quiet := quiet_move other moved
  refine ⟨owned_move moved exclusive.owned, ?_, ?_, ?_, ?_, ?_⟩
  · intro delivery job attempt loaded
    rw [quiet.loaded] at loaded
    obtain ⟨row, found, same⟩ := exclusive.current delivery job attempt loaded
    obtain ⟨later, reached, kept⟩ := quiet.counters job row found
    exact ⟨later, reached, kept.trans same⟩
  · intro delivery job attempt loaded rival count running
    rw [quiet.loaded] at loaded
    exact exclusive.free delivery job attempt loaded rival count (quiet.opened rival _ running)
  · rw [quiet.loaded]
    exact exclusive.single
  · intro delivery job attempt ran
    rw [quiet.ran] at ran
    obtain ⟨row, found, bound⟩ := exclusive.counted delivery job attempt ran
    obtain ⟨later, reached, kept⟩ := quiet.counters job row found
    exact ⟨later, reached, kept ▸ bound⟩
  · rw [quiet.ran]
    exact exclusive.once

/-! The two halves of a start. -/

section Halves
variable {v : View} (exclusive : Exclusive v) {id job : Nat}
include exclusive

theorem exclusive_pass {phase next : Phase} (delivered : v.deliveries.get? id = some ⟨job, phase⟩)
    (opened : openAttempt next = openAttempt phase) (loaded : loadedAttempt next = loadedAttempt phase)
    (ran : ranAttempt next = ranAttempt phase) :
    Exclusive { v with deliveries := v.deliveries.set id ⟨job, next⟩ } := by
  have sameOpen := observe_set_same delivered opened
  have sameLoaded := observe_set_same delivered loaded
  have sameRan := observe_set_same delivered ran
  refine ⟨?_, ?_, ?_, ?_, ?_, ?_⟩ <;> dsimp only
  · rw [sameOpen]
    exact exclusive.owned
  · rw [sameLoaded]
    exact exclusive.current
  · rw [sameLoaded, sameOpen]
    exact exclusive.free
  · rw [sameLoaded]
    exact exclusive.single
  · rw [sameRan]
    exact exclusive.counted
  · rw [sameRan]
    exact exclusive.once

theorem exclusive_load {row : BackgroundJob} (delivered : v.deliveries.get? id = some ⟨job, .waiting⟩)
    (found : v.jobs.get? job = some row) (runs : shouldRun row v.now = true)
    (alone : ∀ other count, observe loadedAttempt v.deliveries other ≠ some (job, count)) :
    Exclusive { v with deliveries := v.deliveries.set id ⟨job, .loaded row⟩ } := by
  have idle := exclusive.owned.idle found (runs_retryable runs)
  have sameOpen : observe openAttempt (v.deliveries.set id ⟨job, .loaded row⟩) =
      observe openAttempt v.deliveries := observe_set_same delivered rfl
  have sameRan : observe ranAttempt (v.deliveries.set id ⟨job, .loaded row⟩) =
      observe ranAttempt v.deliveries := observe_set_same delivered rfl
  refine ⟨?_, ?_, ?_, ?_, ?_, ?_⟩ <;> dsimp only
  · rw [sameOpen]
    exact exclusive.owned
  · rw [observe_set delivered]
    intro delivery other attempt loaded
    dsimp only at loaded
    split at loaded
    · cases loaded
      exact ⟨row, found, rfl⟩
    · exact exclusive.current delivery other attempt loaded
  · rw [observe_set delivered, sameOpen]
    intro delivery other attempt loaded
    dsimp only at loaded
    split at loaded
    · cases loaded
      exact idle
    · exact exclusive.free delivery other attempt loaded
  · rw [observe_set delivered]
    intro first second other attempt count left right
    dsimp only at left right
    split at left
    next one =>
      cases left
      split at right
      next two => exact one.trans two.symm
      next => exact absurd right (alone second count)
    next =>
      split at right
      next =>
        cases right
        exact absurd left (alone first attempt)
      next => exact exclusive.single first second other attempt count left right
  · rw [sameRan]
    exact exclusive.counted
  · rw [sameRan]
    exact exclusive.once

theorem exclusive_commit {loaded row : BackgroundJob} (lockOwner : String)
    (delivered : v.deliveries.get? id = some ⟨job, .loaded loaded⟩)
    (found : v.jobs.get? job = some row) :
    Exclusive { v with
      jobs := v.jobs.set job (writeStart loaded row v.now lockOwner)
      deliveries := v.deliveries.set id
        ⟨job, .running (loaded.attemptCount + 1) (capturedBound loaded)⟩ } := by
  have mine : observe loadedAttempt v.deliveries id = some (job, loaded.attemptCount) :=
    observe_of_get delivered
  obtain ⟨same, known, count⟩ := exclusive.current _ _ _ mine
  obtain rfl := Option.some.inj (found.symm.trans known)
  have idle := exclusive.free _ _ _ mine
  have counter : (writeStart loaded row v.now lockOwner).attemptCount = row.attemptCount + 1 := by
    rw [count]
    rfl
  refine ⟨?_, ?_, ?_, ?_, ?_, ?_⟩ <;> dsimp only
  · rw [observe_set delivered]
    exact exclusive.owned.begin found idle (by simp [writeStart, retryableJobStatuses])
  · rw [observe_set delivered]
    intro delivery other attempt reading
    dsimp only at reading
    split at reading
    next => cases reading
    next here =>
      have different : other ≠ job := fun equal =>
        here (exclusive.single delivery id job attempt _ (equal ▸ reading) mine)
      rw [Table.get?_set_ne _ _ different]
      exact exclusive.current delivery other attempt reading
  · rw [observe_set delivered, observe_set delivered]
    intro delivery other attempt reading rival count running
    dsimp only at reading running
    split at reading
    next => cases reading
    next here =>
      split at running
      next =>
        cases running
        exact here (exclusive.single delivery id _ attempt _ reading mine)
      next => exact exclusive.free delivery other attempt reading rival count running
  · rw [observe_set delivered]
    intro first second other attempt count left right
    dsimp only at left right
    split at left
    next => cases left
    next =>
      split at right
      next => cases right
      next => exact exclusive.single first second other attempt count left right
  · rw [observe_set delivered]
    intro delivery other attempt ran
    dsimp only at ran
    split at ran
    next =>
      cases ran
      exact ⟨_, Table.get?_set_self _ found, Nat.le_refl _⟩
    next =>
      obtain ⟨current, present, bound⟩ := exclusive.counted delivery other attempt ran
      by_cases here : other = job
      · subst here
        obtain rfl := Option.some.inj (found.symm.trans present)
        exact ⟨_, Table.get?_set_self _ found, by omega⟩
      · exact ⟨current, by rw [Table.get?_set_ne _ _ here, present], bound⟩
  · rw [observe_set delivered]
    have fresh : ∀ delivery, observe ranAttempt v.deliveries delivery ≠
        some (job, loaded.attemptCount + 1) := by
      intro delivery ran
      obtain ⟨current, present, bound⟩ := exclusive.counted delivery job _ ran
      obtain rfl := Option.some.inj (found.symm.trans present)
      omega
    intro first second other attempt left right
    dsimp only at left right
    split at left
    next one =>
      cases left
      split at right
      next two => exact one.trans two.symm
      next => exact absurd right (fresh second)
    next =>
      split at right
      next =>
        cases right
        exact absurd left (fresh first)
      next => exact exclusive.once first second other attempt left right

end Halves

theorem exclusive_initial : Exclusive (view State.initial) where
  owned := singleRunner_initial.owned
  current := fun _ _ _ loaded => (by cases loaded)
  free := fun _ _ _ loaded => (by cases loaded)
  single := fun _ _ _ _ _ left => (by cases left)
  counted := fun _ _ _ ran => (by cases ran)
  once := fun _ _ _ _ left => (by cases left)

section System
variable (sha256 : String → String)

theorem alone_of_apart {state : State} {id job : Nat} {phase : Phase}
    (separate : apart state (.load id) = true)
    (delivered : state.deliveries.get? id = some ⟨job, phase⟩) (other count : Nat) :
    observe loadedAttempt state.deliveries other ≠ some (job, count) := by
  intro reading
  rw [apart, delivered] at separate
  obtain ⟨⟨owner, now⟩, found, seen⟩ := Option.bind_eq_some_iff.1 reading
  obtain ⟨attempt, loaded, same⟩ := Option.map_eq_some_iff.1 seen
  obtain ⟨rfl, rfl⟩ := Prod.mk.inj same
  have member : (⟨owner, now⟩ : Delivery) ∈ state.deliveries.rows := List.mem_of_getElem? found
  cases now with
  | loaded row =>
    simp at separate
    have unread := separate _ member rfl
    simp [isLoaded] at unread
  | _ => cases loaded

theorem kind_of_split {action : Action} (halved : isSplit action = true) : kind action ≠ .start := by
  cases action <;> simp_all [isSplit, kind]

theorem exclusive_step {state next : State} {action : Action} (exclusive : Exclusive (view state))
    (halved : isSplit action = true) (separate : apart state action = true)
    (taken : step sha256 state action = some next) : Exclusive (view next) := by
  by_cases atomic : action.atomic = true
  · exact moves_invariant (exclusive_move (kind_of_split halved)) exclusive (step_moves sha256 atomic taken)
  · cases action with
    | load id =>
      rw [step] at taken
      split at taken
      next job delivered =>
        split at taken
        next row found =>
          split at taken
          next runs =>
            cases taken
            exact exclusive_load exclusive delivered found runs (alone_of_apart separate delivered)
          next =>
            cases taken
            exact exclusive_pass exclusive delivered rfl rfl rfl
        next =>
          cases taken
          exact exclusive_pass exclusive delivered rfl rfl rfl
      next => cases taken
    | commitStart id lockOwner =>
      rw [step] at taken
      split at taken
      next job loaded delivered =>
        split at taken
        next row found =>
          cases taken
          exact exclusive_commit exclusive lockOwner delivered found
        next => cases taken
      next => cases taken
    | _ => exact absurd rfl atomic

/-- In every run in which the starts of a job do not overlap, no two deliveries of a job
execute at the same time, and no two deliveries execute the same attempt. -/
theorem runs_exclude_each_other {actions : List Action} {state : State}
    (halved : ∀ action ∈ actions, isSplit action = true)
    (separate : Runs.Along (step sha256) (fun s a => apart s a = true) State.initial actions)
    (ran : run sha256 State.initial actions = some state) :
    ∀ first second job left right,
      state.deliveries.get? first = some ⟨job, left⟩ →
      state.deliveries.get? second = some ⟨job, right⟩ →
      ((openAttempt left).isSome = true ∧ (openAttempt right).isSome = true ∨
        ranAttempt left = ranAttempt right ∧ (ranAttempt left).isSome = true) →
      first = second := by
  have whole : Runs.Along (step sha256) (fun _ a => isSplit a = true) State.initial actions :=
    Runs.along_of_forall_mem State.initial actions halved
  have exclusive : Exclusive (view state) := by
    refine Runs.run_invariant_along (fun s => Exclusive (view s)) ?_ exclusive_initial
      (whole.and separate) ran
    exact fun _ _ _ holds guarded taken => exclusive_step sha256 holds guarded.1 guarded.2 taken
  intro first second job left right one two clash
  rcases clash with ⟨opened, taken⟩ | ⟨same, executed⟩
  · obtain ⟨attempt, opened⟩ := Option.isSome_iff_exists.1 opened
    obtain ⟨other, taken⟩ := Option.isSome_iff_exists.1 taken
    refine exclusive.owned.alone first second job attempt other ?_ ?_
    · exact (observe_of_get one).trans (by rw [opened]; rfl)
    · exact (observe_of_get two).trans (by rw [taken]; rfl)
  · obtain ⟨attempt, executed⟩ := Option.isSome_iff_exists.1 executed
    refine exclusive.once first second job attempt ?_ ?_
    · exact (observe_of_get one).trans (by rw [executed]; rfl)
    · exact (observe_of_get two).trans (by rw [← same, executed]; rfl)

end System

/-- Two deliveries of one job, one start after the other. -/
def startsApart : List Action :=
  [.enqueue nightlyCompile, .replayOutbox (fun _ => none) 1, .redeliver 0, .load 0,
    .commitStart 0 "host:1", .load 1]

theorem runs_exclude_each_other_startsApart : ∃ state,
    run nightlyDigest State.initial startsApart = some state ∧
    state.deliveries.get? 0 = some ⟨0, .running 1 3⟩ ∧
    ∀ delivery phase, state.deliveries.get? delivery = some ⟨0, phase⟩ →
      (openAttempt phase).isSome = true → delivery = 0 := by
  refine ⟨_, rfl, rfl, fun delivery phase delivered opened => ?_⟩
  exact runs_exclude_each_other nightlyDigest (by decide : ∀ action ∈ startsApart, isSplit action = true)
    (by decide) rfl delivery 0 0 phase (.running 1 3) delivered rfl (.inl ⟨opened, rfl⟩)

/-- Both deliveries read the job before either start commits. -/
def startsOverlap : List Action :=
  [.enqueue nightlyCompile, .replayOutbox (fun _ => none) 1, .redeliver 0, .load 0, .load 1,
    .commitStart 0 "host:1", .commitStart 1 "host:2"]

theorem overlapping_starts_run_twice : ∃ state,
    run nightlyDigest State.initial startsOverlap = some state ∧
    state.deliveries.get? 0 = some ⟨0, .running 1 3⟩ ∧
    state.deliveries.get? 1 = some ⟨0, .running 1 3⟩ :=
  ⟨_, rfl, rfl, rfl⟩

end SoulClaw.Worker.Races
