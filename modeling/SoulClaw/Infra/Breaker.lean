import SoulClaw.Foundation.Runs
import SoulClaw.Infra.Resilience

/-! The circuit breaker against its history. A circuit is a counter and an expiry that a later call clears; what
it refuses is told by the calls that have ended before. -/

namespace SoulClaw.Infra.Breaker
open Foundation Resilience

/-! What the breaker is for. -/

/-- A call that has ended, with what has been recorded of it. -/
structure Served (Value : Type) where
  invocation : Invocation Value
  report : Report Value
  recorded : List ExternalCall

section Specification
variable {Value : Type}

def Served.failed (served : Served Value) : Bool :=
  match served.report.ending with
  | .raised _ => true
  | _ => false

def Served.succeeded (served : Served Value) : Bool :=
  match served.report.ending with
  | .returned _ => true
  | _ => false

/-- The number of failed calls since the last successful one. -/
def failuresSince (history : List (Served Value)) : Nat :=
  history.foldl (fun count served => if served.succeeded then 0 else if served.failed then count + 1 else count) 0

/-- The end of the last failed call. -/
def lastFailure (history : List (Served Value)) : Option Rat :=
  history.foldl (fun last served => if served.failed then some served.invocation.finish else last) none

def Refuses (policy : ResiliencePolicy) (history : List (Served Value)) (now : Rat) : Prop :=
  threshold policy ≤ failuresSince history ∧ ∃ last, lastFailure history = some last ∧ now < last + recovery policy

/-- `fn` is invoked until the first success or the first failure that is not tried again, and no more often than
the policy says. -/
structure Attempted (policy : ResiliencePolicy) (invocation : Invocation Value) (report : Report Value) : Prop where
  least : 1 ≤ report.invocations
  most : (report.invocations : Int) ≤ max 1 policy.maxAttempts
  retried : ∀ attempt, 1 ≤ attempt → attempt < report.invocations →
    ∃ failure, invocation.outcomes attempt = .error failure ∧ shouldRetry policy failure = true
  ends : (∃ value, invocation.outcomes report.invocations = .ok value ∧ report.ending = .returned value) ∨
    ∃ failure, invocation.outcomes report.invocations = .error failure ∧ report.ending = .raised failure ∧
      (shouldRetry policy failure = false ∨ (report.invocations : Int) = max 1 policy.maxAttempts)

/-- What the calls before it say of a call. -/
structure Meets (policy : ResiliencePolicy) (earlier : List (Served Value)) (served : Served Value) : Prop where
  refused : Refuses policy earlier served.invocation.start → served.report.invocations = 0 ∧
    (∃ until', served.report.ending = .refused until') ∧ served.recorded = [externalCall policy "circuit_open"]
  attempted : ¬Refuses policy earlier served.invocation.start →
    Attempted policy served.invocation served.report ∧
      served.recorded = [externalCall policy (if served.succeeded then "succeeded" else "failed")]

end Specification

section Breaker
variable [FloatData] {Value : Type} (policy : ResiliencePolicy)

/-- A call, after those of the history. -/
def step (state : World × List (Served Value)) (invocation : Invocation Value) : Option (World × List (Served Value)) :=
  let next := call policy invocation state.1
  some (next.2, state.2 ++ [⟨invocation, next.1, next.2.recorded.drop state.1.recorded.length⟩])

/-- No wait before another attempt raises. -/
def Waits (invocation : Invocation Value) : Prop :=
  ∀ (attempt : Nat) (failure : Failure), 1 ≤ attempt → (attempt : Int) < policy.maxAttempts →
    (∀ earlier : Nat, 1 ≤ earlier → earlier < attempt →
      ∃ failure, invocation.outcomes earlier = .error failure ∧ shouldRetry policy failure = true) →
    invocation.outcomes attempt = .error failure → shouldRetry policy failure = true →
    wait policy invocation attempt failure = .ok ()

/-- A call that is let through can wait. -/
def Unbroken (state : World × List (Served Value)) (invocation : Invocation Value) : Prop :=
  (∃ until' ∈ ((state.1.states policy.name).getD {}).openedUntil, invocation.start < until') ∨ Waits policy invocation

/-- The state of the circuit follows the history of its calls. -/
structure Follows (state : CircuitState) (history : List (Served Value)) : Prop where
  failures : state.failures = failuresSince history
  opened : ∀ until' ∈ state.openedUntil, threshold policy ≤ failuresSince history ∧
    ∃ last, lastFailure history = some last ∧ until' = last + recovery policy
  closed : state.openedUntil = none → failuresSince history < threshold policy

variable {policy} {state : CircuitState} {history : List (Served Value)} {invocation : Invocation Value}

omit [FloatData] in
/-- A circuit is open exactly when the history says so. -/
theorem refuses_iff (follows : Follows policy state history) (now : Rat) :
    (∃ until' ∈ state.openedUntil, now < until') ↔ Refuses policy history now := by
  constructor
  · rintro ⟨until', opened, ahead⟩
    obtain ⟨enough, last, known, rfl⟩ := follows.opened until' opened
    exact ⟨enough, last, known, ahead⟩
  · rintro ⟨enough, last, known, ahead⟩
    cases opened : state.openedUntil with
    | none =>
      have few := follows.closed opened
      omega
    | some until' =>
      obtain ⟨_, last', known', rfl⟩ := follows.opened until' opened
      rw [known, Option.some.injEq] at known'
      exact ⟨_, rfl, known' ▸ ahead⟩

/-- The loop meets its specification from any attempt on. -/
theorem attempts_spec (waits : Waits policy invocation) (left attempt : Nat) (last : Option Failure) (positive : 1 ≤ attempt)
    (count : attempt + left = attemptLimit policy + 1) (some' : 0 < left)
    (before : ∀ earlier, 1 ≤ earlier → earlier < attempt →
      ∃ failure, invocation.outcomes earlier = .error failure ∧ shouldRetry policy failure = true) :
    Attempted policy invocation (attempts policy invocation left attempt last) := by
  have limit : ((attemptLimit policy : Nat) : Int) = max 1 policy.maxAttempts := by
    rw [attemptLimit]
    omega
  induction left generalizing attempt last with
  | zero => omega
  | succ left ih =>
    have most : (attempt : Int) ≤ max 1 policy.maxAttempts := by omega
    cases outcome : invocation.outcomes attempt with
    | ok value =>
      rw [attempts, outcome]
      exact ⟨positive, most, before, Or.inl ⟨value, outcome, rfl⟩⟩
    | error failure =>
      rw [attempts, outcome]
      dsimp only
      by_cases stops : (!shouldRetry policy failure) = true ∨ policy.maxAttempts ≤ attempt
      · rw [if_pos stops]
        refine ⟨positive, most, before, Or.inr ⟨failure, outcome, rfl, ?_⟩⟩
        rcases stops with final | exhausted
        · exact Or.inl (by simpa using final)
        · right
          dsimp only
          omega
      · rw [if_neg stops]
        have retried : shouldRetry policy failure = true := by
          by_contra kept
          exact stops (Or.inl (by simpa using kept))
        have more : (attempt : Int) < policy.maxAttempts := by
          by_contra ended
          exact stops (Or.inr (by omega))
        rw [waits attempt failure positive more before outcome retried]
        refine ih (attempt + 1) (some failure) (by omega) (by omega) (by omega) ?_
        intro earlier positive' earlier'
        by_cases here : earlier = attempt
        · exact ⟨failure, here ▸ outcome, retried⟩
        · exact before earlier positive' (by omega)

/-! Every ending leaves a state that follows the longer history. -/

section Endings
omit [FloatData]

theorem failuresSince_append (history : List (Served Value)) (served : Served Value) :
    failuresSince (history ++ [served]) =
      if served.succeeded then 0 else if served.failed then failuresSince history + 1 else failuresSince history := by
  rw [failuresSince, List.foldl_append]
  rfl

theorem lastFailure_append (history : List (Served Value)) (served : Served Value) :
    lastFailure (history ++ [served]) = if served.failed then some served.invocation.finish else lastFailure history := by
  rw [lastFailure, List.foldl_append]
  rfl

theorem one_le_threshold (policy : ResiliencePolicy) : 1 ≤ threshold policy := le_max_left ..

theorem follows_initial : Follows policy {} ([] : List (Served Value)) where
  failures := rfl
  opened := by
    intro until' opened
    cases opened
  closed := by
    intro _
    exact one_le_threshold policy

theorem follows_refused (follows : Follows policy state history) {served : Served Value} {until' : Rat}
    (ending : served.report.ending = .refused until') : Follows policy state (history ++ [served]) := by
  have count : failuresSince (history ++ [served]) = failuresSince history := by
    simp [failuresSince_append, Served.succeeded, Served.failed, ending]
  have last : lastFailure (history ++ [served]) = lastFailure history := by
    simp [lastFailure_append, Served.failed, ending]
  constructor
  · rw [count]
    exact follows.failures
  · rw [count, last]
    exact follows.opened
  · rw [count]
    exact follows.closed

theorem follows_returned {served : Served Value} {value : Value} (ending : served.report.ending = .returned value) :
    Follows policy {} (history ++ [served]) := by
  have count : failuresSince (history ++ [served]) = 0 := by
    simp [failuresSince_append, Served.succeeded, ending]
  constructor
  · exact count.symm
  · intro until' opened
    cases opened
  · intro _
    rw [count]
    exact one_le_threshold policy

theorem recordFailure_openedUntil (failure : Failure) (now : Rat) :
    (state.closed.recordFailure policy failure now).openedUntil =
      if threshold policy ≤ (state.failures + 1 : Nat) then some (now + recovery policy) else none := rfl

theorem follows_raised (follows : Follows policy state history) {served : Served Value} {failure : Failure}
    (ending : served.report.ending = .raised failure) :
    Follows policy (state.closed.recordFailure policy failure served.invocation.finish) (history ++ [served]) := by
  have count : failuresSince (history ++ [served]) = state.failures + 1 := by
    simp [failuresSince_append, Served.succeeded, Served.failed, ending, follows.failures]
  have last : lastFailure (history ++ [served]) = some served.invocation.finish := by
    simp [lastFailure_append, Served.failed, ending]
  constructor
  · exact count.symm
  · intro until' opened
    rw [recordFailure_openedUntil] at opened
    by_cases enough : threshold policy ≤ (state.failures + 1 : Nat)
    · rw [if_pos enough, Option.mem_some_iff] at opened
      rw [count, last]
      exact ⟨enough, _, rfl, opened.symm⟩
    · rw [if_neg enough] at opened
      cases opened
  · intro opened
    rw [recordFailure_openedUntil] at opened
    by_contra many
    have enough : threshold policy ≤ (state.failures + 1 : Nat) := by omega
    rw [if_pos enough] at opened
    cases opened

end Endings

/-! What a call does to the circuit, in its two cases. -/

theorem call_of_open {world : World} {until' : Rat} (opened : ((world.states policy.name).getD {}).openedUntil = some until')
    (ahead : invocation.start < until') :
    call policy invocation world = (⟨.refused until', 0⟩,
      { states := Function.update world.states policy.name (some ((world.states policy.name).getD {}))
        recorded := world.recorded ++ [externalCall policy "circuit_open"] }) := by
  have blocked : ((world.states policy.name).getD {}).openedUntil.filter (invocation.start < ·) = some until' := by
    rw [opened, Option.filter_some, if_pos (by simpa using ahead)]
  rw [call]
  dsimp only
  rw [blocked]

omit [FloatData] in
theorem filter_of_through {now : Rat} (through : ¬∃ until' ∈ state.openedUntil, now < until') :
    state.openedUntil.filter (now < ·) = none := by
  rw [Option.filter_eq_none_iff]
  intro until' opened ahead
  exact through ⟨until', opened, by simpa using ahead⟩

/-- A call that is let through ends as `fn` does. -/
theorem call_of_through {world : World} (waits : Waits policy invocation)
    (through : ¬∃ until' ∈ ((world.states policy.name).getD {}).openedUntil, invocation.start < until') :
    ∃ report world', call policy invocation world = (report, world') ∧ Attempted policy invocation report ∧
      ((∃ value, report.ending = .returned value ∧ world'.states policy.name = some {} ∧
          world'.recorded = world.recorded ++ [externalCall policy "succeeded"]) ∨
        ∃ failure, report.ending = .raised failure ∧
          world'.states policy.name = some (((world.states policy.name).getD {}).closed.recordFailure policy failure
            invocation.finish) ∧
          world'.recorded = world.recorded ++ [externalCall policy "failed"]) := by
  have limit : 1 ≤ attemptLimit policy := by
    rw [attemptLimit]
    omega
  have attempted := attempts_spec waits (attemptLimit policy) 1 none le_rfl (by omega) limit (by omega)
  rw [call]
  dsimp only
  rw [filter_of_through through]
  dsimp only
  rcases attempted.ends with ⟨value, _, ending⟩ | ⟨failure, _, ending, _⟩
  · rw [ending]
    exact ⟨_, _, rfl, attempted, Or.inl ⟨value, ending, Function.update_self .., rfl⟩⟩
  · rw [ending]
    exact ⟨_, _, rfl, attempted, Or.inr ⟨failure, ending, Function.update_self .., rfl⟩⟩

/-- A call meets its specification, and the circuit keeps following the history. -/
theorem step_meets {world : World} (follows : Follows policy ((world.states policy.name).getD {}) history)
    (unbroken : Unbroken policy (world, history) invocation) :
    ∃ served world', step policy (world, history) invocation = some (world', history ++ [served]) ∧
      Follows policy ((world'.states policy.name).getD {}) (history ++ [served]) ∧ Meets policy history served := by
  have open_iff := refuses_iff follows invocation.start
  by_cases refused : ∃ until' ∈ ((world.states policy.name).getD {}).openedUntil, invocation.start < until'
  · obtain ⟨until', opened, ahead⟩ := refused
    have called := call_of_open opened ahead
    refine ⟨_, _, rfl, ?_, ?_⟩
    · rw [called]
      dsimp only
      rw [Function.update_self]
      exact follows_refused follows rfl
    · rw [called]
      constructor
      · intro _
        exact ⟨rfl, ⟨until', rfl⟩, List.drop_left⟩
      · intro through
        exact absurd (open_iff.1 ⟨until', opened, ahead⟩) through
  · have waits : Waits policy invocation := unbroken.resolve_left refused
    obtain ⟨report, world', called, attempted, ended⟩ := call_of_through waits refused
    let served : Served Value := ⟨invocation, report, world'.recorded.drop world.recorded.length⟩
    refine ⟨served, world', by rw [step, called], ?_, ?_⟩
    · rcases ended with ⟨value, ending, after, _⟩ | ⟨failure, ending, after, _⟩
      · rw [after]
        exact follows_returned ending
      · rw [after]
        have raised : served.report.ending = .raised failure := ending
        exact follows_raised follows raised
    · constructor
      · intro blocked
        exact absurd (open_iff.2 blocked) refused
      · intro _
        refine ⟨attempted, ?_⟩
        rcases ended with ⟨value, ending, _, recorded⟩ | ⟨failure, ending, _, recorded⟩
        · simp [served, recorded, Served.succeeded, ending]
        · simp [served, recorded, Served.succeeded, ending]

/-- The circuit follows its history, and every call of it meets its specification. -/
structure Refines (policy : ResiliencePolicy) (state : World × List (Served Value)) : Prop where
  follows : Follows policy ((state.1.states policy.name).getD {}) state.2
  meets : ∀ front served back, state.2 = front ++ served :: back → Meets policy front served

theorem step_refines {state next : World × List (Served Value)} (refines : Refines policy state)
    (unbroken : Unbroken policy state invocation) (taken : step policy state invocation = some next) :
    Refines policy next := by
  obtain ⟨served, world', taken', follows, meets⟩ := step_meets refines.follows unbroken
  rw [taken', Option.some.injEq] at taken
  subst taken
  refine ⟨follows, ?_⟩
  intro front other back split
  rcases List.eq_nil_or_concat back with rfl | ⟨back, final, rfl⟩
  · obtain ⟨rfl, same⟩ := List.append_inj' split rfl
    rw [List.singleton_inj] at same
    exact same ▸ meets
  · rw [List.concat_eq_append, ← List.cons_append, ← List.append_assoc] at split
    exact refines.meets front other back (List.append_inj' split rfl).1

theorem run_serves (policy : ResiliencePolicy) (state : World × List (Served Value)) (calls : List (Invocation Value)) :
    ∃ last, Runs.run (step policy) state calls = some last ∧
      last.2.map Served.invocation = state.2.map Served.invocation ++ calls := by
  induction calls generalizing state with
  | nil => exact ⟨state, rfl, (List.append_nil _).symm⟩
  | cons invocation rest ih =>
    obtain ⟨last, ran, served⟩ := ih _
    refine ⟨last, Runs.run_cons_eq_some.2 ⟨_, rfl, ran⟩, ?_⟩
    rw [served, List.map_append, List.append_assoc]
    rfl

end Breaker

/-! Waits raise nothing under the policies that a deployment has. -/

theorem timeSleep_ok {seconds : Rat} (nonneg : 0 ≤ seconds) (bounded : seconds * 10 ^ 9 < 2 ^ 63) :
    timeSleep (.finite seconds) = .ok () := by
  rw [timeSleep, if_neg (not_lt.2 nonneg), if_pos bounded]

theorem max_zero (asked : PyFloat) : PyFloat.max (.finite 0) asked = .infinite false ∨
    ∃ seconds, PyFloat.max (.finite 0) asked = .finite seconds ∧ 0 ≤ seconds := by
  cases asked with
  | finite value =>
    by_cases above : 0 < value
    · exact Or.inr ⟨value, by simp [PyFloat.max, PyFloat.lt, above], above.le⟩
    · exact Or.inr ⟨0, by simp [PyFloat.max, PyFloat.lt, above], le_rfl⟩
  | infinite negative =>
    cases negative with
    | true => exact Or.inr ⟨0, rfl, le_rfl⟩
    | false => exact Or.inl rfl
  | nan => exact Or.inr ⟨0, rfl, le_rfl⟩

/-- What the header of a server asks for is cut at the cap. -/
theorem min_retryAfter {cap : Rat} (nonneg : 0 ≤ cap) (asked : PyFloat) :
    ∃ seconds, PyFloat.min (.finite cap) (PyFloat.max (.finite 0) asked) = .finite seconds ∧ 0 ≤ seconds ∧ seconds ≤ cap := by
  rcases max_zero asked with endless | ⟨seconds, same, positive⟩
  · rw [endless]
    exact ⟨cap, rfl, nonneg, le_rfl⟩
  · rw [same]
    by_cases below : seconds < cap
    · exact ⟨seconds, by simp [PyFloat.min, PyFloat.lt, below], positive, below.le⟩
    · exact ⟨cap, by simp [PyFloat.min, PyFloat.lt, below], nonneg, le_rfl⟩

section Waiting
variable [FloatData] {Value : Type} {policy : ResiliencePolicy} {invocation : Invocation Value}

/-- The delays that a policy asks for are such as can be slept. -/
structure Sleepable (policy : ResiliencePolicy) : Prop where
  base : 0 ≤ policy.baseDelaySeconds
  cap : 0 ≤ policy.maxDelaySeconds
  bounded : policy.maxDelaySeconds * (1 + max 0 policy.jitterRatio) * 10 ^ 9 < 2 ^ 63

omit [FloatData] in
/-- The jitter moves a delay by no more than its ratio. -/
theorem jitter_bounds {delay cap ratio draw : Rat} (positive : 0 ≤ delay) (capped : delay ≤ cap) (nonneg : 0 ≤ ratio)
    (draws : draw ≤ 1) : max 0 (delay + (-(delay * ratio) + 2 * (delay * ratio) * draw)) ≤ cap * (1 + ratio) := by
  have moved : 0 ≤ delay * ratio := mul_nonneg positive nonneg
  have most : delay * (1 + ratio) ≤ cap * (1 + ratio) := mul_le_mul_of_nonneg_right capped (by linarith)
  apply max_le
  · exact le_trans (mul_nonneg positive (by linarith)) most
  · nlinarith [mul_le_mul_of_nonneg_left draws moved]

theorem retryAfterSeconds_cases {failure : Failure} {asked : PyFloat} (known : retryAfterSeconds failure = some asked) :
    ∃ header, asked = PyFloat.max (.finite 0) header := by
  rw [retryAfterSeconds] at known
  split at known
  next value _ =>
    by_cases absent : value = ""
    · rw [if_pos absent] at known
      cases known
    · rw [if_neg absent, Option.map_eq_some_iff] at known
      obtain ⟨header, _, rfl⟩ := known
      exact ⟨header, rfl⟩
  next => cases known

theorem wait_ok (sleepable : Sleepable policy) {attempt : Nat} (early : attempt ≤ 1024)
    (draw : invocation.draws attempt ≤ 1) (failure : Failure) : wait policy invocation attempt failure = .ok () := by
  have delayed : ∃ seconds, retryDelay policy attempt failure (invocation.draws attempt) = .ok (.finite seconds) ∧
      0 ≤ seconds ∧ seconds ≤ policy.maxDelaySeconds * (1 + max 0 policy.jitterRatio) := by
    have spread : 0 ≤ max 0 policy.jitterRatio := le_max_left ..
    rw [retryDelay]
    cases known : retryAfterSeconds failure with
    | some asked =>
      obtain ⟨header, rfl⟩ := retryAfterSeconds_cases known
      obtain ⟨seconds, same, nonneg, most⟩ := min_retryAfter sleepable.cap header
      exact ⟨seconds, congrArg Except.ok same, nonneg, most.trans (le_mul_of_one_le_right sleepable.cap (by linarith))⟩
    | none =>
      have below : attempt - 1 < 1024 := by omega
      rw [timesPower, if_pos below]
      refine ⟨_, rfl, le_max_left .., ?_⟩
      apply jitter_bounds _ (min_le_left ..) spread draw
      exact le_min sleepable.cap (mul_nonneg sleepable.base (by positivity))
  obtain ⟨seconds, same, nonneg, most⟩ := delayed
  rw [wait, same]
  cases entry : invocation.entry with
  | call => exact timeSleep_ok nonneg (by linarith [sleepable.bounded])
  | asyncCall => rfl

/-- Under an ordinary policy no wait raises. -/
theorem waits_of_sleepable (sleepable : Sleepable policy) (few : policy.maxAttempts ≤ 1025)
    (draws : ∀ attempt, invocation.draws attempt ≤ 1) : Waits policy invocation := by
  intro attempt failure _ more _ _ _
  exact wait_ok sleepable (by omega) (draws attempt) failure

/-! A function that always fails. -/

theorem attempts_step {failure : Failure} (retried : shouldRetry policy failure = true) {attempt : Nat}
    (raises : invocation.outcomes attempt = .error failure) (more : (attempt : Int) < policy.maxAttempts)
    (waited : wait policy invocation attempt failure = .ok ()) (left : Nat) (last : Option Failure) :
    attempts policy invocation (left + 1) attempt last = attempts policy invocation left (attempt + 1) (some failure) := by
  have goes : ¬((!shouldRetry policy failure) = true ∨ policy.maxAttempts ≤ attempt) := by
    rintro (final | ended)
    · rw [retried] at final
      cases final
    · omega
  rw [attempts, raises]
  dsimp only
  rw [if_neg goes, waited]

/-- While the waits raise nothing, a function that always fails is tried again. -/
theorem attempts_relentless {failure : Failure} (retried : shouldRetry policy failure = true)
    (raises : ∀ attempt, invocation.outcomes attempt = .error failure) (rounds left : Nat)
    (more : (rounds : Int) < policy.maxAttempts)
    (waits : ∀ attempt ≤ rounds, wait policy invocation attempt failure = .ok ()) :
    ∃ last, attempts policy invocation (rounds + left) 1 none = attempts policy invocation left (rounds + 1) last := by
  induction rounds generalizing left with
  | zero => exact ⟨none, by rw [Nat.zero_add]⟩
  | succ rounds ih =>
    obtain ⟨last, same⟩ := ih (left + 1) (by omega) (fun attempt early => waits attempt (by omega))
    refine ⟨some failure, ?_⟩
    rw [Nat.add_right_comm, Nat.add_assoc, same]
    exact attempts_step retried (raises _) (by omega) (waits _ le_rfl) left last

end Waiting

section Refinement
variable [FloatData] {Value : Type}

end Refinement

section Demo
attribute [local instance] FloatData.decimal

private def llm : ResiliencePolicy := { name := "llm.chat", maxAttempts := 1, failureThreshold := 1 }

private def callBegun (time : Rat) (outcome : Except Failure String) : Invocation String :=
  ⟨.call, time, time + 1, fun _ => outcome, fun _ => 0⟩

/-- An outage: the second call comes before the circuit has recovered, and the third after it. -/
private def outage : List (Invocation String) :=
  [callBegun 0 (.error ⟨.transport, "timed out"⟩), callBegun 10 (.ok "hello"), callBegun 40 (.ok "hello")]

private def relentless : ResiliencePolicy := { name := "llm.chat", maxAttempts := 1026 }

private def timedOut : Failure := ⟨.transport, "timed out"⟩

private def endless : Invocation String := ⟨.asyncCall, 0, 4096, fun _ => .error timedOut, fun _ => 0⟩

/-- After 1025 attempts the call ends in an error of its own. -/
theorem attempts_endless : ∃ raised, attempts relentless endless (attemptLimit relentless) 1 none = ⟨.broken raised, 1025⟩ := by
  have sleepable : Sleepable relentless := by constructor <;> norm_num [relentless]
  have waits : ∀ attempt ≤ 1024, wait relentless endless attempt timedOut = .ok () := by
    intro attempt early
    exact wait_ok sleepable early zero_le_one timedOut
  have retried : shouldRetry relentless timedOut = true := rfl
  obtain ⟨last, looped⟩ := attempts_relentless retried (fun _ => rfl) 1024 2 (by decide) waits
  have limit : attemptLimit relentless = 1024 + 2 := by decide
  rw [limit, looped]
  exact ⟨_, rfl⟩

end Demo

end SoulClaw.Infra.Breaker
