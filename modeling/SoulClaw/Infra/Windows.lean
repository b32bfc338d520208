import SoulClaw.Infra.RateLimit
import Mathlib.Data.List.Pairwise
import Mathlib.Algebra.Order.Group.Int

/-! The limiter without Redis counts exactly: in each aligned window the first calls on a key are allowed, as
many as the limit says, whatever happens on other keys. -/

namespace SoulClaw.Infra.Windows
open Foundation RateLimit

/-! Aligned windows. -/

section Aligned
variable {width time other : Int} (positive : 0 < width)
include positive

theorem start_eq (time : Int) : time - time.fmod width = time / width * width := by
  have split := Int.mul_ediv_add_emod time width
  rw [Int.fmod_eq_emod_of_nonneg time positive.le, mul_comm]
  omega

theorem start_le (time : Int) : time / width * width ≤ time := Int.ediv_mul_le time positive.ne'

theorem lt_end (time : Int) : time < (time / width + 1) * width := by
  exact Int.lt_ediv_add_one_mul_self time positive

/-- A later time before the end of a window is in the window. -/
theorem same_window (later : time ≤ other) (before : other < (time / width + 1) * width) :
    other / width = time / width := by
  apply le_antisymm
  · exact Int.lt_add_one_iff.1 (Int.ediv_lt_of_lt_mul positive before)
  · exact Int.ediv_le_ediv positive later

/-- A time from the end of a window on is in a later one. -/
theorem later_window (after : (time / width + 1) * width ≤ other) : time / width + 1 ≤ other / width :=
  (Int.le_ediv_iff_mul_le positive).2 after

end Aligned

section Counts
variable [AlnumData]

/-- The number `k` of the window `[k * w, (k + 1) * w)` of a call. -/
def windowOf (check : Check) : Int := check.now / check.windowSeconds

def windowEnd (check : Check) : Int := (windowOf check + 1) * check.windowSeconds

/-- A call on the same key, in the same window. -/
def InWindow (check other : Check) : Prop :=
  other.key = check.key ∧ windowOf check * check.windowSeconds ≤ other.now ∧ other.now < windowEnd check

instance (check other : Check) : Decidable (InWindow check other) := by
  unfold InWindow
  infer_instance

def callsInWindow (calls : List Check) (check : Check) : Nat := (calls.filter (InWindow check)).length

/-- What a counter of the calls in the window decides. -/
def exactDecision (earlier : List Check) (check : Check) : RateLimitDecision where
  allowed := callsInWindow earlier check < check.effectiveLimit
  policy := check.policy
  key := check.key
  limit := check.effectiveLimit
  remaining := max 0 (check.effectiveLimit - (callsInWindow earlier check + 1))
  retryAfter := if callsInWindow earlier check < check.effectiveLimit then 0 else windowEnd check - check.now
  resetAt := windowEnd check
  backend := "memory"

/-- The decisions of a list of calls, after some others. -/
def exactDecisions (earlier : List Check) : List Check → List RateLimitDecision
  | [] => []
  | check :: rest => exactDecision earlier check :: exactDecisions (earlier ++ [check]) rest

/-- The clock does not go back, and each key has its own window and limit. -/
structure Steady (checks : List Check) : Prop where
  clock : checks.Pairwise fun first second => first.now ≤ second.now
  window : ∀ check ∈ checks, 1 ≤ check.windowSeconds
  uniform : ∀ first ∈ checks, ∀ second ∈ checks, first.key = second.key →
    first.windowSeconds = second.windowSeconds ∧ first.effectiveLimit = second.effectiveLimit

/-- The counter of a key is that of the window of its last call. -/
structure Counted (earlier : List Check) (key : String) (counter : Int × Int) (last : Check) : Prop where
  listed : last ∈ earlier
  named : last.key = key
  latest : ∀ other ∈ earlier, other.key = key → other.now ≤ last.now
  count : counter.1 = callsInWindow earlier last
  reset : counter.2 = windowEnd last

def Tracks (memory : String → Option (Int × Int)) (earlier : List Check) : Prop :=
  ∀ key, match memory key with
    | none => ∀ other ∈ earlier, other.key ≠ key
    | some counter => ∃ last, Counted earlier key counter last

variable {earlier rest : List Check} {check other : Check} {memory : String → Option (Int × Int)}

theorem callsInWindow_append (calls : List Check) (check other : Check) :
    callsInWindow (calls ++ [other]) check = callsInWindow calls check + if InWindow check other then 1 else 0 := by
  rw [callsInWindow, callsInWindow, List.filter_append, List.length_append]
  by_cases inside : InWindow check other
  · rw [if_pos inside, List.filter_cons_of_pos (by simpa using inside)]
    rfl
  · rw [if_neg inside, List.filter_cons_of_neg (by simpa using inside)]
    rfl

theorem callsInWindow_eq_zero (none : ∀ other ∈ earlier, ¬InWindow check other) : callsInWindow earlier check = 0 := by
  rw [callsInWindow, List.length_eq_zero_iff, List.filter_eq_nil_iff]
  intro other listed inside
  exact none other listed (of_decide_eq_true inside)

theorem inWindow_self (positive : 1 ≤ check.windowSeconds) : InWindow check check :=
  ⟨rfl, start_le (by omega) _, lt_end (by omega) _⟩

/-- Calls on one key in one window count the same calls. -/
theorem callsInWindow_congr (key : check.key = other.key) (width : check.windowSeconds = other.windowSeconds)
    (window : windowOf check = windowOf other) (calls : List Check) :
    callsInWindow calls check = callsInWindow calls other := by
  have same : InWindow check = InWindow other := by
    funext call
    rw [InWindow, InWindow, windowEnd, windowEnd, key, width, window]
  simp only [callsInWindow, same]

/-- The code's counter is the number of calls in the window. -/
theorem checkMemory_exact (steady : Steady (earlier ++ [check])) (tracks : Tracks memory earlier) :
    checkMemory check memory = .ok (exactDecision earlier check,
      Function.update memory check.key (some ((callsInWindow earlier check : Int) + 1, windowEnd check))) := by
  have positive : 1 ≤ check.windowSeconds := steady.window check (by simp)
  have reset : check.now - check.now.fmod check.windowSeconds + check.windowSeconds = windowEnd check := by
    rw [start_eq (by omega), windowEnd, windowOf, Int.add_mul, Int.one_mul]
  have ahead : check.now < windowEnd check := lt_end (by omega) _
  -- The counter that the code goes on with is the one of the window of this call.
  have stored : (if ((memory check.key).getD (0, windowEnd check)).2 ≤ check.now then ((0 : Int), windowEnd check)
      else (memory check.key).getD (0, windowEnd check)) = ((callsInWindow earlier check : Int), windowEnd check) := by
    have known := tracks check.key
    cases found : memory check.key with
    | none =>
      rw [found] at known
      have nothing : callsInWindow earlier check = 0 :=
        callsInWindow_eq_zero fun other listed inside => known other listed inside.1
      rw [Option.getD_none, if_neg (by simpa using ahead), nothing]
      rfl
    | some counter =>
      rw [found] at known
      obtain ⟨last, counted⟩ := known
      have member : last ∈ earlier ++ [check] := List.mem_append_left _ counted.listed
      have width := (steady.uniform last member check (by simp) counted.named).1
      have order : last.now ≤ check.now :=
        (List.pairwise_append.1 steady.clock).2.2 last counted.listed check (List.mem_singleton_self check)
      rw [Option.getD_some, counted.reset]
      by_cases elapsed : windowEnd last ≤ check.now
      · have nothing : callsInWindow earlier check = 0 := by
          apply callsInWindow_eq_zero
          intro other listed inside
          have before := counted.latest other listed inside.1
          have last_before : last.now < windowEnd last := lt_end (by omega) _
          have number : windowOf last + 1 ≤ windowOf check := by
            rw [windowOf, windowOf, ← width]
            exact later_window (by omega) elapsed
          have later : windowEnd last ≤ windowOf check * check.windowSeconds := by
            rw [windowEnd, ← width]
            exact Int.mul_le_mul_of_nonneg_right number (by omega)
          have start := inside.2.1
          omega
        rw [if_pos elapsed, nothing]
        rfl
      · have window : windowOf check = windowOf last := by
          rw [windowOf, windowOf, ← width]
          exact same_window (by omega) order (not_le.1 elapsed)
        have same := callsInWindow_congr counted.named.symm width.symm window earlier
        rw [if_neg elapsed, same, ← counted.count, windowEnd, window, ← width]
        exact Prod.ext rfl counted.reset
  rw [checkMemory, if_neg (by omega)]
  dsimp only
  have wait : max 1 (windowEnd check - check.now) = windowEnd check - check.now := max_eq_right (by omega)
  rw [reset, stored, exactDecision]
  dsimp only
  rw [wait]
  rfl

theorem tracks_append (steady : Steady (earlier ++ [check])) (tracks : Tracks memory earlier) :
    Tracks (Function.update memory check.key (some ((callsInWindow earlier check : Int) + 1, windowEnd check)))
      (earlier ++ [check]) := by
  have positive : 1 ≤ check.windowSeconds := steady.window check (by simp)
  intro key
  by_cases own : key = check.key
  · rw [own, Function.update_self]
    refine ⟨check, by simp, rfl, ?_, ?_, rfl⟩
    · intro other listed _
      rcases List.mem_append.1 listed with old | new
      · exact (List.pairwise_append.1 steady.clock).2.2 other old check (List.mem_singleton_self check)
      · rw [List.mem_singleton.1 new]
    · rw [callsInWindow_append, if_pos (inWindow_self positive)]
      rfl
  · have known := tracks key
    rw [Function.update_of_ne own]
    cases found : memory key with
    | none =>
      rw [found] at known
      intro other listed
      rcases List.mem_append.1 listed with old | new
      · exact known other old
      · rw [List.mem_singleton.1 new]
        exact fun same => own same.symm
    | some counter =>
      rw [found] at known
      obtain ⟨last, counted⟩ := known
      refine ⟨last, List.mem_append_left _ counted.listed, counted.named, ?_, ?_, counted.reset⟩
      · intro other listed same
        rcases List.mem_append.1 listed with old | new
        · exact counted.latest other old same
        · rw [List.mem_singleton.1 new] at same
          exact absurd same.symm own
      · have apart : ¬InWindow last check := fun inside => own (counted.named.symm.trans inside.1.symm)
        rw [callsInWindow_append, if_neg apart]
        exact counted.count

/-! Runs. -/

/-- The decisions of a list of calls, one after the other. -/
def decisions (limiter : FixedWindowRateLimiter) : World → List Check → List (Except PyException RateLimitDecision)
  | _, [] => []
  | world, check :: rest =>
      (limiter.check world check).1 :: decisions limiter (limiter.check world check).2 rest

variable {limiter : FixedWindowRateLimiter} {world : World}

theorem decisions_eq (enabled : limiter.rateLimitEnabled = true) (alone : limiter.redis = false)
    (steady : Steady (earlier ++ rest)) (tracks : Tracks world.memory earlier) :
    decisions limiter world rest = (exactDecisions earlier rest).map .ok := by
  induction rest generalizing earlier world with
  | nil => rfl
  | cons check rest ih =>
    have whole : earlier ++ check :: rest = earlier ++ [check] ++ rest := by simp
    rw [whole] at steady
    have before : Steady (earlier ++ [check]) := by
      refine ⟨(List.pairwise_append.1 steady.clock).1, ?_, ?_⟩
      · exact fun other listed => steady.window other (List.mem_append_left rest listed)
      · intro first listed second listed'
        exact steady.uniform first (List.mem_append_left rest listed) second (List.mem_append_left rest listed')
    have checked : limiter.check world check = world.fallBack check := by
      rw [FixedWindowRateLimiter.check, enabled, alone]
      rfl
    rw [decisions, checked, World.fallBack, checkMemory_exact before tracks, exactDecisions, List.map_cons]
    congr 1
    exact ih steady (tracks_append before tracks)

theorem exactDecisions_append (earlier front back : List Check) :
    exactDecisions earlier (front ++ back) = exactDecisions earlier front ++ exactDecisions (earlier ++ front) back := by
  induction front generalizing earlier with
  | nil =>
    rw [List.append_nil]
    rfl
  | cons first front ih =>
    rw [List.cons_append, exactDecisions, exactDecisions, ih, List.append_assoc, List.singleton_append, List.cons_append]

theorem length_exactDecisions (earlier calls : List Check) : (exactDecisions earlier calls).length = calls.length := by
  induction calls generalizing earlier with
  | nil => rfl
  | cons first rest ih => rw [exactDecisions, List.length_cons, List.length_cons, ih]

theorem decisions_initial (enabled : limiter.rateLimitEnabled = true) (alone : limiter.redis = false)
    {calls : List Check} (steady : Steady calls) :
    decisions limiter .initial calls = (exactDecisions [] calls).map .ok :=
  decisions_eq enabled alone steady fun _ _ listed => absurd listed List.not_mem_nil

/-- The decision of a call in a run. -/
theorem decision_at (enabled : limiter.rateLimitEnabled = true) (alone : limiter.redis = false)
    {front back : List Check} (steady : Steady (front ++ check :: back)) :
    (decisions limiter .initial (front ++ check :: back))[front.length]? = some (.ok (exactDecision front check)) := by
  rw [decisions_initial enabled alone steady, exactDecisions_append, List.getElem?_map,
    List.getElem?_append_right (length_exactDecisions [] front).le, length_exactDecisions, Nat.sub_self]
  rfl

theorem Steady.sublist {calls others : List Check} (steady : Steady calls) (part : others.Sublist calls) :
    Steady others where
  clock := steady.clock.sublist part
  window check listed := steady.window check (part.subset listed)
  uniform first listed second listed' := steady.uniform first (part.subset listed) second (part.subset listed')

/-- Only the calls on its own key count for a call. -/
theorem exactDecision_own (earlier : List Check) (check : Check) :
    exactDecision (earlier.filter fun other => other.key = check.key) check = exactDecision earlier check := by
  have count : callsInWindow (earlier.filter fun other => other.key = check.key) check = callsInWindow earlier check := by
    rw [callsInWindow, callsInWindow, List.filter_filter]
    congr 1
    apply List.filter_congr
    intro other _
    have own : InWindow check other → other.key = check.key := fun inside => inside.1
    by_cases inside : InWindow check other
    · simp [inside, own inside]
    · simp [inside]
  rw [exactDecision, exactDecision, count]

/-- From the end of a window on, no call before it counts. -/
theorem callsInWindow_after {between : List Check} {retried : Check} (positive : 1 ≤ check.windowSeconds)
    (width : retried.windowSeconds = check.windowSeconds) (before : ∀ other ∈ earlier, other.now ≤ check.now)
    (apart : ∀ other ∈ between, other.key ≠ retried.key) (elapsed : windowEnd check ≤ retried.now) :
    callsInWindow (earlier ++ check :: between) retried = 0 := by
  apply callsInWindow_eq_zero
  intro other listed inside
  have ahead : check.now < windowEnd check := lt_end (by omega) _
  have number : windowOf check + 1 ≤ windowOf retried := by
    rw [windowOf, windowOf, width]
    exact later_window (by omega) elapsed
  have later : windowEnd check ≤ windowOf retried * retried.windowSeconds := by
    rw [windowEnd, width]
    exact Int.mul_le_mul_of_nonneg_right number (by omega)
  have start := inside.2.1
  rcases List.mem_append.1 listed with old | new
  · have order := before other old
    omega
  · rcases List.mem_cons.1 new with rfl | new
    · omega
    · exact apart other new inside.1

/-- What a counter of the calls on one key in one aligned window says of a call. -/
structure Exact (limiter : FixedWindowRateLimiter) (earlier : List Check) (check : Check) (later : List Check)
    (decision : RateLimitDecision) : Prop where
  allowed : decision.allowed = true ↔ callsInWindow earlier check < check.effectiveLimit
  remaining : decision.remaining = max 0 (check.effectiveLimit - (callsInWindow earlier check + 1))
  retry : decision.allowed = false → 1 ≤ decision.retryAfter ∧ check.now + decision.retryAfter = windowEnd check
  again : decision.allowed = false → ∀ between retried rest, later = between ++ retried :: rest →
    (∀ other ∈ between, other.key ≠ check.key) → retried.key = check.key →
    retried.now = check.now + decision.retryAfter →
    ∃ next, (decisions limiter .initial (earlier ++ check :: later))[(earlier ++ check :: between).length]? =
      some (.ok next) ∧ next.allowed = true
  alone : (decisions limiter .initial ((earlier.filter fun other => other.key = check.key) ++ [check])).getLast? =
    some (.ok decision)

/-- Without Redis, the limiter counts the calls on each key in each aligned window exactly. -/
theorem exact_windows (enabled : limiter.rateLimitEnabled = true) (alone : limiter.redis = false)
    {earlier later : List Check} {check : Check} (steady : Steady (earlier ++ check :: later)) :
    ∃ decision, (decisions limiter .initial (earlier ++ check :: later))[earlier.length]? = some (.ok decision) ∧
      Exact limiter earlier check later decision := by
  have positive : 1 ≤ check.windowSeconds := steady.window check (by simp)
  have ahead : check.now < windowEnd check := lt_end (by omega) _
  have blocked : (exactDecision earlier check).allowed = false →
      (exactDecision earlier check).retryAfter = windowEnd check - check.now := by
    intro refused
    exact if_neg (of_decide_eq_false refused)
  refine ⟨exactDecision earlier check, decision_at enabled alone steady, ?_, rfl, ?_, ?_, ?_⟩
  · exact decide_eq_true_iff
  · intro refused
    rw [blocked refused]
    omega
  · rintro refused between retried rest rfl apart named time
    have whole : earlier ++ check :: (between ++ retried :: rest) = earlier ++ check :: between ++ retried :: rest := by
      simp
    rw [whole] at steady ⊢
    refine ⟨_, decision_at enabled alone steady, ?_⟩
    have uniform := steady.uniform retried (by simp) check (by simp) named
    have before : ∀ other ∈ earlier, other.now ≤ check.now := by
      intro other old
      have order := (List.pairwise_append.1 (List.pairwise_append.1 steady.clock).1).2.2
      exact order other old check List.mem_cons_self
    rw [blocked refused] at time
    have none := callsInWindow_after positive uniform.1 before (fun other listed => named ▸ apart other listed)
      (show windowEnd check ≤ retried.now by omega)
    have limit : 1 ≤ retried.effectiveLimit := le_max_left _ _
    show decide (_ < _) = true
    rw [none]
    exact decide_eq_true (by omega)
  · have part : ((earlier.filter fun other => other.key = check.key) ++ [check]).Sublist (earlier ++ check :: later) :=
      List.Sublist.append List.filter_sublist (List.singleton_sublist.2 List.mem_cons_self)
    rw [decisions_initial enabled alone (steady.sublist part), exactDecisions_append, List.map_append,
      ← exactDecision_own earlier check]
    exact List.getLast?_concat

end Counts

section Demo
attribute [local instance] AlnumData.ascii

/-- A call with a limit of one in each minute. -/
private def callAt (identity : String) (now : Int) : Check := { policy := "turn", identity, limit := 1, now }

theorem exact_windows_turns : ∃ decision,
    (decisions { redis := false } .initial ([callAt "a" 58, callAt "b" 59] ++ callAt "a" 59 :: [callAt "a" 60]))[2]? =
      some (.ok decision) ∧
      Exact { redis := false } [callAt "a" 58, callAt "b" 59] (callAt "a" 59) [callAt "a" 60] decision := by
  have steady : Steady ([callAt "a" 58, callAt "b" 59] ++ callAt "a" 59 :: [callAt "a" 60]) := by
    constructor <;> decide +kernel
  exact exact_windows rfl rfl steady

end Demo

end SoulClaw.Infra.Windows
