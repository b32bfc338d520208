import SoulClaw.Foundation.Runs
import SoulClaw.Infra.RateLimit

/-! Blocks by the limiter against Redis. A block ends as long as no call makes a counter without an expiry; a
counter that has none stays, and its key is blocked for good. -/

namespace SoulClaw.Infra.Expiry
open Foundation RateLimit

section Blocks
variable [AlnumData] (limiter : FixedWindowRateLimiter)

def step (world : World) (check : Check) : Option World := some (limiter.check world check).2

/-- A call that makes its counter also executes the command that sets the expiry. -/
def Armed (world : World) (check : Check) : Prop :=
  live check.now world.keys check.key = none →
    check.incr = .refused ∨ check.incr = .answered ∧ check.expire ≠ .refused

instance (world : World) (check : Check) : Decidable (Armed world check) := by
  unfold Armed
  infer_instance

def Answered (check : Check) : Prop := check.incr = .answered ∧ check.expire = .answered ∧ check.ttl = .answered

/-- The counter of a key, if there is one, is deleted at the time `due`. -/
def DueBy (keys : Keyspace) (key : String) (due : Int) : Prop :=
  ∀ counter, keys key = some counter → ∃ time ≤ due, counter.expires = some time

def Expiring (keys : Keyspace) : Prop := ∀ key, ∃ due, DueBy keys key due

variable {limiter} {world : World} {check : Check} {keys : Keyspace} {key : String} {due : Int}

omit [AlnumData] in
theorem DueBy.live (known : DueBy keys key due) (now : Int) : DueBy (live now keys) key due :=
  fun counter found => known counter (Option.filter_eq_some_iff.1 found).1

omit [AlnumData] in
/-- A counter is gone when its time has come. -/
theorem DueBy.gone (known : DueBy keys key due) {now : Int} (elapsed : due ≤ now) : RateLimit.live now keys key = none := by
  rw [RateLimit.live, Option.filter_eq_none_iff]
  intro counter found
  obtain ⟨time, early, expires⟩ := known counter found
  rw [expires]
  simp only [Option.all_some, decide_eq_true_eq]
  omega

/-! What the commands of one call leave in Redis. -/

omit [AlnumData] in
theorem expire_other (keys : Keyspace) {other : String} (different : other ≠ key) (now seconds : Int) :
    (expire key now seconds keys).2 other = keys other := by
  rw [expire]
  split
  · rfl
  · split <;> exact Function.update_of_ne different _ _

omit [AlnumData] in
/-- With an expiry, a counter is deleted at once or at a time. -/
theorem expire_due (keys : Keyspace) (key : String) (now seconds : Int) :
    DueBy (expire key now seconds keys).2 key (now + seconds) := by
  intro counter found
  rw [expire] at found
  cases there : keys key with
  | none =>
    rw [there] at found
    exact absurd (there.symm.trans found) (by simp)
  | some old =>
    rw [there] at found
    dsimp only at found
    split at found
    · simp at found
    · simp only [Function.update_self, Option.some.injEq] at found
      exact ⟨_, le_rfl, by rw [← found]⟩

omit [AlnumData] in
theorem incr_other (keys : Keyspace) {other : String} (different : other ≠ key) : (incr key keys).2 other = keys other :=
  Function.update_of_ne different _ _

omit [AlnumData] in
/-- A counter keeps its expiry when it counts. -/
theorem incr_due (known : DueBy keys key due) (exists' : keys key ≠ none) : DueBy (incr key keys).2 key due := by
  intro counter found
  obtain ⟨old, there⟩ := Option.ne_none_iff_exists'.1 exists'
  have counted : { old with count := old.count + 1 } = counter := by
    simpa [incr, there] using found
  rw [← counted]
  exact known old there

omit [AlnumData] in
theorem exec_command (fate : Fate) (execute : Keyspace → Int × Keyspace) (keys : Keyspace) :
    (command fate execute).exec keys =
      match fate with
      | .answered => (.ok (execute keys).1, (execute keys).2)
      | .lost => (.error unavailable, (execute keys).2)
      | .refused => (.error unavailable, keys) := rfl

/-- What counting leaves: the keys of before, or those after the counter or after its expiry. -/
theorem countCall_cases (check : Check) (keys : Keyspace) :
    check.incr = .refused ∧ (countCall check).exec keys = (.error unavailable, keys) ∨
    check.incr = .lost ∧ (countCall check).exec keys = (.error unavailable, (incr check.key keys).2) ∨
    check.incr = .answered ∧ (incr check.key keys).1 ≠ 1 ∧
      (countCall check).exec keys = (.ok (incr check.key keys).1, (incr check.key keys).2) ∨
    check.incr = .answered ∧ (incr check.key keys).1 = 1 ∧ (countCall check).exec keys =
      (if check.expire = .answered then .ok 1 else .error unavailable,
        if check.expire = .refused then (incr check.key keys).2
        else (expire check.key check.now check.windowSeconds (incr check.key keys).2).2) := by
  rw [countCall, Program.exec_bind, exec_command]
  cases check.incr with
  | refused => exact .inl ⟨rfl, rfl⟩
  | lost => exact .inr (.inl ⟨rfl, rfl⟩)
  | answered =>
    right
    right
    dsimp only
    by_cases first : (incr check.key keys).1 = 1
    · right
      rw [if_pos first, Program.exec_bind, exec_command, first]
      refine ⟨rfl, rfl, ?_⟩
      cases check.expire <;> rfl
    · left
      rw [if_neg first]
      exact ⟨rfl, first, rfl⟩

/-- The other keys stay as they are. -/
theorem countCall_other (check : Check) (keys : Keyspace) {other : String} (different : other ≠ check.key) :
    ((countCall check).exec keys).2 other = keys other := by
  have counted := incr_other keys different
  have expired := (expire_other (incr check.key keys).2 different check.now check.windowSeconds).trans counted
  rcases countCall_cases check keys with ⟨_, ran⟩ | ⟨_, ran⟩ | ⟨_, _, ran⟩ | ⟨_, _, ran⟩
  · rw [ran]
  · rw [ran, counted]
  · rw [ran, counted]
  · rw [ran]
    dsimp only
    split
    · exact counted
    · exact expired

/-- The counter of an armed call has an expiry afterwards. -/
theorem countCall_due {check : Check} (known : DueBy keys check.key due)
    (armed : keys check.key = none → check.incr = .refused ∨ check.incr = .answered ∧ check.expire ≠ .refused) :
    ∃ next, DueBy ((countCall check).exec keys).2 check.key next := by
  have expired := expire_due (incr check.key keys).2 check.key check.now check.windowSeconds
  rcases countCall_cases check keys with ⟨_, ran⟩ | ⟨lost, ran⟩ | ⟨_, other, ran⟩ | ⟨executed, _, ran⟩
  · exact ⟨due, by rw [ran]; exact known⟩
  · have exists' : keys check.key ≠ none := by
      intro absent
      rcases armed absent with refused | ⟨answered, _⟩
      · rw [lost] at refused
        cases refused
      · rw [lost] at answered
        cases answered
    exact ⟨due, by rw [ran]; exact incr_due known exists'⟩
  · have exists' : keys check.key ≠ none := fun absent => other (by simp [incr, absent])
    exact ⟨due, by rw [ran]; exact incr_due known exists'⟩
  · rw [ran]
    dsimp only
    split
    next refused =>
      have exists' : keys check.key ≠ none := by
        intro absent
        rcases armed absent with refused' | ⟨_, expires⟩
        · rw [executed] at refused'
          cases refused'
        · exact expires refused
      exact ⟨due, incr_due known exists'⟩
    next => exact ⟨_, expired⟩

omit [AlnumData] in
theorem ttl_keys (key : String) (now : Int) (keys : Keyspace) : (ttl key now keys).2 = keys := by
  rw [ttl]
  split <;> rfl

/-- The rest of a check only reads. -/
theorem checkRedis_exec (check : Check) (keys : Keyspace) :
    (checkRedis check).exec keys =
      match (countCall check).exec keys with
      | (.ok count, last) =>
          if check.ttl = .answered then (.ok (redisDecision check count (ttl check.key check.now last).1), last)
          else (.error unavailable, last)
      | (.error raised, last) => (.error raised, last) := by
  rw [checkRedis, Program.exec_bind]
  cases (countCall check).exec keys with
  | mk outcome last =>
    cases outcome with
    | error raised => rfl
    | ok count =>
      dsimp only
      rw [Program.exec_bind, exec_command]
      cases check.ttl with
      | refused => rfl
      | lost =>
        dsimp only
        rw [ttl_keys]
        rfl
      | answered =>
        dsimp only
        rw [ttl_keys]
        rfl

theorem checkRedis_keys (check : Check) (keys : Keyspace) :
    ((checkRedis check).exec keys).2 = ((countCall check).exec keys).2 := by
  rw [checkRedis_exec]
  cases (countCall check).exec keys with
  | mk outcome last =>
    cases outcome with
    | error raised => rfl
    | ok count =>
      dsimp only
      split <;> rfl

/-! The state of Redis in a run. -/

theorem fallBack_keys (world : World) (check : Check) : (world.fallBack check).2.keys = world.keys := by
  rw [World.fallBack]
  split <;> rfl

/-- A check leaves in Redis what was there, or what counting the call leaves. -/
theorem check_keys (limiter : FixedWindowRateLimiter) (world : World) (check : Check) :
    (limiter.check world check).2.keys = world.keys ∨
      (limiter.check world check).2.keys = ((countCall check).exec (live check.now world.keys)).2 := by
  rw [FixedWindowRateLimiter.check, ← checkRedis_keys]
  split
  · exact .inl rfl
  · split
    · right
      cases (checkRedis check).exec (live check.now world.keys) with
      | mk outcome last =>
        cases outcome with
        | ok decision => rfl
        | error raised =>
          dsimp only
          split
          · exact fallBack_keys _ _
          · rfl
    · exact .inl (fallBack_keys world check)

/-- Armed calls leave no counter without an expiry. -/
theorem check_expiring (expiring : Expiring world.keys) (armed : Armed world check) :
    Expiring (limiter.check world check).2.keys := by
  intro key
  rcases check_keys limiter world check with same | same
  · rw [same]
    exact expiring key
  · rw [same]
    by_cases own : key = check.key
    · subst own
      obtain ⟨due, known⟩ := expiring check.key
      exact countCall_due (known.live check.now) armed
    · obtain ⟨due, known⟩ := expiring key
      refine ⟨due, fun counter found => ?_⟩
      rw [countCall_other check _ own] at found
      exact known.live check.now counter found

/-- A check on another key leaves a counter to its expiry. -/
theorem check_other (known : DueBy world.keys key due) (different : key ≠ check.key) :
    DueBy (limiter.check world check).2.keys key due := by
  rcases check_keys limiter world check with same | same
  · rw [same]
    exact known
  · rw [same]
    intro counter found
    rw [countCall_other check _ different] at found
    exact known.live check.now counter found

theorem fallBack_backend {decision : RateLimitDecision} (decided : (world.fallBack check).1 = .ok decision) :
    decision.backend = "memory" := by
  rw [World.fallBack, checkMemory] at decided
  split at decided
  next => cases decided
  next made =>
    split at made
    · cases made
    · cases decided
      obtain ⟨rfl, _⟩ := Prod.mk.inj (Except.ok.inj made)
      rfl

theorem check_redis (enabled : limiter.rateLimitEnabled = true) (redis : limiter.redis = true) (world : World)
    (check : Check) : limiter.check world check =
      match (checkRedis check).exec (live check.now world.keys) with
      | (.ok decision, keys) => (.ok decision, { world with keys }.record decision)
      | (.error _, keys) =>
          if limiter.rateLimitMemoryFallback then { world with keys }.fallBack check
          else
            let decision := openDecision check check.key "redis_unavailable_open" check.effectiveLimit
            (.ok decision, { world with keys }.record decision) := by
  rw [FixedWindowRateLimiter.check, enabled, redis]
  rfl

/-- A decision by Redis comes from a check that all commands have answered. -/
theorem checkRedis_of_backend {decision : RateLimitDecision} (decided : (limiter.check world check).1 = .ok decision)
    (backend : decision.backend = "redis") : limiter.rateLimitEnabled = true ∧ limiter.redis = true ∧
      (checkRedis check).exec (live check.now world.keys) = (.ok decision, (limiter.check world check).2.keys) := by
  have memory : ∀ other : World, (other.fallBack check).1 ≠ .ok decision := by
    intro other same
    rw [fallBack_backend same] at backend
    exact absurd backend (by decide)
  have opened : ∀ key name limit, name ≠ "redis" → openDecision check key name limit ≠ decision := by
    rintro key name limit different rfl
    exact different backend
  cases enabled : limiter.rateLimitEnabled with
  | false =>
    rw [FixedWindowRateLimiter.check, enabled] at decided
    exact absurd (Except.ok.inj decided) (opened _ _ _ (by decide))
  | true =>
    cases redis : limiter.redis with
    | false =>
      rw [FixedWindowRateLimiter.check, enabled, redis] at decided
      exact absurd decided (memory world)
    | true =>
      rw [check_redis enabled redis] at decided ⊢
      cases ran : (checkRedis check).exec (live check.now world.keys) with
      | mk outcome last =>
        rw [ran] at decided
        cases outcome with
        | ok made =>
          obtain rfl := Except.ok.inj decided
          exact ⟨rfl, rfl, rfl⟩
        | error raised =>
          dsimp only at decided
          split at decided
          · exact absurd decided (memory _)
          · exact absurd (Except.ok.inj decided) (opened _ _ _ (by decide))

/-- A block by Redis tells when the counter of its key is deleted. -/
theorem block_due {decision : RateLimitDecision} (expiring : Expiring world.keys)
    (decided : (limiter.check world check).1 = .ok decision) (blocked : decision.allowed = false)
    (backend : decision.backend = "redis") :
    DueBy (limiter.check world check).2.keys check.key (check.now + decision.retryAfter) := by
  obtain ⟨_, _, ran⟩ := checkRedis_of_backend decided backend
  generalize (limiter.check world check).2.keys = last at ran ⊢
  have limit : 1 ≤ check.effectiveLimit := le_max_left _ _
  rw [checkRedis_exec] at ran
  have counted : ∃ count, (countCall check).exec (live check.now world.keys) = (.ok count, last) ∧
      decision = redisDecision check count (ttl check.key check.now last).1 := by
    split at ran
    next count keys counted =>
      split at ran
      · obtain ⟨made, rfl⟩ := Prod.mk.inj ran
        exact ⟨count, counted, (Except.ok.inj made).symm⟩
      · cases ran
    next => cases ran
  obtain ⟨count, counted, rfl⟩ := counted
  have exceeded : check.effectiveLimit < count := by
    have not := of_decide_eq_false blocked
    omega
  obtain ⟨later, rfl⟩ : (incr check.key (live check.now world.keys)).1 ≠ 1 ∧
      last = (incr check.key (live check.now world.keys)).2 := by
    rcases countCall_cases check (live check.now world.keys) with ⟨_, ran⟩ | ⟨_, ran⟩ | ⟨_, other, ran⟩ | ⟨_, _, ran⟩
    · rw [counted] at ran
      cases ran
    · rw [counted] at ran
      cases ran
    · rw [counted] at ran
      exact ⟨other, (Prod.mk.inj ran).2⟩
    · rw [counted] at ran
      have outcome := (Prod.mk.inj ran).1
      split at outcome
      · have one := Except.ok.inj outcome
        omega
      · cases outcome
  have exists' : live check.now world.keys check.key ≠ none := fun absent => later (by simp [incr, absent])
  obtain ⟨old, there⟩ := Option.ne_none_iff_exists'.1 exists'
  obtain ⟨due, known⟩ := expiring check.key
  obtain ⟨time, _, expires⟩ := known.live check.now old there
  have ahead : check.now < time := by
    have kept := (Option.filter_eq_some_iff.1 there).2
    rw [expires] at kept
    exact of_decide_eq_true kept
  have there' : (incr check.key (live check.now world.keys)).2 check.key =
      some { count := old.count + 1, expires := some time } := by
    simp [incr, there, expires]
  have left : (ttl check.key check.now (incr check.key (live check.now world.keys)).2).1 = time - check.now := by
    rw [ttl, there']
  have wait : (redisDecision check count (time - check.now)).retryAfter = time - check.now := by
    rw [redisDecision]
    dsimp only
    rw [if_neg (show ¬count ≤ check.effectiveLimit by omega), if_neg (show ¬time - check.now = 0 by omega),
      if_neg (show ¬time - check.now < 0 by omega)]
  rw [left, wait]
  intro counter found
  rw [there', Option.some.injEq] at found
  exact ⟨time, by omega, by rw [← found]⟩

/-- With all commands answered, a check of a key without a counter is allowed. -/
theorem check_allowed (enabled : limiter.rateLimitEnabled = true) (redis : limiter.redis = true)
    (answered : Answered check) (gone : live check.now world.keys check.key = none) :
    ∃ decision, (limiter.check world check).1 = .ok decision ∧ decision.allowed = true := by
  have limit : 1 ≤ check.effectiveLimit := le_max_left _ _
  have one : (incr check.key (live check.now world.keys)).1 = 1 := by simp [incr, gone]
  obtain ⟨last, counted⟩ : ∃ last, (countCall check).exec (live check.now world.keys) = (.ok 1, last) := by
    rcases countCall_cases check (live check.now world.keys) with
      ⟨refused, _⟩ | ⟨lost, _⟩ | ⟨_, other, _⟩ | ⟨_, _, ran⟩
    · rw [answered.1] at refused
      cases refused
    · rw [answered.1] at lost
      cases lost
    · exact absurd one other
    · rw [if_pos answered.2.1] at ran
      exact ⟨_, ran⟩
  rw [check_redis enabled redis, checkRedis_exec, counted]
  dsimp only
  rw [if_pos answered.2.2]
  exact ⟨_, rfl, decide_eq_true limit⟩

end Blocks

section Demo
attribute [local instance] AlnumData.ascii

private def withRedis : FixedWindowRateLimiter := { redis := true }

/-- A call with a limit of one in each minute. -/
private def turnAt (now : Int) (expire : Fate) : Check := { policy := "turn", identity := "a", limit := 1, now, expire }

/-- What a call at 20 decides after one at 0. -/
private def second (expire : Fate) : Except PyException RateLimitDecision × World :=
  withRedis.check (withRedis.check .initial (turnAt 0 expire)).2 (turnAt 20 .answered)

/-- The decision at 20 tells that the key is blocked. -/
private def blockedFor (retryAfter : Int) : RateLimitDecision :=
  ⟨false, "turn", "soulclaw:rl:turn:a", 1, 0, retryAfter, 20 + retryAfter, "redis"⟩

end Demo

end SoulClaw.Infra.Expiry
