import SoulClaw.Foundation.Programs
import Mathlib.Logic.Function.Basic

/-! The fixed-window rate limiter: `check` against Redis, with the counters in memory to fall back on. A check
happens at one time, in whole seconds, and each of its Redis commands may fail. -/

namespace SoulClaw.Infra.RateLimit
open Foundation

/-! Redis. -/

/-- What happens to a command that fails: it is not executed, or it is and its reply is lost. -/
inductive Fate where
  | answered
  | lost
  | refused
  deriving DecidableEq, Repr

/-- The value of a key, and the time at which the key is deleted. -/
structure Counter where
  count : Int
  expires : Option Int
  deriving DecidableEq, Repr

abbrev Keyspace := String → Option Counter

/-- Keys are deleted when their time has come. -/
def live (now : Int) (keys : Keyspace) : Keyspace := fun key =>
  (keys key).filter fun counter => counter.expires.all (now < ·)

def incr (key : String) (keys : Keyspace) : Int × Keyspace :=
  let counter := match keys key with
    | some counter => { counter with count := counter.count + 1 }
    | none => { count := 1, expires := none }
  (counter.count, Function.update keys key (some counter))

/-- A time that has come deletes the key at once. -/
def expire (key : String) (now seconds : Int) (keys : Keyspace) : Int × Keyspace :=
  match keys key with
  | none => (0, keys)
  | some counter =>
      if seconds ≤ 0 then (1, Function.update keys key none)
      else (1, Function.update keys key (some { counter with expires := some (now + seconds) }))

def ttl (key : String) (now : Int) (keys : Keyspace) : Int × Keyspace :=
  match keys key with
  | none => (-2, keys)
  | some { expires := none, .. } => (-1, keys)
  | some { expires := some time, .. } => (time - now, keys)

/-- A program that sends commands. -/
abbrev RedisM := Program Keyspace

def unavailable : PyException := ⟨.osError, "Error while reading from socket"⟩

def command (fate : Fate) (execute : Keyspace → Int × Keyspace) : RedisM Int :=
  ExceptT.mk fun keys =>
    match fate with
    | .answered => (.ok (execute keys).1, (execute keys).2)
    | .lost => (.error unavailable, (execute keys).2)
    | .refused => (.error unavailable, keys)

/-! The limiter. -/

structure RateLimitDecision where
  allowed : Bool
  policy : String
  key : String
  limit : Int
  remaining : Int
  retryAfter : Int
  resetAt : Int
  backend : String
  deriving DecidableEq, Repr

structure FixedWindowRateLimiter where
  rateLimitEnabled : Bool := true
  rateLimitMemoryFallback : Bool := true
  /-- There is a Redis client. -/
  redis : Bool := false

/-- The arguments of a call of `check`, its time, and the fates of its commands. -/
structure Check where
  policy : String
  identity : String
  limit : Int
  windowSeconds : Int := 60
  now : Int
  incr : Fate := .answered
  expire : Fate := .answered
  ttl : Fate := .answered
  deriving DecidableEq, Repr

/-- What the limiter keeps, and Redis. -/
structure World where
  keys : Keyspace
  memory : String → Option (Int × Int)
  hitsByPolicy : String → Nat
  blockedByPolicy : String → Nat

def World.initial : World := ⟨fun _ => none, fun _ => none, fun _ => 0, fun _ => 0⟩

/-- `ch.isalnum()`. -/
class AlnumData where
  isAlnum : Char → Bool
  isAlnum_ascii : ∀ c, c.toNat < 0x80 → isAlnum c = c.isAlphanum

@[reducible] def AlnumData.ascii : AlnumData := ⟨Char.isAlphanum, fun _ _ => rfl⟩

section Check
variable [AlnumData]

/-- `_safe_identity`. -/
def safeIdentity (identity : String) : String :=
  let identity := if identity = "" then "anonymous" else identity
  String.ofList ((identity.toList.map fun c =>
    if AlnumData.isAlnum c ∨ c ∈ ['_', '.', ':', '-'] then c else '_').take 160)

def Check.key (check : Check) : String := "soulclaw:rl:" ++ check.policy ++ ":" ++ safeIdentity check.identity

/-- `max(1, int(limit or 1))`. -/
def Check.effectiveLimit (check : Check) : Int := max 1 check.limit

/-- The call counts, and the first call under a key sets its expiry. -/
def countCall (check : Check) : RedisM Int := do
  let count ← command check.incr (RateLimit.incr check.key)
  if count = 1 then
    let _ ← command check.expire (RateLimit.expire check.key check.now check.windowSeconds)
  return count

def redisDecision (check : Check) (count ttl : Int) : RateLimitDecision :=
  let ttl := if ttl = 0 then check.windowSeconds else ttl
  let ttl := if ttl < 0 then check.windowSeconds else ttl
  let limit := check.effectiveLimit
  { allowed := count ≤ limit
    policy := check.policy
    key := check.key
    limit
    remaining := max 0 (limit - count)
    retryAfter := if count ≤ limit then 0 else ttl
    resetAt := check.now + ttl
    backend := "redis" }

/-- `_check_redis`. -/
def checkRedis (check : Check) : RedisM RateLimitDecision := do
  let count ← countCall check
  let ttl ← command check.ttl (RateLimit.ttl check.key check.now)
  return redisDecision check count ttl

/-- `_check_memory`. -/
def checkMemory (check : Check) (memory : String → Option (Int × Int)) :
    Except PyException (RateLimitDecision × (String → Option (Int × Int))) :=
  if check.windowSeconds = 0 then .error ⟨.zeroDivisionError, "integer modulo by zero"⟩
  else
    let windowStart := check.now - check.now.fmod check.windowSeconds
    let resetAt := windowStart + check.windowSeconds
    let stored := (memory check.key).getD (0, resetAt)
    let stored := if stored.2 ≤ check.now then (0, resetAt) else stored
    let count := stored.1 + 1
    let limit := check.effectiveLimit
    .ok ({
      allowed := count ≤ limit
      policy := check.policy
      key := check.key
      limit
      remaining := max 0 (limit - count)
      retryAfter := if count ≤ limit then 0 else max 1 (stored.2 - check.now)
      resetAt := stored.2
      backend := "memory" }, Function.update memory check.key (some (count, stored.2)))

/-- `_record`. -/
def World.record (world : World) (decision : RateLimitDecision) : World :=
  { world with
    hitsByPolicy := Function.update world.hitsByPolicy decision.policy (world.hitsByPolicy decision.policy + 1)
    blockedByPolicy :=
      if decision.allowed then world.blockedByPolicy
      else Function.update world.blockedByPolicy decision.policy (world.blockedByPolicy decision.policy + 1) }

/-- The branch that uses the counters in memory. -/
def World.fallBack (world : World) (check : Check) : Except PyException RateLimitDecision × World :=
  match checkMemory check world.memory with
  | .error raised => (.error raised, world)
  | .ok (decision, memory) => (.ok decision, { world with memory }.record decision)

/-- A decision that no counter is asked for. -/
def openDecision (check : Check) (key backend : String) (limit : Int) : RateLimitDecision :=
  ⟨true, check.policy, key, limit, limit, 0, check.now + check.windowSeconds, backend⟩

/-- `check`. -/
def FixedWindowRateLimiter.check (limiter : FixedWindowRateLimiter) (world : World) (check : Check) :
    Except PyException RateLimitDecision × World :=
  if !limiter.rateLimitEnabled then
    (.ok (openDecision check check.identity "disabled" check.limit), world)
  else if limiter.redis then
    match (checkRedis check).exec (live check.now world.keys) with
    | (.ok decision, keys) => (.ok decision, { world with keys }.record decision)
    | (.error _, keys) =>
        if limiter.rateLimitMemoryFallback then { world with keys }.fallBack check
        else
          let decision := openDecision check check.key "redis_unavailable_open" check.effectiveLimit
          (.ok decision, { world with keys }.record decision)
  else world.fallBack check

end Check

end SoulClaw.Infra.RateLimit
