import SoulClaw.Foundation.Yaml
import Mathlib.Algebra.Order.Field.Rat
import Mathlib.Logic.Function.Basic

/-! Retries and the circuit breaker. Both `call` and `async_call` run one loop and differ in how they wait. -/

namespace SoulClaw.Infra.Resilience
open Foundation

structure ResiliencePolicy where
  name : String
  maxAttempts : Int := 3
  baseDelaySeconds : Rat := 1 / 4
  maxDelaySeconds : Rat := 4
  jitterRatio : Rat := 1 / 5
  failureThreshold : Int := 5
  recoverySeconds : Rat := 30
  retryStatusCodes : List Int := [408, 409, 425, 429, 500, 502, 503, 504]
  deriving DecidableEq, Repr

structure CircuitState where
  failures : Nat := 0
  openedUntil : Option Rat := none
  lastError : String := ""
  deriving DecidableEq, Repr

/-- The classes of exceptions that `should_retry` tells apart. -/
inductive FailureKind where
  | circuitOpen
  /-- A timeout or an error of the network. -/
  | transport
  | httpStatus (code : Int) (retryAfter : Option String)
  | other
  deriving DecidableEq, Repr

/-- An exception that `fn` raises. -/
structure Failure where
  kind : FailureKind
  message : String := ""
  deriving DecidableEq, Repr

def shouldRetry (policy : ResiliencePolicy) (failure : Failure) : Bool :=
  match failure.kind with
  | .circuitOpen => false
  | .transport => true
  | .httpStatus code _ => code ∈ policy.retryStatusCodes
  | .other => false

/-- `float * 2 ** exponent`; a double ends below two to the power of 1024. -/
def timesPower (value : Rat) (exponent : Nat) : Except PyException Rat :=
  if exponent < 1024 then .ok (value * 2 ^ exponent)
  else .error ⟨.overflowError, "int too large to convert to float"⟩

section Delays
variable [FloatData]

/-- `_retry_after_seconds`. -/
def retryAfterSeconds (failure : Failure) : Option PyFloat :=
  match failure.kind with
  | .httpStatus _ (some value) =>
      if value = "" then none else (FloatData.parse value).map (PyFloat.max (.finite 0))
  | _ => none

/-- `retry_delay`; `draw` is what `random.uniform` takes from the unit interval. -/
def retryDelay (policy : ResiliencePolicy) (attempt : Nat) (failure : Failure) (draw : Rat) : Except PyException PyFloat :=
  match retryAfterSeconds failure with
  | some retryAfter => .ok (PyFloat.min (.finite policy.maxDelaySeconds) retryAfter)
  | none => (timesPower policy.baseDelaySeconds (attempt - 1)).map fun delay =>
      let base := min policy.maxDelaySeconds delay
      let jitter := base * max 0 policy.jitterRatio
      .finite (max 0 (base + (-jitter + 2 * jitter * draw)))

/-- `time.sleep`, whose argument is stored in 64 bits as nanoseconds. -/
def timeSleep : PyFloat → Except PyException Unit
  | .finite seconds =>
      if seconds < 0 then .error ⟨.valueError, "sleep length must be non-negative"⟩
      else if seconds * 10 ^ 9 < 2 ^ 63 then .ok ()
      else .error ⟨.overflowError, "timestamp too large to convert to C PyTime_t"⟩
  | .infinite _ => .error ⟨.overflowError, "timestamp too large to convert to C PyTime_t"⟩
  | .nan => .error ⟨.valueError, "Invalid value NaN (not a number)"⟩

/-- `asyncio.sleep`, which takes what is not positive for nothing. -/
def asyncioSleep : PyFloat → Except PyException Unit
  | .nan => .error ⟨.valueError, "Invalid delay: NaN (not a number)"⟩
  | _ => .ok ()

end Delays

/-! Calls. -/

/-- The two entries, which wait each in their own way. -/
inductive Entry where
  | call
  | asyncCall
  deriving DecidableEq, Repr

def Entry.sleep : Entry → PyFloat → Except PyException Unit
  | .call => timeSleep
  | .asyncCall => asyncioSleep

/-- A call, with what `fn` does in each attempt, and the times at which the call starts and ends. -/
structure Invocation (Value : Type) where
  entry : Entry
  start : Rat
  finish : Rat
  outcomes : Nat → Except Failure Value
  draws : Nat → Rat

inductive Ending (Value : Type) where
  | returned (value : Value)
  | raised (failure : Failure)
  | refused (until' : Rat)
  /-- Something else than `fn` raises. -/
  | broken (raised : PyException)
  deriving DecidableEq

/-- How a call ends, and how often it has invoked `fn`. -/
structure Report (Value : Type) where
  ending : Ending Value
  invocations : Nat
  deriving DecidableEq

structure ExternalCall where
  subsystem : String
  operation : String
  status : String
  deriving DecidableEq, Repr

/-- The circuits, and what has been recorded of the calls. -/
structure World where
  states : String → Option CircuitState
  recorded : List ExternalCall

def World.initial : World := ⟨fun _ => none, []⟩

/-- `_record_observability`. -/
def externalCall (policy : ResiliencePolicy) (status : String) : ExternalCall :=
  let subsystem := policy.name.toList.takeWhile (· ≠ '.')
  match policy.name.toList.dropWhile (· ≠ '.') with
  | _ :: operation => ⟨String.ofList subsystem, String.ofList operation, status⟩
  | [] => ⟨policy.name, policy.name, status⟩

def threshold (policy : ResiliencePolicy) : Int := max 1 policy.failureThreshold

def recovery (policy : ResiliencePolicy) : Rat := max 1 policy.recoverySeconds

def attemptLimit (policy : ResiliencePolicy) : Nat := (max 1 policy.maxAttempts).toNat

/-- `_record_failure` at the time `now`. -/
def CircuitState.recordFailure (state : CircuitState) (policy : ResiliencePolicy) (failure : Failure) (now : Rat) :
    CircuitState :=
  let failures := state.failures + 1
  { failures
    lastError := failure.message
    openedUntil := if threshold policy ≤ failures then some (now + recovery policy) else state.openedUntil }

section Call
variable [FloatData] {Value : Type} (policy : ResiliencePolicy)

/-- The wait after an attempt that has failed. -/
def wait (invocation : Invocation Value) (attempt : Nat) (failure : Failure) : Except PyException Unit :=
  (retryDelay policy attempt failure (invocation.draws attempt)).bind invocation.entry.sleep

/-- The loop over the attempts, of which `left` are left. -/
def attempts (invocation : Invocation Value) : (left : Nat) → (attempt : Nat) → (last : Option Failure) → Report Value
  | 0, attempt, some last => ⟨.raised last, attempt - 1⟩
  | 0, attempt, none => ⟨.broken ⟨.runtimeError, "last_exc is not None"⟩, attempt - 1⟩
  | left + 1, attempt, _ =>
      match invocation.outcomes attempt with
      | .ok value => ⟨.returned value, attempt⟩
      | .error failure =>
          if !shouldRetry policy failure ∨ policy.maxAttempts ≤ attempt then ⟨.raised failure, attempt⟩
          else
            match wait policy invocation attempt failure with
            | .error raised => ⟨.broken raised, attempt⟩
            | .ok () => attempts invocation left (attempt + 1) (some failure)

/-- The state of a circuit that lets a call through. -/
def CircuitState.closed (state : CircuitState) : CircuitState := { state with openedUntil := none }

/-- `call` and `async_call`. -/
def call (invocation : Invocation Value) (world : World) : Report Value × World :=
  let state := (world.states policy.name).getD {}
  match state.openedUntil.filter (invocation.start < ·) with
  | some until' =>
      (⟨.refused until', 0⟩,
        { states := Function.update world.states policy.name (some state)
          recorded := world.recorded ++ [externalCall policy "circuit_open"] })
  | none =>
      let report := attempts policy invocation (attemptLimit policy) 1 none
      match report.ending with
      | .returned _ =>
          (report, { states := Function.update world.states policy.name (some {})
                     recorded := world.recorded ++ [externalCall policy "succeeded"] })
      | .raised failure =>
          (report, { states := Function.update world.states policy.name
                       (some (state.closed.recordFailure policy failure invocation.finish))
                     recorded := world.recorded ++ [externalCall policy "failed"] })
      | _ => (report, { world with states := Function.update world.states policy.name (some state.closed) })

end Call

end SoulClaw.Infra.Resilience
