import SoulClaw.Infra.Resilience
import SoulClaw.Runtime.Gateway

/-! Outbound messages, and the bookkeeping of a gateway over whole runs. A turn or a delivery that raises
is counted in the row of its gateway, but the session that holds the row is rolled back by the same
exception. -/

namespace SoulClaw.Runtime.Deliveries
open Foundation Gateway Infra.Resilience
open ResumeTurn (orText)

structure OutboundGatewayMessage where
  gatewayName : String
  targetId : String
  text : String
  metadata : Dict := []
  deriving DecidableEq, Repr

/-- `self.http_policy`. -/
def httpPolicy : ResiliencePolicy where
  name := "gateway.outbound_http"
  maxAttempts := 3
  baseDelaySeconds := 3 / 10
  maxDelaySeconds := 5
  failureThreshold := 5
  recoverySeconds := 45

/-- A message without a key is posted only once. -/
def nonIdempotentPolicy : ResiliencePolicy where
  name := "gateway.outbound_http.non_idempotent"
  maxAttempts := 1
  failureThreshold := httpPolicy.failureThreshold
  recoverySeconds := httpPolicy.recoverySeconds

/-- One request of `post`. -/
structure HttpPost where
  policy : ResiliencePolicy
  url : String
  payload : Dict
  headers : List (String × String)
  deriving DecidableEq, Repr

/-- `resilience.call(policy, post)`: the status code of the response, or what it raises. -/
abbrev HttpClient := HttpPost → Except PyException Int

section Send
variable [CharData] (client : HttpClient)

def OutboundGatewayMessage.idempotencyKey (message : OutboundGatewayMessage) : String :=
  A2A.text ((message.metadata.get "idempotency_key").or (message.metadata.get "message_id"))

def isHttp (url : String) : Bool :=
  "http://".toList.isPrefixOf url.toList || "https://".toList.isPrefixOf url.toList

def localDelivery (gateway : GatewayConnection) (message : OutboundGatewayMessage) : Dict :=
  [("mode", .str "local"), ("gateway", .str gateway.name), ("target_id", .str message.targetId),
    ("text", .str message.text), ("metadata", .obj message.metadata)]

def httpPost (gateway : GatewayConnection) (message : OutboundGatewayMessage) : HttpPost where
  policy := if message.idempotencyKey ≠ "" then httpPolicy else nonIdempotentPolicy
  url := orText message.targetId gateway.endpoint
  payload := [("text", .str message.text), ("metadata", .obj message.metadata), ("gateway", .str gateway.name),
    ("kind", .str gateway.kind)]
  headers := if message.idempotencyKey ≠ "" then [("Idempotency-Key", message.idempotencyKey)] else []

/-- `_deliver`. -/
def deliver (gateway : GatewayConnection) (message : OutboundGatewayMessage) : Except PyException Dict :=
  if gateway.kind = "local" then .ok (localDelivery gateway message)
  else if gateway.kind = "webhook" ∨ gateway.kind = "slack" then
    let post := httpPost gateway message
    if !isHttp post.url then
      .error ⟨.valueError, "webhook/slack gateway requires an http target_id or endpoint"⟩
    else
      match client post with
      | .error error => .error error
      | .ok statusCode =>
          .ok [("mode", .str "http_post"), ("status_code", .int statusCode),
            ("idempotency_key", .str message.idempotencyKey)]
  else
    .error ⟨.runtimeError,
      "gateway kind '" ++ gateway.kind ++ "' is configured but no outbound adapter is active"⟩

/-- What a failure leaves in the row of its gateway. -/
def failed (gateway : GatewayConnection) (error : PyException) : GatewayConnection :=
  { gateway with
    failureCount := gateway.failureCount + 1
    lastError := error.str
    status := "failed" }

/-- `send`: the outcome, and the row that the session holds at its end. -/
def send (gateway : Option GatewayConnection) (now : Rat) (message : OutboundGatewayMessage) :
    Except PyException Dict × Option GatewayConnection :=
  match requireGateway gateway message.gatewayName with
  | .error error => (.error error, gateway)
  | .ok gateway =>
      match deliver client gateway message with
      | .error error => (.error error, some (failed gateway error))
      | .ok delivery =>
          (.ok delivery,
            some { gateway with
              lastOutboundAt := some now
              outboundCount := gateway.outboundCount + 1
              lastError := ""
              status := "online" })

end Send

/-! Runs of one gateway. -/

inductive Operation where
  | handleInbound (now : Rat) (message : InboundGatewayMessage)
      (runTurn : String → String → Except PyException TurnReply)
  | send (now : Rat) (message : OutboundGatewayMessage) (client : HttpClient)

section Runs
variable [CharData] [TimestampData] (manager : GatewayRuntimeManager)
  (hmacSha256 : String → String → String)

/-- The row that an operation leaves in the database. -/
def commit (row : Option GatewayConnection) : Operation → Option GatewayConnection
  | .handleInbound now message runTurn =>
      sessionScope row (handleInbound manager hmacSha256 runTurn row now message)
  | .send now message client => sessionScope row (send client row now message)

/-- What the turn of a verified message, or the delivery of a message, raises. -/
def raised (row : Option GatewayConnection) : Operation → Option PyException
  | .handleInbound now message runTurn =>
      match verified manager hmacSha256 row now message with
      | .error _ => none
      | .ok gateway =>
          match runTurn message.text (sessionId gateway.name message.channelId message.externalUserId) with
          | .error error => some error
          | .ok _ => none
  | .send _ message client =>
      match requireGateway row message.gatewayName with
      | .error _ => none
      | .ok gateway =>
          match deliver client gateway message with
          | .error error => some error
          | .ok _ => none

/-- The row after a run. -/
def committed (row : Option GatewayConnection) (operations : List Operation) : Option GatewayConnection :=
  operations.foldl (commit manager hmacSha256) row

/-- How many turns and deliveries of a run raise. -/
def failures : Option GatewayConnection → List Operation → Nat
  | _, [] => 0
  | row, operation :: rest =>
      (if (raised manager hmacSha256 row operation).isSome then 1 else 0) +
        failures (commit manager hmacSha256 row operation) rest

def failureCount (row : Option GatewayConnection) : Nat := (row.map GatewayConnection.failureCount).getD 0

/-- The row shows the failure. -/
def Describes (row : Option GatewayConnection) (error : PyException) : Prop :=
  ∃ gateway ∈ row, gateway.lastError = error.str ∧ gateway.status = "failed"

/-- The run goes through an operation. -/
def Passes (operations done : List Operation) (operation : Operation) : Prop :=
  done ++ [operation] <+: operations

/-- The failures of a run are counted, and the row describes each of them until the next operation. -/
structure Recorded (row : Option GatewayConnection) (operations : List Operation) : Prop where
  counted : failureCount (committed manager hmacSha256 row operations) =
    failureCount row + failures manager hmacSha256 row operations
  described : ∀ done operation, Passes operations done operation → ∀ error,
    raised manager hmacSha256 (committed manager hmacSha256 row done) operation = some error →
      Describes (committed manager hmacSha256 row (done ++ [operation])) error

variable {manager hmacSha256}

/-- What an operation that raises has written is rolled back with it. -/
theorem commit_of_raised {row : Option GatewayConnection} {operation : Operation} {error : PyException}
    (fails : raised manager hmacSha256 row operation = some error) :
    commit manager hmacSha256 row operation = row := by
  cases operation with
  | handleInbound now message runTurn =>
    rw [raised] at fails
    rw [commit, handleInbound]
    cases started : verified manager hmacSha256 row now message with
    | error error => rfl
    | ok gateway =>
      rw [started] at fails
      dsimp only at fails ⊢
      cases answered : runTurn message.text
          (sessionId gateway.name message.channelId message.externalUserId) with
      | error error => rfl
      | ok reply =>
        rw [answered] at fails
        cases fails
  | send now message client =>
    rw [raised] at fails
    rw [commit, send]
    cases found : requireGateway row message.gatewayName with
    | error error => rfl
    | ok gateway =>
      rw [found] at fails
      dsimp only at fails ⊢
      cases delivered : deliver client gateway message with
      | error error => rfl
      | ok delivery =>
        rw [delivered] at fails
        cases fails

omit [CharData] [TimestampData] in
theorem requireGateway_ok {gateway : Option GatewayConnection} {name : String} {row : GatewayConnection}
    (found : requireGateway gateway name = .ok row) : gateway = some row := by
  cases gateway with
  | none => cases found
  | some known =>
    rw [requireGateway] at found
    by_cases enabled : known.enabled = true
    · rw [if_pos enabled] at found
      rw [Except.ok.inj found]
    · rw [if_neg enabled] at found
      cases found

/-- No operation ever changes the committed count. -/
theorem failureCount_commit (row : Option GatewayConnection) (operation : Operation) :
    failureCount (commit manager hmacSha256 row operation) = failureCount row := by
  cases operation with
  | handleInbound now message runTurn =>
    rw [commit, handleInbound]
    cases started : verified manager hmacSha256 row now message with
    | error error => rfl
    | ok gateway =>
      obtain ⟨known, rfl, _, same⟩ := verified_config started
      dsimp only
      cases answered : runTurn message.text
          (sessionId gateway.name message.channelId message.externalUserId) with
      | error error => rfl
      | ok reply =>
        rw [same]
        rfl
  | send now message client =>
    rw [commit, send]
    cases found : requireGateway row message.gatewayName with
    | error error => rfl
    | ok gateway =>
      obtain rfl := requireGateway_ok found
      dsimp only
      cases delivered : deliver client gateway message with
      | error error => rfl
      | ok delivery => rfl

theorem failureCount_committed (row : Option GatewayConnection) (operations : List Operation) :
    failureCount (committed manager hmacSha256 row operations) = failureCount row := by
  induction operations generalizing row with
  | nil => rfl
  | cons operation rest ih => exact (ih _).trans (failureCount_commit row operation)

omit [CharData] [TimestampData] in
theorem passes_cons {first : Operation} {rest done : List Operation} {operation : Operation} :
    Passes (first :: rest) done operation ↔
      (done = [] ∧ operation = first) ∨ ∃ later, done = first :: later ∧ Passes rest later operation := by
  unfold Passes
  cases done with
  | nil => simp
  | cons head later =>
    simp only [List.cons_append, List.cons_prefix_cons, reduceCtorEq, false_and, List.cons.injEq, false_or]
    constructor
    · rintro ⟨rfl, passed⟩
      exact ⟨later, ⟨rfl, rfl⟩, passed⟩
    · rintro ⟨_, ⟨rfl, rfl⟩, passed⟩
      exact ⟨rfl, passed⟩

/-- No operation raises at its place in the run. -/
def Undisturbed (manager : GatewayRuntimeManager) (hmacSha256 : String → String → String)
    (row : Option GatewayConnection) (operations : List Operation) : Prop :=
  ∀ done operation, Passes operations done operation →
    raised manager hmacSha256 (committed manager hmacSha256 row done) operation = none

theorem undisturbed_cons {row : Option GatewayConnection} {first : Operation} {rest : List Operation} :
    Undisturbed manager hmacSha256 row (first :: rest) ↔
      raised manager hmacSha256 row first = none ∧
        Undisturbed manager hmacSha256 (commit manager hmacSha256 row first) rest := by
  constructor
  · intro quiet
    refine ⟨quiet [] first (passes_cons.2 (.inl ⟨rfl, rfl⟩)), fun done operation passed => ?_⟩
    exact quiet (first :: done) operation (passes_cons.2 (.inr ⟨done, rfl, passed⟩))
  · rintro ⟨starts, later⟩ done operation passed
    rcases passes_cons.1 passed with ⟨rfl, rfl⟩ | ⟨others, rfl, inside⟩
    · exact starts
    · exact later others operation inside

theorem failures_eq_zero_iff (row : Option GatewayConnection) (operations : List Operation) :
    failures manager hmacSha256 row operations = 0 ↔ Undisturbed manager hmacSha256 row operations := by
  induction operations generalizing row with
  | nil =>
    refine iff_of_true rfl fun done operation passed => ?_
    exact absurd (List.prefix_nil.1 passed) (List.append_ne_nil_of_right_ne_nil _ (List.cons_ne_nil operation []))
  | cons operation rest ih =>
    rw [undisturbed_cons, ← ih, failures]
    cases raised manager hmacSha256 row operation with
    | none => simp
    | some error => simp

/-- The failures of a run are recorded exactly when there are none. -/
theorem recorded_iff (manager : GatewayRuntimeManager) (hmacSha256 : String → String → String)
    (row : Option GatewayConnection) (operations : List Operation) :
    Recorded manager hmacSha256 row operations ↔ Undisturbed manager hmacSha256 row operations := by
  constructor
  · intro recorded
    have counted := recorded.counted
    rw [failureCount_committed] at counted
    exact (failures_eq_zero_iff row operations).1 (Nat.left_eq_add.1 counted)
  · intro quiet
    refine ⟨?_, fun done operation passed error fails => ?_⟩
    · rw [failureCount_committed, (failures_eq_zero_iff row operations).2 quiet, Nat.add_zero]
    · rw [quiet done operation passed] at fails
      cases fails

end Runs

section Unrecorded
attribute [local instance] CharData.ascii TimestampData.decimal

def slackGateway : GatewayConnection where
  name := "slack"
  kind := "slack"
  endpoint := "https://hooks.example/T1"
  enabled := true

def refusedRun : List Operation :=
  [.send 10 { gatewayName := "slack", targetId := "", text := "hello" } fun _ =>
      .error ⟨.runtimeError, "503 Service Unavailable"⟩,
    .handleInbound 20 { gatewayName := "slack", text := "hello" } fun _ _ => .error ⟨.runtimeError, "no answer"⟩]

/-- A delivery and a turn raise, and the row of the gateway still counts none and describes none. -/
theorem failures_rolled_back :
    failures {} (fun _ text => text) (some slackGateway) refusedRun = 2 ∧
    committed {} (fun _ text => text) (some slackGateway) refusedRun = some slackGateway ∧
    ¬Recorded {} (fun _ text => text) (some slackGateway) refusedRun := by
  have fails : failures {} (fun _ text => text) (some slackGateway) refusedRun = 2 := by decide +kernel
  have kept : committed {} (fun _ text => text) (some slackGateway) refusedRun = some slackGateway := by
    decide +kernel
  refine ⟨fails, kept, fun recorded => ?_⟩
  have counted := recorded.counted
  rw [fails, kept] at counted
  exact absurd counted (by decide)

end Unrecorded

end SoulClaw.Runtime.Deliveries
