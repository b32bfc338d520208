import SoulClaw.Runtime.ResumeTurn
import Mathlib.Data.Rat.Defs
import Mathlib.Algebra.Order.Group.Unbundled.Abs
import Mathlib.Algebra.Order.Ring.Rat

/-! The gateway for inbound messages: the signature of a message, the replay window of a public
webhook with its nonce cache, and the turn that a verified message starts. The cache is part
of the configuration of the gateway, and the session of the request commits or rolls back
both. -/

namespace SoulClaw.Runtime.Gateway
open Foundation A2A
open ResumeTurn (orText)

/-- A Python float, as far as a timestamp is concerned. -/
inductive Stamp where
  | finite (seconds : Rat)
  | infinite
  | nan
  deriving DecidableEq

/-- `float(text)`, where it does not raise. -/
class TimestampData where
  parse : String → Option Stamp

/-- Whole seconds. -/
@[reducible] def TimestampData.decimal : TimestampData where
  parse text :=
    if text ≠ "" ∧ text.toList.all Char.isDigit then some (.finite (Nat.ofDigitChars 10 text.toList 0)) else none

/-- `abs(now - ts) <= seconds`; near the clock the difference of two floats is exact. -/
def Stamp.Within (seconds : Int) (now : Rat) : Stamp → Prop
  | .finite value => |now - value| ≤ seconds
  | .infinite => False
  | .nan => False

instance (seconds : Int) (now : Rat) (stamp : Stamp) : Decidable (stamp.Within seconds now) := by
  cases stamp <;> unfold Stamp.Within <;> infer_instance

structure InboundGatewayMessage where
  gatewayName : String
  externalUserId : String := ""
  text : String
  channelId : String := ""
  metadata : Dict := []
  deriving DecidableEq, Repr

structure GatewayConnection where
  name : String
  kind : String
  status : String := "disabled"
  endpoint : String := ""
  config : Dict := []
  enabled : Bool := false
  lastInboundAt : Option Rat := none
  lastOutboundAt : Option Rat := none
  lastError : String := ""
  inboundCount : Nat := 0
  outboundCount : Nat := 0
  failureCount : Nat := 0
  deriving DecidableEq

structure GatewayRuntimeManager where
  webhookMaxSkewSeconds : Int := 300
  webhookNonceCacheSize : Int := 200

/-! The nonce cache. -/

/-- The entries that are dictionaries. -/
def entries (items : List Json) : List Dict :=
  items.filterMap fun item => match item with
    | .obj fields => some fields
    | _ => none

def cachedNonces (config : Dict) : List Dict := entries (config.get "nonce_cache").list

def nonceEntry (timestamp nonce : String) : Dict := [("nonce", .str nonce), ("timestamp", .str timestamp)]

/-- `items[-count:]` with a positive count. -/
def lastItems {α : Type*} (count : Nat) (items : List α) : List α := items.drop (items.length - count)

section Verify
variable [CharData] [TimestampData] (manager : GatewayRuntimeManager)

def cacheSize : Nat := (max 1 manager.webhookNonceCacheSize).toNat

/-- `_record_nonce`. A cache that is no list is read as Python iterates over it. -/
def recordNonce (gateway : GatewayConnection) (timestamp nonce : String) :
    Except PyException GatewayConnection :=
  match ((gateway.config.lookup "nonce_cache").getD (.arr [])).toList with
  | .error error => .error error
  | .ok items =>
      let cache := entries items ++ [nonceEntry timestamp nonce]
      .ok { gateway with
        config := gateway.config.set "nonce_cache" (.arr ((lastItems (cacheSize manager) cache).map .obj)) }

/-- `_verify_replay_window`. -/
def verifyReplayWindow (gateway : GatewayConnection) (now : Rat) (timestamp nonce : String) :
    Except PyException Unit :=
  if timestamp = "" ∨ nonce = "" then
    .error ⟨.runtimeError, "public gateway webhook requires timestamp and nonce"⟩
  else
    match TimestampData.parse timestamp with
    | none => .error ⟨.runtimeError, "invalid gateway timestamp"⟩
    | some stamp =>
        -- The comparison with `nan` is false, so that timestamp is never outside.
        if stamp ≠ .nan ∧ ¬stamp.Within manager.webhookMaxSkewSeconds now then
          .error ⟨.runtimeError, "gateway timestamp outside allowed window"⟩
        else if (cachedNonces gateway.config).any fun item => item.get "nonce" = .str nonce then
          .error ⟨.runtimeError, "replayed gateway nonce"⟩
        else .ok ()

def secretOf (gateway : GatewayConnection) : String := A2A.text (gateway.config.get "secret")

def InboundGatewayMessage.publicWebhook (message : InboundGatewayMessage) : Bool :=
  (message.metadata.get "public_webhook").truthy

def InboundGatewayMessage.timestamp (message : InboundGatewayMessage) : String :=
  A2A.text (message.metadata.get "timestamp")

def InboundGatewayMessage.nonce (message : InboundGatewayMessage) : String :=
  A2A.text (message.metadata.get "nonce")

/-- `text.removeprefix(start)`. -/
def removePrefix (start text : String) : String :=
  if start.toList.isPrefixOf text.toList then String.ofList (text.toList.drop start.length) else text

/-- The signature that a message presents, without the name of the algorithm. -/
def InboundGatewayMessage.signature (message : InboundGatewayMessage) : String :=
  removePrefix "sha256=" (A2A.text ((message.metadata.get "signature").or
    (message.metadata.get "x_soulclaw_signature")))

def signedText (timestamp nonce text : String) : String :=
  if timestamp ≠ "" ∨ nonce ≠ "" then timestamp ++ "." ++ nonce ++ "." ++ text else text

/-- `hmac.compare_digest` of two texts. -/
def compareDigest (first second : String) : Except PyException Bool :=
  if Text.isAscii first && Text.isAscii second then .ok (first = second)
  else .error ⟨.typeError, "comparing strings with non-ASCII characters is not supported"⟩

variable (hmacSha256 : String → String → String)

/-- `_verify_signature`; the row that it leaves is the gateway with the nonce recorded. -/
def verifySignature (gateway : GatewayConnection) (now : Rat) (message : InboundGatewayMessage) :
    Except PyException GatewayConnection :=
  let secret := secretOf gateway
  if message.publicWebhook ∧ secret = "" then
    .error ⟨.runtimeError, "public gateway webhook requires a configured secret"⟩
  else if secret = "" then .ok gateway
  else
    let window := if message.publicWebhook then
      verifyReplayWindow manager gateway now message.timestamp message.nonce else .ok ()
    match window with
    | .error error => .error error
    | .ok () =>
        match compareDigest message.signature
          (hmacSha256 secret (signedText message.timestamp message.nonce message.text)) with
        | .error error => .error error
        | .ok false => .error ⟨.runtimeError, "invalid gateway signature"⟩
        | .ok true =>
            if message.publicWebhook then recordNonce manager gateway message.timestamp message.nonce
            else .ok gateway

variable {manager hmacSha256} {gateway after : GatewayConnection} {now : Rat}

omit [CharData] in
theorem verifyReplayWindow_ok {timestamp nonce : String}
    (passed : verifyReplayWindow manager gateway now timestamp nonce = .ok ()) :
    timestamp ≠ "" ∧ nonce ≠ "" ∧ ∃ stamp, TimestampData.parse timestamp = some stamp ∧
      (stamp = .nan ∨ stamp.Within manager.webhookMaxSkewSeconds now) ∧
      ∀ item ∈ cachedNonces gateway.config, Dict.get item "nonce" ≠ .str nonce := by
  rw [verifyReplayWindow] at passed
  split at passed
  next => cases passed
  next given =>
    obtain ⟨some, named⟩ := not_or.1 given
    refine ⟨some, named, ?_⟩
    split at passed
    next => cases passed
    next stamp parsed =>
      refine ⟨stamp, parsed, ?_⟩
      split at passed
      next => cases passed
      next inside =>
        split at passed
        next => cases passed
        next unseen =>
          refine ⟨by_contra fun outside => inside (not_or.1 outside), ?_⟩
          intro item member same
          exact unseen (List.any_eq_true.2 ⟨item, member, decide_eq_true same⟩)

omit [CharData] [TimestampData] in
theorem compareDigest_eq {first second : String} (same : compareDigest first second = .ok true) :
    first = second := by
  rw [compareDigest] at same
  split at same
  · exact of_decide_eq_true (Except.ok.inj same)
  · cases same

/-- A public message passes the window and the signature, and its nonce is recorded. -/
theorem verifySignature_public {message : InboundGatewayMessage} (isPublic : message.publicWebhook = true)
    (accepted : verifySignature manager hmacSha256 gateway now message = .ok after) :
    verifyReplayWindow manager gateway now message.timestamp message.nonce = .ok () ∧
      message.signature =
        hmacSha256 (secretOf gateway) (signedText message.timestamp message.nonce message.text) ∧
      recordNonce manager gateway message.timestamp message.nonce = .ok after := by
  rw [verifySignature] at accepted
  simp only [isPublic, true_and, if_true] at accepted
  by_cases secret : secretOf gateway = ""
  · rw [if_pos secret] at accepted
    cases accepted
  · rw [if_neg secret, if_neg secret] at accepted
    split at accepted
    next => cases accepted
    next window =>
      split at accepted
      next => cases accepted
      next => cases accepted
      next digest => exact ⟨window, compareDigest_eq digest, accepted⟩

theorem verifySignature_private {message : InboundGatewayMessage} (isPublic : message.publicWebhook = false)
    (accepted : verifySignature manager hmacSha256 gateway now message = .ok after) : after = gateway := by
  rw [verifySignature] at accepted
  simp only [isPublic, Bool.false_eq_true, false_and, if_false] at accepted
  split at accepted
  next => exact (Except.ok.inj accepted).symm
  next =>
    split at accepted
    next => cases accepted
    next => cases accepted
    next => exact (Except.ok.inj accepted).symm

omit [CharData] [TimestampData] in
theorem recordNonce_config {timestamp nonce : String}
    (recorded : recordNonce manager gateway timestamp nonce = .ok after) :
    after = { gateway with config := after.config } := by
  rw [recordNonce] at recorded
  split at recorded
  next => cases recorded
  next => exact (Except.ok.inj recorded) ▸ rfl

/-- The verification changes the configuration alone. -/
theorem verifySignature_config {message : InboundGatewayMessage}
    (accepted : verifySignature manager hmacSha256 gateway now message = .ok after) :
    after = { gateway with config := after.config } := by
  cases isPublic : message.publicWebhook with
  | false => rw [verifySignature_private isPublic accepted]
  | true => exact recordNonce_config (verifySignature_public isPublic accepted).2.2

end Verify

/-! An inbound message. -/

/-- What the agent answers to a turn. -/
structure TurnReply where
  turnId : String
  answer : Json
  context : Json := .obj []
  deriving DecidableEq

structure InboundReply where
  gateway : String
  sessionId : String
  turnId : String
  answer : Json
  context : Json
  deriving DecidableEq

/-- `text.replace(":", "_")`. -/
def withoutColons (text : String) : String :=
  String.ofList (text.toList.map fun c => if c = ':' then '_' else c)

/-- `_session_id`. -/
def sessionId (gatewayName channelId externalUserId : String) : String :=
  "gateway:" ++ Text.joinWith ":" ([gatewayName, orText channelId "default",
    orText externalUserId "anonymous"].map withoutColons)

/-- `_require_gateway`. -/
def requireGateway (gateway : Option GatewayConnection) (name : String) :
    Except PyException GatewayConnection :=
  match gateway with
  | none => .error ⟨.keyError, "gateway not found: " ++ name⟩
  | some gateway =>
      if gateway.enabled then .ok gateway else .error ⟨.runtimeError, "gateway disabled: " ++ name⟩

section Inbound
variable [CharData] [TimestampData] (manager : GatewayRuntimeManager)
  (hmacSha256 : String → String → String)

/-- The gateway for which the message starts a turn, with its nonce recorded. -/
def verified (gateway : Option GatewayConnection) (now : Rat) (message : InboundGatewayMessage) :
    Except PyException GatewayConnection :=
  match requireGateway gateway message.gatewayName with
  | .error error => .error error
  | .ok gateway => verifySignature manager hmacSha256 gateway now message

/-- `handle_inbound`: the outcome, and the row that the session holds at its end. `runTurn` is
the turn of the agent for a text and a session. -/
def handleInbound (runTurn : String → String → Except PyException TurnReply)
    (gateway : Option GatewayConnection) (now : Rat) (message : InboundGatewayMessage) :
    Except PyException InboundReply × Option GatewayConnection :=
  match verified manager hmacSha256 gateway now message with
  | .error error => (.error error, gateway)
  | .ok gateway =>
      let gateway := { gateway with
        lastInboundAt := some now
        inboundCount := gateway.inboundCount + 1
        status := "online" }
      let session := sessionId gateway.name message.channelId message.externalUserId
      match runTurn message.text session with
      | .error error =>
          (.error error,
            some { gateway with
              failureCount := gateway.failureCount + 1
              lastError := error.str
              status := "failed" })
      | .ok reply => (.ok ⟨gateway.name, session, reply.turnId, reply.answer, reply.context⟩, some gateway)

variable {manager hmacSha256}

/-- A verified message finds its gateway, and leaves everything but the configuration as it is. -/
theorem verified_config {gateway : Option GatewayConnection} {now : Rat} {message : InboundGatewayMessage}
    {after : GatewayConnection} (started : verified manager hmacSha256 gateway now message = .ok after) :
    ∃ row, gateway = some row ∧ row.enabled = true ∧ after = { row with config := after.config } := by
  rw [verified] at started
  cases gateway with
  | none => cases started
  | some row =>
    rw [requireGateway] at started
    by_cases enabled : row.enabled = true
    · rw [if_pos enabled] at started
      exact ⟨row, rfl, enabled, verifySignature_config started⟩
    · rw [if_neg enabled] at started
      cases started

end Inbound

/-- `session_scope`: an exception rolls back what the session holds. -/
def sessionScope {Result Row : Type*} (committed : Row) (ended : Except PyException Result × Row) : Row :=
  match ended with
  | (.ok _, row) => row
  | (.error _, _) => committed

def gatewayKinds : List String := ["weixin", "wecom", "telegram", "slack", "webhook", "local"]

structure GatewayUpsert where
  name : String
  kind : String
  endpoint : String := ""
  config : Dict := []
  enabled : Bool := false
  status : String := ""
  deriving DecidableEq

/-- `upsert_gateway`. -/
def upsertGateway (gateway : Option GatewayConnection) (request : GatewayUpsert) :
    Except PyException GatewayConnection :=
  if request.kind ∉ gatewayKinds then .error ⟨.valueError, "unsupported gateway kind"⟩
  else
    let gateway := gateway.getD { name := request.name, kind := request.kind }
    .ok { gateway with
      kind := request.kind
      endpoint := request.endpoint
      config := request.config
      enabled := request.enabled
      status := if request.enabled then orText request.status "enabled" else "disabled"
      lastError := if request.enabled then gateway.lastError else "" }

end SoulClaw.Runtime.Gateway
