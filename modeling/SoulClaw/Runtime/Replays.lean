import SoulClaw.Foundation.Runs
import SoulClaw.Runtime.Signatures
import Mathlib.Tactic.Linarith

/-! Nonces over whole runs of the gateway. A nonce is refused as long as it is in the cache of
its gateway; the cache forgets it when it is full, when the turn of its message raises, and
when the configuration of the gateway is replaced. -/

namespace SoulClaw.Runtime.Replays
open Foundation Gateway

/-- A public message that has been verified and has started its turn. -/
structure Accepted where
  gateway : String
  timestamp : String
  nonce : String
  time : Rat
  deriving DecidableEq

structure State where
  now : Rat
  gateways : String → Option GatewayConnection
  accepted : List Accepted := []

def State.put (state : State) (name : String) (row : Option GatewayConnection) : State :=
  { state with gateways := Function.update state.gateways name row }

theorem State.gateways_put_self (state : State) (name : String) (row : Option GatewayConnection) :
    (state.put name row).gateways name = row := Function.update_self ..

theorem State.gateways_put_of_ne (state : State) {name other : String} (row : Option GatewayConnection)
    (different : other ≠ name) : (state.put name row).gateways other = state.gateways other :=
  Function.update_of_ne different ..

inductive Action where
  | advance (seconds : Rat)
  | inbound (message : InboundGatewayMessage) (runTurn : String → String → Except PyException TurnReply)
  | upsert (request : GatewayUpsert)

/-- The cache holds the nonce. -/
def Remembers (items : List Dict) (nonce : String) : Prop :=
  ∃ item ∈ items, Dict.get item "nonce" = .str nonce

instance (items : List Dict) (nonce : String) : Decidable (Remembers items nonce) := by
  unfold Remembers
  infer_instance

section System
variable [CharData] [TimestampData] (manager : GatewayRuntimeManager)
  (hmacSha256 : String → String → String)

/-- The message passes the verification of a public message and starts its turn. -/
def starts (state : State) (message : InboundGatewayMessage) : Bool :=
  message.publicWebhook && (verified manager hmacSha256 (state.gateways message.gatewayName) state.now
    message).toOption.isSome

def acceptedOf (state : State) (message : InboundGatewayMessage) : Accepted :=
  ⟨message.gatewayName, message.timestamp, message.nonce, state.now⟩

def step (state : State) : Action → Option State
  | .advance seconds => if 0 ≤ seconds then some { state with now := state.now + seconds } else none
  | .inbound message runTurn =>
      let gateway := state.gateways message.gatewayName
      let row := sessionScope gateway (handleInbound manager hmacSha256 runTurn gateway state.now message)
      let started := if starts manager hmacSha256 state message then [acceptedOf state message] else []
      some { state.put message.gatewayName row with accepted := state.accepted ++ started }
  | .upsert request =>
      match upsertGateway (state.gateways request.name) request with
      | .ok gateway => some (state.put request.name (some gateway))
      | .error _ => some state

abbrev run := Runs.run (step manager hmacSha256)

/-- The timestamp of the message is in the window at the time. -/
def Accepted.Open (entry : Accepted) (time : Rat) : Prop :=
  ∃ stamp ∈ TimestampData.parse entry.timestamp, stamp.Within manager.webhookMaxSkewSeconds time

instance (entry : Accepted) (time : Rat) : Decidable (entry.Open manager time) := by
  unfold Accepted.Open
  infer_instance

/-- The second message repeats the nonce of the first one inside its window. -/
def Repeats (first second : Accepted) : Prop :=
  first.gateway = second.gateway ∧ first.nonce = second.nonce ∧ first.Open manager second.time

def NoReplay (state : State) : Prop :=
  state.accepted.Pairwise fun first second => ¬Repeats manager first second

/-! What keeps the nonces. -/

/-- The entries that stay in the cache when one more is recorded. -/
def staying (config : Dict) : List Dict :=
  (cachedNonces config).drop ((cachedNonces config).length + 1 - cacheSize manager)

/-- Every nonce of the gateway whose window is open is among the entries. -/
def KeepsOpen (state : State) (name : String) (items : List Dict) : Prop :=
  ∀ entry ∈ state.accepted, entry.gateway = name → entry.Open manager state.now →
    Remembers items entry.nonce

instance (state : State) (name : String) (items : List Dict) :
    Decidable (KeepsOpen manager state name items) := by
  unfold KeepsOpen
  infer_instance

/-- The turn of a public message does not raise and its nonce drops none whose window is open;
a new configuration keeps the nonces whose windows are open. -/
def Retains (state : State) : Action → Prop
  | .advance _ => True
  | .inbound message runTurn =>
      starts manager hmacSha256 state message = true → ∀ gateway ∈ state.gateways message.gatewayName,
        (runTurn message.text (sessionId gateway.name message.channelId message.externalUserId)).toOption.isSome ∧
          KeepsOpen manager state message.gatewayName (staying manager gateway.config)
  | .upsert request => request.kind ∈ gatewayKinds →
      KeepsOpen manager state request.name (cachedNonces request.config)

instance (state : State) (action : Action) : Decidable (Retains manager hmacSha256 state action) := by
  cases action <;> unfold Retains <;> infer_instance

instance (state : State) : Decidable (NoReplay manager state) := by
  unfold NoReplay Repeats
  infer_instance

end System

/-! The cache when a nonce is recorded. -/

theorem entries_map_obj (items : List Dict) : entries (items.map .obj) = items := by
  rw [entries, List.filterMap_map]
  exact List.filterMap_some

theorem entries_toList {config : Dict} {items : List Json}
    (read : ((config.lookup "nonce_cache").getD (.arr [])).toList = .ok items) :
    entries items = cachedNonces config := by
  have texts : ∀ {Item : Type} (name : Item → String) (named : List Item),
      entries (named.map fun item => .str (name item)) = [] := by
    intro Item name named
    rw [entries, List.filterMap_map]
    exact List.filterMap_eq_nil_iff.2 fun _ _ => rfl
  rw [cachedNonces, Dict.get]
  cases stored : config.lookup "nonce_cache" with
  | none =>
    rw [stored] at read
    cases read
    rfl
  | some value =>
    rw [stored] at read
    cases value with
    | arr items =>
      cases read
      rfl
    | str text =>
      cases read
      exact texts _ _
    | obj fields =>
      cases read
      exact texts _ _
    | null => cases read
    | bool value => cases read
    | int value => cases read
    | float value => cases read

section Cache
variable [CharData] [TimestampData] {manager : GatewayRuntimeManager} {hmacSha256 : String → String → String}

omit [CharData] [TimestampData] in
theorem cacheSize_pos (manager : GatewayRuntimeManager) : 1 ≤ cacheSize manager := by
  unfold cacheSize
  omega

omit [CharData] [TimestampData] in
/-- The cache keeps its last entries, and the new one. -/
theorem cachedNonces_recorded {gateway after : GatewayConnection} {timestamp nonce : String}
    (recorded : recordNonce manager gateway timestamp nonce = .ok after) :
    cachedNonces after.config = staying manager gateway.config ++ [nonceEntry timestamp nonce] := by
  have size := cacheSize_pos manager
  rw [recordNonce] at recorded
  split at recorded
  next => cases recorded
  next items read =>
    cases recorded
    rw [entries_toList read, cachedNonces, Dict.get_set_self, Json.list, entries_map_obj, lastItems,
      List.length_append, List.length_singleton, staying, List.drop_append_of_le_length (by omega)]

omit [CharData] [TimestampData] in
theorem remembers_recorded {gateway after : GatewayConnection} {timestamp nonce other : String}
    (recorded : recordNonce manager gateway timestamp nonce = .ok after)
    (remembers : Remembers (staying manager gateway.config) other ∨ other = nonce) :
    Remembers (cachedNonces after.config) other := by
  rw [cachedNonces_recorded recorded]
  rcases remembers with ⟨item, member, same⟩ | rfl
  · exact ⟨item, List.mem_append_left _ member, same⟩
  · exact ⟨nonceEntry timestamp other, List.mem_append_right _ (List.mem_singleton_self _), rfl⟩

/-- A message that does not start, or whose turn raises, leaves the row; else the verified row
is committed. -/
theorem committed_cases (runTurn : String → String → Except PyException TurnReply)
    (gateway : Option GatewayConnection) (now : Rat) (message : InboundGatewayMessage) :
    sessionScope gateway (handleInbound manager hmacSha256 runTurn gateway now message) = gateway ∨
      ∃ after last, verified manager hmacSha256 gateway now message = .ok after ∧
        sessionScope gateway (handleInbound manager hmacSha256 runTurn gateway now message) = some last ∧
        last.config = after.config := by
  rw [handleInbound]
  cases verified manager hmacSha256 gateway now message with
  | error error => exact .inl rfl
  | ok after =>
    simp only
    split
    next => exact .inl rfl
    next => exact .inr ⟨after, _, rfl, rfl, rfl⟩

theorem committed_of_turn {runTurn : String → String → Except PyException TurnReply}
    {gateway : Option GatewayConnection} {now : Rat} {message : InboundGatewayMessage}
    {after : GatewayConnection} (started : verified manager hmacSha256 gateway now message = .ok after)
    (returned : (runTurn message.text
      (sessionId after.name message.channelId message.externalUserId)).toOption.isSome) :
    ∃ last, sessionScope gateway (handleInbound manager hmacSha256 runTurn gateway now message) = some last ∧
      last.config = after.config := by
  rw [handleInbound, started]
  simp only
  split
  next error failed =>
    rw [failed] at returned
    cases returned
  next => exact ⟨_, rfl, rfl⟩

/-- The row that the verification of a message starts from. -/
theorem verified_gateway {gateway : Option GatewayConnection} {now : Rat} {message : InboundGatewayMessage}
    {after : GatewayConnection} (started : verified manager hmacSha256 gateway now message = .ok after) :
    ∃ row, gateway = some row ∧ verifySignature manager hmacSha256 row now message = .ok after := by
  rw [verified] at started
  cases gateway with
  | none => cases started
  | some row =>
    refine ⟨row, rfl, ?_⟩
    rw [requireGateway] at started
    by_cases enabled : row.enabled = true
    · rw [if_pos enabled] at started
      exact started
    · rw [if_neg enabled] at started
      cases started

theorem starts_iff {state : State} {message : InboundGatewayMessage} :
    starts manager hmacSha256 state message = true ↔ message.publicWebhook = true ∧
      ∃ after, verified manager hmacSha256 (state.gateways message.gatewayName) state.now message = .ok after := by
  rw [starts, Bool.and_eq_true]
  apply and_congr_right
  intro _
  cases verified manager hmacSha256 (state.gateways message.gatewayName) state.now message with
  | error error => simp [Except.toOption]
  | ok after => simp [Except.toOption]

omit [CharData] [TimestampData] in
theorem name_recorded {gateway after : GatewayConnection} {timestamp nonce : String}
    (recorded : recordNonce manager gateway timestamp nonce = .ok after) : after.name = gateway.name := by
  rw [recordNonce] at recorded
  split at recorded
  next => cases recorded
  next => exact (Except.ok.inj recorded) ▸ rfl

end Cache

section Invariant
variable [CharData] [TimestampData] {manager : GatewayRuntimeManager} {hmacSha256 : String → String → String}

/-- The timestamps of the accepted messages were in the window, their nonces are remembered as
long as it is open, and none of them repeats another. -/
structure State.Kept (manager : GatewayRuntimeManager) (state : State) : Prop where
  past : ∀ entry ∈ state.accepted, entry.time ≤ state.now
  inside : ∀ entry ∈ state.accepted, ∀ stamp ∈ TimestampData.parse entry.timestamp,
    stamp = .nan ∨ stamp.Within manager.webhookMaxSkewSeconds entry.time
  remembered : ∀ entry ∈ state.accepted, entry.Open manager state.now →
    ∃ gateway, state.gateways entry.gateway = some gateway ∧
      Remembers (cachedNonces gateway.config) entry.nonce
  distinct : NoReplay manager state

omit [CharData] [TimestampData] in
/-- The window is an interval. -/
theorem within_between {stamp : Stamp} {seconds : Int} {first now later : Rat}
    (start : stamp = .nan ∨ stamp.Within seconds first) (finish : stamp.Within seconds later)
    (before : first ≤ now) (after : now ≤ later) : stamp.Within seconds now := by
  cases stamp with
  | finite value =>
    rcases start with absurd | start
    · cases absurd
    · rw [Stamp.Within, abs_le] at start finish ⊢
      constructor
      · linarith [start.1]
      · linarith [finish.2]
  | infinite => exact finish
  | nan => exact finish

omit [CharData] in
theorem kept_advance {state : State} (kept : state.Kept manager) {seconds : Rat} (forward : 0 ≤ seconds) :
    ({ state with now := state.now + seconds } : State).Kept manager where
  past entry member := le_add_of_le_of_nonneg (kept.past entry member) forward
  inside := kept.inside
  remembered := by
    intro entry member ⟨stamp, parsed, within⟩
    have now : stamp.Within manager.webhookMaxSkewSeconds state.now :=
      within_between (kept.inside entry member stamp parsed) within (kept.past entry member)
        (le_add_of_nonneg_right forward)
    exact kept.remembered entry member ⟨stamp, parsed, now⟩
  distinct := kept.distinct

/-- A message that starts no turn changes no configuration. -/
theorem config_idle {state : State} {message : InboundGatewayMessage}
    (idle : starts manager hmacSha256 state message = false)
    (runTurn : String → String → Except PyException TurnReply) {gateway : GatewayConnection}
    (found : state.gateways message.gatewayName = some gateway) :
    ∃ last, sessionScope (state.gateways message.gatewayName) (handleInbound manager hmacSha256 runTurn
      (state.gateways message.gatewayName) state.now message) = some last ∧ last.config = gateway.config := by
  rcases committed_cases runTurn (state.gateways message.gatewayName) state.now message with
    same | ⟨after, last, started, committed, config⟩
  · exact ⟨gateway, same.trans found, rfl⟩
  · have silent : message.publicWebhook = false := by
      by_contra isPublic
      rw [starts_iff.2 ⟨by simpa using isPublic, after, started⟩] at idle
      cases idle
    obtain ⟨row, here, checked⟩ := verified_gateway started
    rw [verifySignature_private silent checked] at config
    rw [found] at here
    cases here
    exact ⟨last, committed, config⟩

theorem kept_idle {state : State} {message : InboundGatewayMessage} (kept : state.Kept manager)
    (idle : starts manager hmacSha256 state message = false)
    (runTurn : String → String → Except PyException TurnReply) :
    (state.put message.gatewayName (sessionScope (state.gateways message.gatewayName)
      (handleInbound manager hmacSha256 runTurn (state.gateways message.gatewayName) state.now message))).Kept
        manager where
  past := kept.past
  inside := kept.inside
  remembered := by
    intro entry member stillOpen
    obtain ⟨gateway, found, remembers⟩ := kept.remembered entry member stillOpen
    by_cases here : entry.gateway = message.gatewayName
    · rw [here] at found ⊢
      obtain ⟨last, committed, config⟩ := config_idle idle runTurn found
      exact ⟨last, by rw [State.gateways_put_self, committed], config ▸ remembers⟩
    · exact ⟨gateway, by rw [state.gateways_put_of_ne _ here, found], remembers⟩
  distinct := kept.distinct

/-- The nonce of a message that starts has not been used inside its window. -/
theorem not_repeats {state : State} (kept : state.Kept manager) {gateway : GatewayConnection}
    {message : InboundGatewayMessage} (found : state.gateways message.gatewayName = some gateway)
    (passed : verifyReplayWindow manager gateway state.now message.timestamp message.nonce = .ok ()) :
    ∀ entry ∈ state.accepted, ¬Repeats manager entry (acceptedOf state message) := by
  intro entry member ⟨here, nonce, stillOpen⟩
  obtain ⟨row, known, item, cached, same⟩ := kept.remembered entry member stillOpen
  rw [here] at known
  rw [acceptedOf] at known nonce
  rw [found] at known
  cases known
  obtain ⟨_, _, _, _, _, unseen⟩ := verifyReplayWindow_ok passed
  exact unseen item cached (same.trans (congrArg Json.str nonce))

theorem kept_started {state : State} {message : InboundGatewayMessage} (kept : state.Kept manager)
    {runTurn : String → String → Except PyException TurnReply}
    (retains : Retains manager hmacSha256 state (.inbound message runTurn))
    (started : starts manager hmacSha256 state message = true) :
    ({ state.put message.gatewayName (sessionScope (state.gateways message.gatewayName)
        (handleInbound manager hmacSha256 runTurn (state.gateways message.gatewayName) state.now message)) with
      accepted := state.accepted ++ [acceptedOf state message] } : State).Kept manager := by
  obtain ⟨isPublic, after, checked⟩ := starts_iff.1 started
  obtain ⟨gateway, found, signed⟩ := verified_gateway checked
  obtain ⟨window, _, recorded⟩ := verifySignature_public isPublic signed
  obtain ⟨returned, keeps⟩ := retains started gateway found
  rw [← name_recorded recorded] at returned
  obtain ⟨last, committed, config⟩ := committed_of_turn checked returned
  obtain ⟨_, _, stamp, parsed, within, _⟩ := verifyReplayWindow_ok window
  constructor
  · intro entry member
    rcases List.mem_append.1 member with old | new
    · exact kept.past entry old
    · rw [List.mem_singleton.1 new]
      exact le_refl state.now
  · intro entry member
    rcases List.mem_append.1 member with old | new
    · exact kept.inside entry old
    · intro other read
      rw [List.mem_singleton.1 new] at read ⊢
      rw [acceptedOf, parsed] at read
      cases read
      exact within
  · intro entry member stillOpen
    by_cases here : entry.gateway = message.gatewayName
    · refine ⟨last, by rw [here]; exact (state.gateways_put_self _ _).trans committed, ?_⟩
      rw [config]
      refine remembers_recorded recorded ?_
      rcases List.mem_append.1 member with old | new
      · exact .inl (keeps entry old here stillOpen)
      · exact .inr (List.mem_singleton.1 new ▸ rfl)
    · rcases List.mem_append.1 member with old | new
      · obtain ⟨other, known, remembers⟩ := kept.remembered entry old stillOpen
        exact ⟨other, by rw [state.gateways_put_of_ne _ here, known], remembers⟩
      · exact absurd (List.mem_singleton.1 new ▸ rfl) here
  · rw [NoReplay, List.pairwise_append]
    refine ⟨kept.distinct, List.pairwise_singleton _ _, ?_⟩
    intro entry old other new
    rw [List.mem_singleton.1 new]
    exact not_repeats kept found window entry old

theorem kept_upsert {state : State} {request : GatewayUpsert} (kept : state.Kept manager)
    (retains : Retains manager hmacSha256 state (.upsert request)) {gateway : GatewayConnection}
    (written : upsertGateway (state.gateways request.name) request = .ok gateway) :
    (state.put request.name (some gateway)).Kept manager where
  past := kept.past
  inside := kept.inside
  remembered := by
    rw [upsertGateway] at written
    by_cases unsupported : request.kind ∉ gatewayKinds
    · rw [if_pos unsupported] at written
      cases written
    · rw [if_neg unsupported] at written
      cases written
      intro entry member stillOpen
      by_cases here : entry.gateway = request.name
      · exact ⟨_, by rw [here, State.gateways_put_self],
          retains (not_not.1 unsupported) entry member here stillOpen⟩
      · obtain ⟨other, known, remembers⟩ := kept.remembered entry member stillOpen
        exact ⟨other, by rw [state.gateways_put_of_ne _ here, known], remembers⟩
  distinct := kept.distinct

theorem kept_step {state next : State} {action : Action} (kept : state.Kept manager)
    (retains : Retains manager hmacSha256 state action)
    (taken : step manager hmacSha256 state action = some next) : next.Kept manager := by
  cases action with
  | advance seconds =>
    rw [step] at taken
    by_cases forward : 0 ≤ seconds
    · rw [if_pos forward] at taken
      cases taken
      exact kept_advance kept forward
    · rw [if_neg forward] at taken
      cases taken
  | inbound message runTurn =>
    cases taken
    cases started : starts manager hmacSha256 state message with
    | true => exact kept_started kept retains started
    | false =>
      simp only [Bool.false_eq_true, if_false, List.append_nil]
      exact kept_idle kept started runTurn
  | upsert request =>
    rw [step] at taken
    cases written : upsertGateway (state.gateways request.name) request with
    | error error =>
      rw [written] at taken
      cases taken
      exact kept
    | ok gateway =>
      rw [written] at taken
      cases taken
      exact kept_upsert kept retains written

end Invariant

/-! One message that arrives twice. -/

section Twice
attribute [local instance] CharData.ascii TimestampData.decimal

open Signatures (webhookHmac capturedMessage hook)

def hookState : State where
  now := 1700000000
  gateways name := if name = "hook" then some (hook []) else none

def helloWorld : InboundGatewayMessage := capturedMessage "n-1" "hello.world"

def twice (first : Except PyException TurnReply) : List Action :=
  [.inbound helloWorld fun _ _ => first, .advance 10,
    .inbound helloWorld fun _ _ => .ok ⟨"turn-2", .str "Hello.", .obj []⟩]

end Twice

end SoulClaw.Runtime.Replays
