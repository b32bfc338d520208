import SoulClaw.Domain.Conversation
import SoulClaw.Runtime.Gateway

/-! The conversations of the senders of a gateway. The session of a message is the name of its gateway,
its channel and its user behind one another; a colon inside of a name becomes an underscore, and an
empty name its default, so that different senders can come to share a session. -/

namespace SoulClaw.Runtime.Senders
open Foundation Gateway Domain.Conversation
open ResumeTurn (orText)

/-- Who has sent a message. -/
structure Sender where
  gatewayName : String
  channelId : String
  externalUserId : String
  deriving DecidableEq

def sender (message : InboundGatewayMessage) : Sender :=
  ⟨message.gatewayName, message.channelId, message.externalUserId⟩

def session (message : InboundGatewayMessage) : String :=
  sessionId message.gatewayName message.channelId message.externalUserId

/-- What the session of a sender keeps of its names. -/
def Sender.shown (sender : Sender) : Sender where
  gatewayName := withoutColons sender.gatewayName
  channelId := withoutColons (orText sender.channelId "default")
  externalUserId := withoutColons (orText sender.externalUserId "anonymous")

/-! The session of a message. -/

theorem colon_notMem_withoutColons (text : String) : ':' ∉ (withoutColons text).toList := by
  rw [withoutColons, String.toList_ofList, List.mem_map]
  rintro ⟨c, _, same⟩
  by_cases colon : c = ':'
  · rw [if_pos colon] at same
    exact absurd same (by decide)
  · rw [if_neg colon] at same
    exact colon same

theorem sessionId_toList (gatewayName channelId externalUserId : String) :
    (sessionId gatewayName channelId externalUserId).toList =
      "gateway:".toList ++ ((withoutColons gatewayName).toList ++ ':' ::
        ((withoutColons (orText channelId "default")).toList ++ ':' ::
          (withoutColons (orText externalUserId "anonymous")).toList)) := by
  simp [sessionId, Text.joinWith, String.toList_append, List.append_assoc]

/-- Two messages share a session exactly when it keeps the same of their senders. -/
theorem session_eq_iff (first second : InboundGatewayMessage) :
    session first = session second ↔ (sender first).shown = (sender second).shown := by
  rw [Sender.shown, Sender.shown, Sender.mk.injEq]
  constructor
  · intro same
    have chars := congrArg String.toList same
    rw [session, session, sessionId_toList, sessionId_toList] at chars
    obtain ⟨gateways, rest⟩ := Text.cut_inj (colon_notMem_withoutColons _) (colon_notMem_withoutColons _)
      (List.append_cancel_left chars)
    obtain ⟨channels, users⟩ := Text.cut_inj (colon_notMem_withoutColons _) (colon_notMem_withoutColons _) rest
    exact ⟨String.toList_injective gateways, String.toList_injective channels, String.toList_injective users⟩
  · rintro ⟨gateways, channels, users⟩
    apply String.toList_injective
    rw [session, session, sessionId_toList, sessionId_toList]
    exact congrArg _ (congrArg₂ _ (congrArg _ gateways)
      (congrArg _ (congrArg₂ _ (congrArg _ channels) (congrArg _ (congrArg _ users)))))

/-- The turn of a message runs in its session. -/
theorem handleInbound_session [CharData] [TimestampData] {manager : GatewayRuntimeManager}
    {hmacSha256 : String → String → String} {runTurn : String → String → Except PyException TurnReply}
    {gateway : GatewayConnection} {now : Rat} {message : InboundGatewayMessage} {reply : InboundReply}
    (named : gateway.name = message.gatewayName)
    (answered : (handleInbound manager hmacSha256 runTurn (some gateway) now message).1 = .ok reply) :
    reply.sessionId = session message ∧
      ∃ turn, runTurn message.text (session message) = .ok turn ∧ reply.turnId = turn.turnId := by
  rw [handleInbound] at answered
  cases started : verified manager hmacSha256 (some gateway) now message with
  | error error =>
    rw [started] at answered
    cases answered
  | ok after =>
    obtain ⟨row, found, _, same⟩ := verified_config started
    have name : after.name = message.gatewayName := by
      rw [same, ← Option.some.inj found]
      exact named
    rw [started] at answered
    dsimp only at answered
    rw [name] at answered
    cases returned : runTurn message.text (session message) with
    | error error =>
      rw [session] at returned
      rw [returned] at answered
      cases answered
    | ok turn =>
      rw [session] at returned
      rw [returned] at answered
      obtain rfl := Except.ok.inj answered
      exact ⟨rfl, turn, rfl, rfl⟩

section History
variable [CharData] (service : ConversationService) (newest : NewestFirst) (llm : Option Summarizer)

/-- A verified message and its turn. -/
structure Visit where
  message : InboundGatewayMessage
  turn : Turn

/-- The turns of messages, one behind the other. -/
def attend (db : Database) (visits : List Visit) : Database :=
  visits.foldl (fun db visit => converse service newest llm db (session visit.message) visit.turn) db

/-- The context that the turn of a message loads. -/
def loaded (db : Database) (message : InboundGatewayMessage) : SessionContext :=
  recentContext service newest db (session message) 12

variable {service newest llm}

/-- Turns in other sessions do not show in a session. -/
theorem sameFor_attend_filter {sessionId : String} {kept : Visit → Bool} {first second : Database}
    (same : SameFor sessionId first second) {visits : List Visit}
    (apart : ∀ visit ∈ visits, kept visit = false → session visit.message ≠ sessionId) :
    SameFor sessionId (attend service newest llm first visits)
      (attend service newest llm second (visits.filter kept)) := by
  induction visits generalizing first second with
  | nil => exact same
  | cons visit rest ih =>
    have later : ∀ other ∈ rest, kept other = false → session other.message ≠ sessionId :=
      fun other member => apart other (List.mem_cons_of_mem _ member)
    cases stays : kept visit with
    | false =>
      rw [List.filter_cons_of_neg (by rw [stays]; exact Bool.false_ne_true)]
      exact ih ((sameFor_converse first visit.turn (apart visit List.mem_cons_self stays)).trans same) later
    | true =>
      rw [List.filter_cons_of_pos stays]
      by_cases own : session visit.message = sessionId
      · exact ih (own ▸ (own ▸ same).converse visit.turn) later
      · exact ih ((sameFor_converse first visit.turn own).trans
          (same.trans (sameFor_converse second visit.turn own).symm)) later

/-- The turn of one message never shows in what the turn of another one loads. -/
def Apart (service : ConversationService) (newest : NewestFirst) (llm : Option Summarizer)
    (first second : InboundGatewayMessage) : Prop :=
  session first ≠ session second ∧
    ∀ db visits, loaded service newest (attend service newest llm db visits) second =
      loaded service newest
        (attend service newest llm db (visits.filter fun visit => sender visit.message ≠ sender first)) second

/-- Different senders are kept apart exactly when their sessions keep something different of them. -/
theorem senders_apart_iff (service : ConversationService) (newest : NewestFirst) (llm : Option Summarizer)
    (first second : InboundGatewayMessage) :
    (sender first ≠ sender second → Apart service newest llm first second) ↔
      (sender first = sender second ∨ (sender first).shown ≠ (sender second).shown) := by
  constructor
  · intro apart
    by_cases same : sender first = sender second
    · exact .inl same
    · exact .inr fun shown => (apart same).1 ((session_eq_iff first second).2 shown)
  · rintro (same | shown) different
    · exact absurd same different
    · have sessions : session first ≠ session second := fun same => shown ((session_eq_iff first second).1 same)
      refine ⟨sessions, fun db visits => ?_⟩
      have others : ∀ visit ∈ visits, decide (sender visit.message ≠ sender first) = false →
          session visit.message ≠ session second := by
        intro visit _ dropped own
        have sent : sender visit.message = sender first := not_not.1 (of_decide_eq_false dropped)
        refine sessions (((session_eq_iff first visit.message).2 ?_).trans own)
        rw [sent]
      exact (sameFor_attend_filter (.refl db) others).recentContext_eq 12

end History

section Mixed
attribute [local instance] CharData.ascii TimestampData.decimal

def teamHook : GatewayConnection where
  name := "hook"
  kind := "webhook"
  enabled := true

def channelMessage (channelId text : String) : InboundGatewayMessage where
  gatewayName := "hook"
  externalUserId := "7"
  text := text
  channelId := channelId

def answered (turnId answer : String) (_text _session : String) : Except PyException TurnReply :=
  .ok { turnId := turnId, answer := .str answer }

def toldCode : Visit where
  message := channelMessage "team:a" "the code is 4711"
  turn := { turnId := "t1", message := "the code is 4711", replies := fun _ => [⟨"assistant", "noted", [], 1⟩] }

/-- A user of the channel `team:a` tells a code; the turn of a user of the channel `team_a` then loads
that message and its answer. -/
theorem channels_mix :
    sender toldCode.message ≠ sender (channelMessage "team_a" "hello") ∧
    (handleInbound {} (fun _ text => text) (answered "t1" "noted") (some teamHook) 0 toldCode.message).1 =
      .ok ⟨"hook", "gateway:hook:team_a:7", "t1", .str "noted", .obj []⟩ ∧
    (handleInbound {} (fun _ text => text) (answered "t2" "hi") (some teamHook) 0
        (channelMessage "team_a" "hello")).1 =
      .ok ⟨"hook", "gateway:hook:team_a:7", "t2", .str "hi", .obj []⟩ ∧
    (loaded {} .stable (attend {} .stable none {} [toldCode]) (channelMessage "team_a" "hello")).messages =
      [⟨"gateway:hook:team_a:7", "t1", "user", "the code is 4711", [], 0⟩,
        ⟨"gateway:hook:team_a:7", "t1", "assistant", "noted", [], 1⟩] ∧
    ¬(sender toldCode.message ≠ sender (channelMessage "team_a" "hello") →
      Apart {} .stable none toldCode.message (channelMessage "team_a" "hello")) := by
  have different : sender toldCode.message ≠ sender (channelMessage "team_a" "hello") := by decide
  refine ⟨different, by decide +kernel, by decide +kernel, by decide +kernel, fun apart => ?_⟩
  exact (apart different).1 (by decide +kernel)

end Mixed

end SoulClaw.Runtime.Senders
