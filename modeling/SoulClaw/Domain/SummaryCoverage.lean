import SoulClaw.Domain.Conversation
import Mathlib.Data.List.Induction

/-! What the rolling summaries of a session cover. The prompt of a summary shows the newest messages alone, while the
summary claims all of them; the summary before it is not in the prompt. -/

namespace SoulClaw.Domain.SummaryCoverage
open Foundation Domain.Conversation

inductive Event where
  | record (message : SessionMessage)
  | update (sessionId : String)

/-- The rows of the messages alone. -/
def recordEvent (db : Database) : Event → Database
  | .record message => db.record message
  | .update _ => db

def recorded (events : List Event) : Database := events.foldl recordEvent {}

/-- A stored summary, with the messages that its prompt has shown. -/
structure Summarisation where
  shown : List SessionMessage
  stored : SessionSummary

section Runs
variable [CharData] (service : ConversationService) (newest : NewestFirst)

/-- The text is part of the prompt about the messages. -/
def Mentions (shown : List SessionMessage) (text : String) : Prop :=
  ∃ message ∈ summaryPrompt shown, Text.contains (message.dict.get "content").toStr text = true

/-- A message is in the prompt of the latest summary, or an earlier summary that covers it is. -/
inductive Covered : List Summarisation → SessionMessage → Prop
  | shown {last : Summarisation} {earlier : List Summarisation} {message : SessionMessage}
      (member : message ∈ last.shown) : Covered (last :: earlier) message
  | summary {last previous : Summarisation} {earlier rest : List Summarisation} {message : SessionMessage}
      (before : previous :: rest <:+ earlier) (mentioned : Mentions last.shown previous.stored.summary)
      (covered : Covered (previous :: rest) message) : Covered (last :: earlier) message

/-- The summary that a call of `update_summary_if_needed` stores. -/
def storedSummary (llm : Option Summarizer) (db : Database) (sessionId : String) : Option SessionSummary :=
  let total := (db.ofSession sessionId).length
  let summarized := ((db.getSummary sessionId).map SessionSummary.summarizedMessageCount).getD 0
  if (total : Int) < service.summaryThreshold ∨ (total : Int) - summarized < service.summaryThreshold then none
  else
    (llm.bind fun complete => (complete (summaryPrompt (listMessages newest db sessionId 80))).toOption).map fun content =>
      sessionSummary sessionId content total

theorem updateSummaryIfNeeded_eq (llm : Option Summarizer) (db : Database) (sessionId : String) :
    updateSummaryIfNeeded service newest llm db sessionId =
      (storedSummary service newest llm db sessionId).elim db db.putSummary := by
  unfold storedSummary
  cases llm with
  | none =>
    dsimp only [Option.bind_none, Option.map_none]
    rw [ite_self]
    rfl
  | some complete =>
    rw [updateSummaryIfNeeded]
    dsimp only
    by_cases short : ((db.ofSession sessionId).length : Int) < service.summaryThreshold
    · rw [if_pos short, if_pos (Or.inl short)]
      rfl
    by_cases fresh : ((db.ofSession sessionId).length : Int) -
        ((db.getSummary sessionId).map SessionSummary.summarizedMessageCount).getD 0 < service.summaryThreshold
    · rw [if_neg short, if_pos fresh, if_pos (Or.inr fresh)]
      rfl
    · rw [if_neg short, if_neg fresh, if_neg (not_or.2 ⟨short, fresh⟩), Option.bind_some]
      cases complete (summaryPrompt (listMessages newest db sessionId 80)) with
      | error error => rfl
      | ok content => rfl

/-- The rows, and the summaries that have been stored, the latest of them first. -/
structure Session where
  db : Database := {}
  log : List Summarisation := []

def Session.step (session : Session) (llm : Option Summarizer) : Event → Session
  | .record message => { session with db := session.db.record message }
  | .update sessionId =>
      { db := updateSummaryIfNeeded service newest llm session.db sessionId
        log := ((storedSummary service newest llm session.db sessionId).map fun stored =>
          ⟨listMessages newest session.db sessionId 80, stored⟩).toList ++ session.log }

/-- The session after the events, where the model answers the call at a place as it is given for the place. -/
def played (llms : Nat → Option Summarizer) (events : List Event) : Session :=
  events.zipIdx.foldl (fun session event => session.step service newest (llms event.2) event.1) {}

/-- Each stored summary covers the messages that it claims. -/
def Faithful (session : Session) : Prop :=
  ∀ last earlier, last :: earlier <:+ session.log →
    ∀ message ∈ (session.db.ofSession last.stored.sessionId).take last.stored.summarizedMessageCount,
      Covered (last :: earlier) message

variable {service newest} {llms : Nat → Option Summarizer} {llm : Option Summarizer} {db : Database} {sessionId : String}

theorem played_concat (events : List Event) (event : Event) : played service newest llms (events ++ [event]) =
    (played service newest llms events).step service newest (llms events.length) event := by
  rw [played, List.zipIdx_append, List.foldl_append, Nat.zero_add]
  rfl

/-- What a call stores claims all messages of the session, of which there are enough. -/
theorem of_storedSummary {stored : SessionSummary} (stores : storedSummary service newest llm db sessionId = some stored) :
    stored.sessionId = sessionId ∧ stored.summarizedMessageCount = (db.ofSession sessionId).length ∧
      service.summaryThreshold ≤ (db.ofSession sessionId).length := by
  rw [storedSummary] at stores
  split at stores
  · cases stores
  next enough =>
    obtain ⟨content, _, rfl⟩ := Option.map_eq_some_iff.1 stores
    rw [not_or, not_lt] at enough
    exact ⟨rfl, rfl, enough.1⟩

/-- A session without a summary gets one when it has enough messages and the model answers. -/
theorem storedSummary_first {text : String} (none : db.getSummary sessionId = none)
    (enough : service.summaryThreshold ≤ (db.ofSession sessionId).length) :
    storedSummary service newest (some fun _ => .ok text) db sessionId =
      some (sessionSummary sessionId text (db.ofSession sessionId).length) := by
  have open_ : ¬((db.ofSession sessionId).length < service.summaryThreshold ∨
      ((db.ofSession sessionId).length : Int) - ((Option.map SessionSummary.summarizedMessageCount
        (Option.none : Option SessionSummary)).getD 0 : Nat) < service.summaryThreshold) := by
    rw [Option.map_none, Option.getD_none]
    omega
  rw [storedSummary, none, if_neg open_]
  rfl

theorem ofSession_step (session : Session) (event : Event) (sessionId : String) :
    ((session.step service newest llm event).db.ofSession sessionId) = (recordEvent session.db event).ofSession sessionId := by
  cases event with
  | record message => rfl
  | update other =>
    show (updateSummaryIfNeeded service newest llm session.db other).ofSession sessionId = _
    rw [updateSummaryIfNeeded_eq]
    cases storedSummary service newest llm session.db other with
    | none => rfl
    | some stored => rfl

omit [CharData] in
theorem ofSession_recordEvent_congr {first second : Database}
    (same : first.ofSession sessionId = second.ofSession sessionId) (event : Event) :
    (recordEvent first event).ofSession sessionId = (recordEvent second event).ofSession sessionId := by
  cases event with
  | record message =>
    show (first.record message).ofSession sessionId = (second.record message).ofSession sessionId
    rw [ofSession_record, ofSession_record, same]
  | update other => exact same

omit [CharData] in
theorem recorded_concat (events : List Event) (event : Event) :
    recorded (events ++ [event]) = recordEvent (recorded events) event := by
  rw [recorded, List.foldl_append]
  rfl

/-- The summaries leave the messages alone. -/
theorem ofSession_played (events : List Event) (sessionId : String) :
    (played service newest llms events).db.ofSession sessionId = (recorded events).ofSession sessionId := by
  induction events using List.reverseRecOn with
  | nil => rfl
  | append_singleton events event ih =>
    rw [played_concat, ofSession_step, recorded_concat]
    exact ofSession_recordEvent_congr ih event

/-- The rows of a session only get more. -/
theorem prefix_ofSession_step (session : Session) (event : Event) (sessionId : String) :
    session.db.ofSession sessionId <+: (session.step service newest llm event).db.ofSession sessionId := by
  rw [ofSession_step]
  cases event with
  | record message =>
    show _ <+: (session.db.record message).ofSession sessionId
    rw [ofSession_record]
    exact List.prefix_append _ _
  | update other => exact List.prefix_refl _

/-- A model that has not answered leaves no summary. -/
theorem played_silent (events : List Event) (silent : ∀ place < events.length, llms place = none) :
    (played service newest llms events).log = [] ∧
      ∀ sessionId, (played service newest llms events).db.getSummary sessionId = none := by
  induction events using List.reverseRecOn with
  | nil => exact ⟨rfl, fun _ => rfl⟩
  | append_singleton events event ih =>
    rw [List.length_append, List.length_singleton] at silent
    obtain ⟨empty, none⟩ := ih fun place short => silent place (by omega)
    rw [played_concat, silent events.length (by omega)]
    cases event with
    | record message => exact ⟨empty, none⟩
    | update sessionId =>
      have stays : storedSummary service newest Option.none (played service newest llms events).db sessionId =
          Option.none := by
        rw [storedSummary]
        dsimp only [Option.bind_none, Option.map_none]
        rw [ite_self]
      rw [Session.step, updateSummaryIfNeeded_eq, stays]
      exact ⟨empty, none⟩

/-- The prompt of every stored summary has shown what the summary claims. -/
def ShowsAll (session : Session) : Prop :=
  ∀ last ∈ session.log, last.stored.summarizedMessageCount ≤ (session.db.ofSession last.stored.sessionId).length ∧
    (session.db.ofSession last.stored.sessionId).take last.stored.summarizedMessageCount ⊆ last.shown

theorem ShowsAll.faithful {session : Session} (shows : ShowsAll session) : Faithful session := by
  intro last earlier inside message member
  exact .shown ((shows last (inside.subset List.mem_cons_self)).2 member)

theorem ShowsAll.step {session : Session} (shows : ShowsAll session) {event : Event}
    (within : ∀ sessionId, event = .update sessionId →
      ((session.db.ofSession sessionId).length : Int) < service.summaryThreshold ∨
        session.db.ofSession sessionId ⊆ listMessages newest session.db sessionId 80) :
    ShowsAll (session.step service newest llm event) := by
  have old : ∀ last ∈ session.log,
      last.stored.summarizedMessageCount ≤
          ((session.step service newest llm event).db.ofSession last.stored.sessionId).length ∧
        ((session.step service newest llm event).db.ofSession last.stored.sessionId).take
          last.stored.summarizedMessageCount ⊆ last.shown := by
    intro last member
    obtain ⟨bound, shown⟩ := shows last member
    obtain ⟨more, grown⟩ := @prefix_ofSession_step _ service newest llm session event
      last.stored.sessionId
    rw [← grown, List.length_append, List.take_append_of_le_length bound]
    exact ⟨by omega, shown⟩
  cases event with
  | record message => exact old
  | update sessionId =>
    intro last member
    rcases List.mem_append.1 member with fresh | member
    · obtain ⟨stored, stores, rfl⟩ := Option.map_eq_some_iff.1 (Option.mem_toList.1 fresh)
      obtain ⟨named, counted, enough⟩ := of_storedSummary stores
      dsimp only
      rw [named, counted, ofSession_step]
      refine ⟨le_rfl, ?_⟩
      rw [show recordEvent session.db (.update sessionId) = session.db from rfl, List.take_length]
      exact (within sessionId rfl).resolve_left enough.not_gt
    · exact old last member

/-- The model answers the call at one place alone. -/
def answersAt (place : Nat) (text : String) (other : Nat) : Option Summarizer :=
  if other = place then some fun _ => .ok text else none

/-- The first summary does not cover a message that its prompt does not show. -/
theorem not_faithful_of_hidden {front : List Event} {message : SessionMessage} {text : String}
    (enough : service.summaryThreshold ≤ ((recorded front).ofSession sessionId).length)
    (member : message ∈ (recorded front).ofSession sessionId)
    (hidden : message ∉ listMessages newest (recorded front) sessionId 80) :
    ¬Faithful (played service newest (answersAt front.length text) (front ++ [.update sessionId])) := by
  intro covers
  obtain ⟨empty, none⟩ := @played_silent _ service newest (answersAt front.length text) front
    fun place short => if_neg short.ne
  have rows := @ofSession_played _ service newest (answersAt front.length text) front sessionId
  have stores := @storedSummary_first _ service newest _ sessionId text (none sessionId) (by rw [rows]; exact enough)
  rw [played_concat, show answersAt front.length text front.length = some fun _ => .ok text from if_pos rfl] at covers
  have covered := covers ⟨_, _⟩ [] (by rw [Session.step, stores, empty]; exact List.suffix_refl _) message (by
    rw [ofSession_step]
    show message ∈ ((played service newest (answersAt front.length text) front).db.ofSession sessionId).take
      ((played service newest (answersAt front.length text) front).db.ofSession sessionId).length
    rw [List.take_length, rows]
    exact member)
  cases covered with
  | shown member =>
    rw [listMessages, newestMessages, rows] at member
    exact hidden member
  | summary before _ _ => exact absurd (List.suffix_nil.1 before) (List.cons_ne_nil _ _)

/-- The summaries cover what they claim, whatever the model answers and whenever it fails, exactly when each call is
made of a session that is too short for a summary, or is shown as a whole. -/
theorem summaries_cover_iff (service : ConversationService) (newest : NewestFirst) (events : List Event) :
    (∀ llms passed, passed <+: events → Faithful (played service newest llms passed)) ↔
      ∀ front sessionId back, events = front ++ .update sessionId :: back →
        (((recorded front).ofSession sessionId).length : Int) < service.summaryThreshold ∨
          (recorded front).ofSession sessionId ⊆ listMessages newest (recorded front) sessionId 80 := by
  constructor
  · intro faithful front sessionId back split
    by_contra neither
    rw [not_or, not_lt] at neither
    obtain ⟨enough, outside⟩ := neither
    obtain ⟨message, member, hidden⟩ := Set.not_subset.1 outside
    refine @not_faithful_of_hidden _ _ _ _ _ _ "" enough member hidden (faithful _ _ ⟨back, ?_⟩)
    rw [split, List.append_assoc, List.singleton_append]
  · intro within llms passed inside
    apply ShowsAll.faithful
    induction passed using List.reverseRecOn with
    | nil => exact fun _ member => absurd member List.not_mem_nil
    | append_singleton front event ih =>
      rw [played_concat]
      apply (ih ((List.prefix_append front [event]).trans inside)).step
      rintro sessionId rfl
      obtain ⟨back, split⟩ := inside
      have here := within front sessionId back (by rw [← split, List.append_assoc]; rfl)
      rw [listMessages, newestMessages, ofSession_played]
      exact here

omit [CharData] in
/-- A session of at most 80 messages is shown as a whole. -/
theorem shown_of_few (few : (db.ofSession sessionId).length ≤ 80) :
    db.ofSession sessionId ⊆ listMessages newest db sessionId 80 := by
  intro message member
  have size := (newest.perm (db.ofSession sessionId)).length_eq
  rw [listMessages, newestMessages, show (max 1 (min (80 : Int) 500)).toNat = 80 by decide,
    List.take_of_length_le (by omega), List.mem_reverse]
  exact (newest.perm _).symm.subset member

end Runs

section Demo
attribute [local instance] CharData.ascii

private def hello (place : Nat) : SessionMessage :=
  { sessionId := "desk", turnId := "", role := "user", content := "hello", createdAt := place }

/-- 81 messages in transactions of their own. -/
private def longTalk : List Event := (List.range 81).map fun place => .record (hello place)

/-- The summary of 81 messages claims the first of them, which its prompt does not show. -/
theorem summary_misses_first :
    ¬Faithful (played {} NewestFirst.stable (answersAt 81 "Greetings.") (longTalk ++ [.update "desk"])) :=
  @not_faithful_of_hidden _ {} NewestFirst.stable "desk" longTalk (hello 0) "Greetings." (by decide +kernel)
    (by decide +kernel) (by decide +kernel)

end Demo

end SoulClaw.Domain.SummaryCoverage
