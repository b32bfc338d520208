import SoulClaw.Foundation.Keyed
import SoulClaw.Foundation.Text

/-! Conversation history and rolling session context. Every row carries the session that it was
recorded for, and a turn reads and writes only the rows of its own session. -/

namespace SoulClaw.Domain.Conversation
open Foundation

structure SessionMessage where
  sessionId : String
  turnId : String
  role : String
  content : String
  metadata : Dict := []
  createdAt : Nat := 0
  deriving DecidableEq, Repr

structure SessionSummary where
  sessionId : String
  summary : String
  summarizedMessageCount : Nat := 0
  metadata : Dict := []
  deriving DecidableEq, Repr

/-- The summary of a session is unique. -/
structure Database where
  messages : List SessionMessage := []
  summaries : Keyed SessionSummary.sessionId := .empty

structure SessionContext where
  summary : String
  messages : List SessionMessage
  totalMessages : Nat
  deriving DecidableEq

structure ConversationService where
  summaryThreshold : Int := 24
  recentLimit : Int := 12

/-- `ORDER BY created_at DESC`; rows with one time come in any order. -/
structure NewestFirst where
  sort : List SessionMessage → List SessionMessage
  perm : ∀ rows, (sort rows).Perm rows
  sorted : ∀ rows, (sort rows).Pairwise fun first second => second.createdAt ≤ first.createdAt

/-- Rows with one time come in the order in which they were recorded. -/
def NewestFirst.stable : NewestFirst where
  sort rows := rows.insertionSort fun first second => second.createdAt ≤ first.createdAt
  perm rows := List.perm_insertionSort _ rows
  sorted rows := by
    have total : Std.Total fun first second : SessionMessage => second.createdAt ≤ first.createdAt :=
      ⟨fun first second => Nat.le_total second.createdAt first.createdAt⟩
    have transitive : IsTrans SessionMessage fun first second => second.createdAt ≤ first.createdAt :=
      ⟨fun _ _ _ newer older => older.trans newer⟩
    exact List.pairwise_insertionSort _ rows

/-- `client.complete(...)` of a client that is configured, on the messages of a prompt. -/
abbrev Summarizer := List Json → Except PyException String

/-- The rows of one session. -/
def Database.ofSession (db : Database) (sessionId : String) : List SessionMessage :=
  db.messages.filter fun message => message.sessionId = sessionId

def Database.getSummary (db : Database) (sessionId : String) : Option SessionSummary :=
  db.summaries.find? sessionId

/-- `_record`. -/
def Database.record (db : Database) (message : SessionMessage) : Database :=
  { db with messages := db.messages ++ [message] }

def Database.putSummary (db : Database) (record : SessionSummary) : Database :=
  { db with summaries := db.summaries.put record }

section Service
variable (service : ConversationService) (newest : NewestFirst)

/-- The newest rows of a session, the oldest of them first. -/
def newestMessages (db : Database) (sessionId : String) (limit : Int) : List SessionMessage :=
  ((newest.sort (db.ofSession sessionId)).take limit.toNat).reverse

/-- `recent_context`; the limits `None` and 0 stand for the one of the service. -/
def recentContext (db : Database) (sessionId : String) (limit : Int := 0) : SessionContext where
  summary := ((db.getSummary sessionId).map SessionSummary.summary).getD ""
  messages := newestMessages newest db sessionId
    (max 1 (min (if limit = 0 then service.recentLimit else limit) 50))
  totalMessages := (db.ofSession sessionId).length

def listMessages (db : Database) (sessionId : String) (limit : Int := 100) : List SessionMessage :=
  newestMessages newest db sessionId (max 1 (min limit 500))

def summaryInstruction : String :=
  "Summarize this SoulClaw session for future short-term context. Keep durable facts, goals, decisions, and " ++
    "unresolved threads. Be concise."

def chatMessage (role content : String) : Json := .obj [("role", .str role), ("content", .str content)]

def summaryPrompt (messages : List SessionMessage) : List Json :=
  [chatMessage "system" summaryInstruction,
    chatMessage "user" (Text.joinWith "\n" (messages.map fun item => item.role ++ ": " ++ item.content))]

variable [CharData]

def sessionSummary (sessionId content : String) (total : Nat) : SessionSummary where
  sessionId := sessionId
  summary := Text.strip content
  summarizedMessageCount := total
  metadata := [("message_count", .int total)]

/-- `update_summary_if_needed`. -/
def updateSummaryIfNeeded (llm : Option Summarizer) (db : Database) (sessionId : String) : Database :=
  match llm with
  | none => db
  | some complete =>
      let total := (db.ofSession sessionId).length
      if (total : Int) < service.summaryThreshold then db
      else
        let summarized := ((db.getSummary sessionId).map SessionSummary.summarizedMessageCount).getD 0
        if (total : Int) - summarized < service.summaryThreshold then db
        else
          match complete (summaryPrompt (listMessages newest db sessionId 80)) with
          | .error _ => db
          | .ok content => db.putSummary (sessionSummary sessionId content total)

/-- A message that a turn records behind the one of the user. -/
structure Recorded where
  role : String
  content : String
  metadata : Dict := []
  createdAt : Nat := 0
  deriving DecidableEq

/-- A turn that returns. Which messages of its tools and of the assistant it records may depend on
the context that it has loaded. -/
structure Turn where
  turnId : String
  message : String
  createdAt : Nat := 0
  replies : SessionContext → List Recorded

def Turn.userMessage (turn : Turn) (sessionId : String) : SessionMessage where
  sessionId := sessionId
  turnId := turn.turnId
  role := "user"
  content := turn.message
  createdAt := turn.createdAt

def Turn.reply (turn : Turn) (sessionId : String) (recorded : Recorded) : SessionMessage where
  sessionId := sessionId
  turnId := turn.turnId
  role := recorded.role
  content := recorded.content
  metadata := recorded.metadata
  createdAt := recorded.createdAt

/-- What `run_turn` does with the conversation. -/
def converse (llm : Option Summarizer) (db : Database) (sessionId : String) (turn : Turn) : Database :=
  let context := recentContext service newest db sessionId 12
  let db := db.record (turn.userMessage sessionId)
  let db := ((turn.replies context).map (turn.reply sessionId)).foldl Database.record db
  updateSummaryIfNeeded service newest llm db sessionId

end Service

/-! A session sees its own rows alone. -/

/-- Two databases hold the same for a session. -/
structure SameFor (sessionId : String) (first second : Database) : Prop where
  messages : first.ofSession sessionId = second.ofSession sessionId
  summary : first.getSummary sessionId = second.getSummary sessionId

section Sessions
variable {service : ConversationService} {newest : NewestFirst} {llm : Option Summarizer}
  {first second : Database} {sessionId other : String}

theorem SameFor.refl (db : Database) : SameFor sessionId db db := ⟨rfl, rfl⟩

theorem SameFor.symm (same : SameFor sessionId first second) : SameFor sessionId second first :=
  ⟨same.messages.symm, same.summary.symm⟩

theorem SameFor.trans {third : Database} (same : SameFor sessionId first second)
    (next : SameFor sessionId second third) : SameFor sessionId first third :=
  ⟨same.messages.trans next.messages, same.summary.trans next.summary⟩

theorem SameFor.newestMessages_eq (same : SameFor sessionId first second) (limit : Int) :
    newestMessages newest first sessionId limit = newestMessages newest second sessionId limit := by
  rw [newestMessages, newestMessages, same.messages]

theorem SameFor.recentContext_eq (same : SameFor sessionId first second) (limit : Int) :
    recentContext service newest first sessionId limit =
      recentContext service newest second sessionId limit := by
  rw [recentContext, recentContext, same.newestMessages_eq, same.messages, same.summary]

@[simp] theorem ofSession_record (db : Database) (message : SessionMessage) (sessionId : String) :
    (db.record message).ofSession sessionId =
      db.ofSession sessionId ++ if message.sessionId = sessionId then [message] else [] := by
  rw [Database.ofSession, Database.record, List.filter_append, List.filter_singleton]
  by_cases own : message.sessionId = sessionId
  · simp [own, Database.ofSession]
  · simp [own, Database.ofSession]

@[simp] theorem getSummary_record (db : Database) (message : SessionMessage) (sessionId : String) :
    (db.record message).getSummary sessionId = db.getSummary sessionId := rfl

@[simp] theorem ofSession_putSummary (db : Database) (record : SessionSummary) (sessionId : String) :
    (db.putSummary record).ofSession sessionId = db.ofSession sessionId := rfl

theorem getSummary_putSummary (db : Database) (record : SessionSummary) (sessionId : String) :
    (db.putSummary record).getSummary sessionId =
      if sessionId = record.sessionId then some record else db.getSummary sessionId :=
  Keyed.find?_put ..

/-! What is recorded for one session does not show in another. -/

theorem sameFor_record (db : Database) {message : SessionMessage} (different : message.sessionId ≠ sessionId) :
    SameFor sessionId (db.record message) db where
  messages := by rw [ofSession_record, if_neg different, List.append_nil]
  summary := rfl

theorem sameFor_foldl_record (db : Database) {messages : List SessionMessage}
    (different : ∀ message ∈ messages, message.sessionId ≠ sessionId) :
    SameFor sessionId (messages.foldl Database.record db) db := by
  induction messages generalizing db with
  | nil => exact .refl db
  | cons message rest ih =>
    have others := ih (db.record message) fun other member => different other (List.mem_cons_of_mem _ member)
    exact others.trans (sameFor_record db (different message List.mem_cons_self))

theorem sameFor_putSummary (db : Database) {record : SessionSummary} (different : record.sessionId ≠ sessionId) :
    SameFor sessionId (db.putSummary record) db where
  messages := rfl
  summary := by rw [getSummary_putSummary, if_neg different.symm]

/-! What a session holds decides what is recorded for it. -/

theorem SameFor.record (same : SameFor sessionId first second) (message : SessionMessage) :
    SameFor sessionId (first.record message) (second.record message) where
  messages := by rw [ofSession_record, ofSession_record, same.messages]
  summary := same.summary

theorem SameFor.foldl_record (same : SameFor sessionId first second) (messages : List SessionMessage) :
    SameFor sessionId (messages.foldl Database.record first) (messages.foldl Database.record second) := by
  induction messages generalizing first second with
  | nil => exact same
  | cons message rest ih => exact ih (same.record message)

theorem SameFor.putSummary (same : SameFor sessionId first second) (record : SessionSummary) :
    SameFor sessionId (first.putSummary record) (second.putSummary record) where
  messages := same.messages
  summary := by rw [getSummary_putSummary, getSummary_putSummary, same.summary]

variable [CharData]

/-- The update leaves everything as it is, or puts a summary of the session, which its rows decide. -/
theorem updateSummaryIfNeeded_cases (service : ConversationService) (newest : NewestFirst) (llm : Option Summarizer)
    (sessionId : String) (db : Database) :
    (∀ same, SameFor sessionId db same → updateSummaryIfNeeded service newest llm same sessionId = same) ∨
      ∃ record : SessionSummary, record.sessionId = sessionId ∧ ∀ same, SameFor sessionId db same →
        updateSummaryIfNeeded service newest llm same sessionId = same.putSummary record := by
  cases llm with
  | none => exact .inl fun _ _ => rfl
  | some complete =>
    by_cases short : ((db.ofSession sessionId).length : Int) < service.summaryThreshold
    · refine .inl fun other same => ?_
      rw [updateSummaryIfNeeded, ← same.messages, if_pos short]
    · by_cases fresh : ((db.ofSession sessionId).length : Int) -
          ((db.getSummary sessionId).map SessionSummary.summarizedMessageCount).getD 0 < service.summaryThreshold
      · refine .inl fun other same => ?_
        rw [updateSummaryIfNeeded, ← same.messages, ← same.summary, if_neg short, if_pos fresh]
      · cases answered : complete (summaryPrompt (listMessages newest db sessionId 80)) with
        | error error =>
          refine .inl fun other same => ?_
          have prompted : listMessages newest db sessionId 80 = listMessages newest other sessionId 80 :=
            same.newestMessages_eq _
          rw [updateSummaryIfNeeded, ← same.messages, ← same.summary, if_neg short, if_neg fresh, ← prompted, answered]
        | ok content =>
          refine .inr ⟨sessionSummary sessionId content (db.ofSession sessionId).length, rfl, fun other same => ?_⟩
          have prompted : listMessages newest db sessionId 80 = listMessages newest other sessionId 80 :=
            same.newestMessages_eq _
          rw [updateSummaryIfNeeded, ← same.messages, ← same.summary, if_neg short, if_neg fresh, ← prompted, answered]

theorem sameFor_updateSummary (db : Database) (different : other ≠ sessionId) :
    SameFor sessionId (updateSummaryIfNeeded service newest llm db other) db := by
  rcases updateSummaryIfNeeded_cases service newest llm other db with unchanged | ⟨record, named, put⟩
  · rw [unchanged db (.refl db)]
    exact .refl db
  · rw [put db (.refl db)]
    exact sameFor_putSummary db (named ▸ different)

theorem SameFor.updateSummary (same : SameFor sessionId first second) :
    SameFor sessionId (updateSummaryIfNeeded service newest llm first sessionId)
      (updateSummaryIfNeeded service newest llm second sessionId) := by
  rcases updateSummaryIfNeeded_cases service newest llm sessionId first with unchanged | ⟨record, _, put⟩
  · rw [unchanged first (.refl first), unchanged second same]
    exact same
  · rw [put first (.refl first), put second same]
    exact same.putSummary record

/-- A turn shows in its own session alone. -/
theorem sameFor_converse (db : Database) (turn : Turn) (different : other ≠ sessionId) :
    SameFor sessionId (converse service newest llm db other turn) db := by
  rw [converse]
  refine (sameFor_updateSummary _ different).trans ((sameFor_foldl_record _ ?_).trans (sameFor_record db different))
  intro message member
  obtain ⟨recorded, _, rfl⟩ := List.mem_map.1 member
  exact different

/-- What a session holds decides what a turn leaves in it. -/
theorem SameFor.converse (same : SameFor sessionId first second) (turn : Turn) :
    SameFor sessionId (converse service newest llm first sessionId turn)
      (converse service newest llm second sessionId turn) := by
  rw [Conversation.converse, Conversation.converse, same.recentContext_eq]
  exact ((same.record _).foldl_record _).updateSummary

end Sessions

end SoulClaw.Domain.Conversation
