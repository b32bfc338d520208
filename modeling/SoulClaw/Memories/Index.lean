import SoulClaw.Memories.Entries

/-! The search index of the memories, and the session in which the operations run. The session does not flush by
itself: a query reads the rows as they were last flushed, and gives the objects of the session, which may have
changed since. -/

namespace SoulClaw.Memories.Index
open Foundation File Service Effects Entries

/-- `_parse_datetime`. -/
def parseDatetime [CharData] [DateData] : Json → Option DateTime
  | .str text =>
      if Text.strip text = "" then none
      else
        (DateData.fromisoformat (String.ofList (text.toList.flatMap fun c => if c = 'Z' then "+00:00".toList else [c]))).map
          DateTime.orUtc
  | _ => none

def expiredStatuses : List String := ["archived", "superseded"]

/-- The columns that say whether a memory is in use. -/
structure Row where
  archived : Bool
  status : String
  deriving DecidableEq

def Row.of (memory : Memory) : Row := ⟨memory.archived, memory.status⟩

/-- The condition of the query. -/
def Row.inUse (row : Row) : Bool := !row.archived && decide (row.status ∉ expiredStatuses)

/-- `_is_inactive` at a moment, in microseconds. -/
def inactive (row : Row) (validTo : Option DateTime) (now : Int) : Bool :=
  !row.inUse || validTo.any fun time => time.orUtc.instant < now

structure Session where
  /-- The objects of the memories that have a row, the records, and the file. -/
  state : Service.State
  /-- Memories that have been added and have no row yet, so that no query finds them. -/
  added : List (Uuid × Memory) := []
  stored : Uuid → Option Row
  /-- How many records have been flushed. -/
  recorded : Nat
  validTo : Uuid → Option DateTime
  /-- The ids in `memories_fts`. -/
  index : List Uuid := []

/-- What a refresh reads: the clock, and what the query gives. -/
structure Look where
  now : Int
  selected : List Uuid

namespace Session

/-- A session that has just been opened. -/
def opened (state : Service.State) (validTo : Uuid → Option DateTime) : Session where
  state
  stored id := (state.db.memories id).map Row.of
  recorded := state.db.history.size
  validTo

/-- `db.flush()`. -/
def flush (session : Session) : Except PyException Session :=
  if (session.added.map Prod.fst).Nodup ∧ ∀ row ∈ session.added, (session.state.db.memories row.1).isNone then
    let memories := fun id => (session.state.db.memories id).or (session.added.lookup id)
    .ok { session with
      state := { session.state with db := { session.state.db with memories } }
      added := []
      stored := fun id => (memories id).map Row.of
      recorded := session.state.db.history.size
      validTo := fun id => (session.state.db.memories id).bind fun _ => session.validTo id }
  else .error ⟨.integrityError, "UNIQUE constraint failed: memories.id"⟩

/-- `_refresh_sqlite_fts`. -/
def refresh (session : Session) (look : Look) : Session :=
  { session with
    index := look.selected.filter fun id => (session.state.db.memories id).any fun memory =>
      !inactive (Row.of memory) (session.validTo id) look.now }

end Session

/-! The operations. -/

section Operations
variable [CharData] [FloatData] [DateData]

/-- `self._parse_datetime(metadata.get("valid_to") or metadata.get("expires_at"))`. -/
def validToOf (metadata : Dict) : Option DateTime := parseDatetime ((metadata.get "valid_to").or (metadata.get "expires_at"))

/-- `create`. The record of the new memory is added after the flush. -/
def create (session : Session) (drawn : Uuid) (now : String) (request : CreateRequest) (look : Look) :
    Except PyException Session := do
  let next ← Service.create session.state drawn now request
  let flushed ← Session.flush { session with
    state := next
    validTo := Function.update session.validTo drawn (validToOf request.metadata) }
  return Session.refresh { flushed with recorded := flushed.recorded - 1 } look

/-- `supersede`. The index that `create` makes on the way is made again at the end. -/
def supersede (session : Session) (drawn : Uuid) (now : String) (id : Uuid) (replacement : Replacement) (look : Look) :
    Except PyException Session := do
  let next ← Service.supersede session.state drawn now id replacement
  -- Without metadata of the caller's, `create` is given `{"supersedes": ...}`, which sets no end either.
  let flushed ← Session.flush { session with
    state := next
    validTo := Function.update session.validTo drawn (validToOf replacement.metadata) }
  return Session.refresh { flushed with recorded := flushed.recorded - 2 } look

/-- `archive`. -/
def archive (session : Session) (id : Uuid) (look : Look) : Except PyException Session := do
  let next ← Service.archive session.state id
  return Session.refresh { session with state := next } look

/-- `mark_verified`. -/
def markVerified [FloatSum] (session : Session) (id : Uuid) (delta : PyFloat) : Except PyException Session := do
  let next ← Service.markVerified session.state id delta
  return { session with state := next }

variable [UuidData]

/-- `sync_from_memory_file`. -/
def syncFromMemoryFile (session : Session) (now : Nat → String) (look : Look) : Session :=
  let ((updated, _), next) := Service.syncFromMemoryFile session.state now
  if updated = 0 then { session with state := next } else Session.refresh { session with state := next } look

/-- The memory that a restore goes back to, and its snapshot. -/
def target (history : Table MemoryHistory) (historyId : Nat) : Except PyException (Uuid × Snapshot) :=
  match history.get? historyId with
  | none => .error ⟨.keyError, "memory history not found: " ++ toString historyId⟩
  | some record =>
      match record.designated with
      | none => .error ⟨.valueError, "memory history has no restorable snapshot"⟩
      | some designated =>
          if designated.id = "" then .error ⟨.valueError, "memory history has no restorable snapshot"⟩
          else
            match Uuid.ofText designated.id with
            | none => .error ⟨.valueError, "badly formed hexadecimal UUID string"⟩
            | some id => .ok (id, designated)

/-- `restore`. A record that has not been flushed has no row, and a memory without a row is added. -/
def restore (session : Session) (historyId : Nat) (actor : String) (look : Look) : Except PyException Session := do
  if session.recorded ≤ historyId then throw ⟨.keyError, "memory history not found: " ++ toString historyId⟩
  let (id, designated) ← target session.state.db.history historyId
  let (memory, before) := restorable session.state.db id designated
  let memory ← applySnapshot id memory designated
  let next := change session.state id "restore" actor (some before) memory
  let changed : Session := match session.state.db.memories id with
    | some _ => { session with state := next }
    | none => { session with
        state := { next with db := { next.db with memories := session.state.db.memories } }
        added := session.added ++ [(id, memory)] }
  return changed.refresh look

end Operations

/-! Runs of a session. An operation that raises ends it. -/

inductive Action where
  | create (drawn : Uuid) (now : String) (request : CreateRequest) (look : Look)
  | supersede (drawn : Uuid) (now : String) (id : Uuid) (replacement : Replacement) (look : Look)
  | archive (id : Uuid) (look : Look)
  | markVerified (id : Uuid) (delta : PyFloat)
  | sync (now : Nat → String) (look : Look)
  | restore (historyId : Nat) (actor : String) (look : Look)
  | flush
  | editFile (text : String)

section Steps
variable [CharData] [FloatData] [UuidData] [FloatSum] [DateData]

def perform (session : Session) : Action → Except PyException Session
  | .create drawn now request look => create session drawn now request look
  | .supersede drawn now id replacement look => supersede session drawn now id replacement look
  | .archive id look => archive session id look
  | .markVerified id delta => markVerified session id delta
  | .sync now look => .ok (syncFromMemoryFile session now look)
  | .restore historyId actor look => restore session historyId actor look
  | .flush => session.flush
  | .editFile text => .ok { session with state := { session.state with file := written text.toList } }

def step (session : Session) (action : Action) : Option Session := (perform session action).toOption

end Steps

end SoulClaw.Memories.Index
