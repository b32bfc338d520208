import SoulClaw.Foundation.Runs
import SoulClaw.Foundation.Table
import SoulClaw.Memories.File
import Mathlib.Logic.Function.Basic

/-! `MemoryService`: the memories and their history in the database, the memory file beside them, and the
operations that write both. -/

namespace SoulClaw.Memories.Service
open Foundation File Lines

/-! Snapshots and history. -/

/-- What `_snapshot` shows of a memory. A row that has not been written yet shows no value where it has
none. -/
structure Snapshot where
  id : String
  kind : String
  content : String
  source : Option String
  status : Option String
  pinned : Option Bool
  archived : Option Bool
  importance : Option PyFloat
  confidence : Option PyFloat
  stability : Option PyFloat
  sourceFileMarker : String
  provenance : Dict
  metadata : Dict
  deriving DecidableEq

/-- `_snapshot`. -/
def snapshot (id : Uuid) (memory : Memory) : Snapshot where
  id := id.str
  kind := memory.kind
  content := memory.content
  source := some memory.source
  status := some memory.status
  pinned := some memory.pinned
  archived := some memory.archived
  importance := some memory.importance
  confidence := some memory.confidence
  stability := some memory.stability
  sourceFileMarker := memory.sourceFileMarker
  provenance := memory.provenance
  metadata := memory.metadata

structure MemoryHistory where
  memoryId : Uuid
  action : String
  before : Option Snapshot
  after : Option Snapshot
  actor : String
  deriving DecidableEq

/-- The snapshot that `restore` puts back. -/
def MemoryHistory.designated (history : MemoryHistory) : Option Snapshot :=
  match history.before with
  | some before => some before
  | none => history.after

structure Database where
  memories : Uuid → Option Memory
  history : Table MemoryHistory

namespace Database

def put (db : Database) (id : Uuid) (memory : Memory) : Database :=
  { db with memories := Function.update db.memories id (some memory) }

/-- `_record_history`. -/
def recordHistory (db : Database) (id : Uuid) (action : String) (before after : Option Snapshot)
    (actor : String) : Database :=
  { db with history := db.history.insert ⟨id, action, before, after, orText actor "system"⟩ }

def empty : Database := ⟨fun _ => none, Table.empty⟩

end Database

/-- The committed rows, and the text that reading the memory file gives. -/
structure State where
  db : Database
  file : String

/-! Creating a memory. -/

structure CreateRequest where
  kind : String
  content : String
  source : String := "explicit"
  pinned : Bool := false
  importance : PyFloat := .finite (1 / 2)
  confidence : PyFloat := .finite (1 / 2)
  stability : PyFloat := .finite (1 / 2)
  supersedesId : Option Uuid := none
  metadata : Dict := []

/-- `{**first, **second}`. -/
def merged (first second : Dict) : Dict := second.foldl (fun dict field => dict.set field.1 field.2) first

section Create
variable [CharData]

/-- `_memory_access`. -/
def memoryAccess (metadata : Dict) : Json :=
  if (metadata.get "access").isDict then metadata.get "access"
  else .obj [("scope", .str ((metadata.get "scope").or (.str "local")).toStr),
    ("permission", .str ((metadata.get "permission").or (.str "private")).toStr)]

/-- The row that `create` adds. -/
def newMemory (id : Uuid) (now : String) (request : CreateRequest) : Memory where
  kind := request.kind
  content := request.content
  source := request.source
  status := "active"
  pinned := request.pinned
  importance := clamp request.importance
  confidence := clamp request.confidence
  stability := clamp request.stability
  supersedesId := request.supersedesId
  sourceFileMarker := marker id
  provenance := merged [("source", .str request.source), ("created_at", .str now)]
    (request.metadata.get "provenance").dict
  metadata := (request.metadata.set "access" (memoryAccess request.metadata)).set "embedding"
    (if (request.metadata.get "embedding").isDict then request.metadata.get "embedding"
      else .obj [("status", .str "reserved")])

/-- The mark that a memory is not in use any more, with the status that says why. -/
def retired (memory : Memory) (status : String) : Memory := { memory with archived := true, status := status }

/-- The memory that a new one supersedes. -/
def closePrevious (db : Database) (source : String) (id : Uuid) : Database :=
  match db.memories id with
  | some previous =>
      (db.recordHistory id "superseded_by_create" (some (snapshot id previous)) none source).put id
        (retired previous "superseded")
  | none => db

/-- The rows that `create` adds and changes. -/
def created (db : Database) (id : Uuid) (now : String) (request : CreateRequest) : Database :=
  let memory := newMemory id now request
  let db := match request.supersedesId with
    | some previous => closePrevious db request.source previous
    | none => db
  (db.put id memory).recordHistory id "create" none (some (snapshot id memory)) request.source

/-- `create`, which draws the identifier `id`. -/
def create [FloatData] (state : State) (id : Uuid) (now : String) (request : CreateRequest) :
    Except PyException State :=
  if (state.db.memories id).isSome then .error ⟨.integrityError, "UNIQUE constraint failed: memories.id"⟩
  else .ok {
    db := created state.db id now request
    file := appendToMemoryFile state.file id (newMemory id now request) }

end Create

/-! The operations on one memory. -/

def notFound (id : Uuid) : PyException := ⟨.keyError, "memory not found: " ++ id.str⟩

structure Replacement where
  kind : String := ""
  content : String
  source : Option String := none
  pinned : Option Bool := none
  importance : Option PyFloat := none
  confidence : Option PyFloat := none
  stability : Option PyFloat := none
  metadata : Dict := []

/-- The sum of two floats and the half of one, as they are rounded. -/
class FloatSum where
  add : PyFloat → PyFloat → PyFloat
  half : PyFloat → PyFloat

/-- Finite floats without rounding. -/
@[reducible] def FloatSum.exact : FloatSum where
  add
    | .finite first, .finite second => .finite (first + second)
    | _, _ => .nan
  half
    | .finite value => .finite (value / 2)
    | other => other

section Operations
variable [CharData] [FloatData]

/-- The memory that replaces `previous`. -/
def replacing (id : Uuid) (previous : Memory) (replacement : Replacement) : CreateRequest where
  kind := orText replacement.kind previous.kind
  content := replacement.content
  source := replacement.source.getD "supersede"
  pinned := replacement.pinned.getD previous.pinned
  importance := replacement.importance.getD previous.importance
  confidence := replacement.confidence.getD previous.confidence
  stability := replacement.stability.getD previous.stability
  supersedesId := some id
  metadata := if replacement.metadata = [] then [("supersedes", .str id.str)] else replacement.metadata

/-- A changed row, its entry in the file, and the record of the change. -/
def change (state : State) (id : Uuid) (action actor : String) (before : Option Snapshot) (memory : Memory) :
    State where
  db := (state.db.put id memory).recordHistory id action before (some (snapshot id memory)) actor
  file := rewriteMemoryFileEntry state.file id memory

/-- `supersede`. The row of the new memory and that of the previous one are both written to the file. -/
def supersede (state : State) (drawn : Uuid) (now : String) (id : Uuid) (replacement : Replacement) :
    Except PyException State :=
  match state.db.memories id with
  | none => .error (notFound id)
  | some previous => do
      let request := replacing id previous replacement
      let created ← create { state with db := state.db.put id (retired previous "superseded") } drawn now request
      let previous' := { retired previous "superseded" with supersededBy := some drawn }
      let file := rewriteMemoryFileEntry created.file id previous'
      return {
        db := (created.db.put id previous').recordHistory id "supersede" (some (snapshot id previous))
          (some (snapshot id previous')) (orText (replacement.source.getD "") "supersede")
        file := rewriteMemoryFileEntry file drawn (newMemory drawn now request) }

/-- `mark_verified`. -/
def markVerified [FloatSum] (state : State) (id : Uuid) (delta : PyFloat) : Except PyException State :=
  match state.db.memories id with
  | none => .error (notFound id)
  | some memory => .ok (change state id "verify" "memory-service" (some (snapshot id memory))
      { memory with
        confidence := clamp (FloatSum.add memory.confidence delta)
        stability := clamp (FloatSum.add memory.stability (FloatSum.half delta)) })

/-- `archive`. -/
def archive (state : State) (id : Uuid) : Except PyException State :=
  match state.db.memories id with
  | none => .error (notFound id)
  | some memory => .ok (change state id "archive" "memory-service" (some (snapshot id memory))
      (retired memory "archived"))

end Operations

/-! Reading the file. -/

section Sync
variable [CharData] [FloatData] [UuidData]

structure Synced where
  db : Database
  updated : Nat := 0
  missing : Nat := 0

/-- One turn of the loop: a line, and the line behind it. -/
def syncLine (now : Nat → String) (synced : Synced) (line : List Char) (next : Option (List Char)) : Synced :=
  match markerId line with
  | none => synced
  | some id =>
      match synced.db.memories id with
      | none => { synced with missing := synced.missing + 1 }
      | some memory =>
          match next.bind parseMemoryLine with
          | none => synced
          | some (fields, content) =>
              { synced with
                db := synced.db.put id (syncMemory id fields content (now synced.updated) memory)
                updated := synced.updated + 1 }

def syncLines (now : Nat → String) : Synced → List (List Char) → Synced
  | synced, [] => synced
  | synced, line :: rest => syncLines now (syncLine now synced line rest.head?) rest

/-- `sync_from_memory_file`, where `now` is the clock at each update. -/
def syncFromMemoryFile (state : State) (now : Nat → String) : (Nat × Nat) × State :=
  let synced := syncLines now { db := state.db } (splitlines state.file.toList)
  ((synced.updated, synced.missing), { state with db := synced.db })

end Sync

/-! Going back to a snapshot. -/

section Restore

/-- `float(snapshot.get(key, 0.5))`, between 0 and 1. -/
def snapshotScore (score : Option PyFloat) : Except PyException PyFloat :=
  match score with
  | some value => .ok (clamp value)
  | none => .error ⟨.typeError, "float() argument must be a string or a real number, not 'NoneType'"⟩

/-- `_apply_snapshot`. -/
def applySnapshot (id : Uuid) (memory : Memory) (snapshot : Snapshot) : Except PyException Memory := do
  let importance ← snapshotScore snapshot.importance
  let confidence ← snapshotScore snapshot.confidence
  let stability ← snapshotScore snapshot.stability
  return { memory with
    kind := orText snapshot.kind (orText memory.kind "agent_note")
    content := orText snapshot.content memory.content
    source := orText (snapshot.source.getD "") (orText memory.source "restore")
    status := orText (snapshot.status.getD "") "active"
    pinned := snapshot.pinned.getD false
    archived := snapshot.archived.getD false
    importance, confidence, stability
    sourceFileMarker := orText snapshot.sourceFileMarker (marker id)
    provenance := snapshot.provenance
    metadata := snapshot.metadata }

/-- The row and its snapshot from before a restore; a missing memory is made of the snapshot. -/
def restorable (db : Database) (id : Uuid) (designated : Snapshot) : Memory × Snapshot :=
  match db.memories id with
  | some memory => (memory, snapshot id memory)
  | none =>
      let kind := orText designated.kind "agent_note"
      ({ kind, content := designated.content, source := "", status := "" },
        { id := id.str, kind, content := designated.content, source := none, status := none, pinned := none,
          archived := none, importance := none, confidence := none, stability := none, sourceFileMarker := "",
          provenance := [], metadata := [] })

/-- `restore`. -/
def restore [CharData] [FloatData] [UuidData] (state : State) (historyId : Nat) (actor : String) :
    Except PyException State :=
  match state.db.history.get? historyId with
  | none => .error ⟨.keyError, "memory history not found: " ++ toString historyId⟩
  | some history =>
      match history.designated with
      | none => .error ⟨.valueError, "memory history has no restorable snapshot"⟩
      | some designated => do
          if designated.id = "" then throw ⟨.valueError, "memory history has no restorable snapshot"⟩
          match Uuid.ofText designated.id with
          | none => throw ⟨.valueError, "badly formed hexadecimal UUID string"⟩
          | some id =>
              let found := restorable state.db id designated
              let memory ← applySnapshot id found.1 designated
              return change state id "restore" actor (some found.2) memory

end Restore

/-! Proposals. -/

structure Proposal where
  status : String
  targetType : String
  action : String
  payload : Dict
  beforeSnapshot : Option Snapshot := none
  afterSnapshot : Dict := []
  result : Dict := []

section Payload

/-- `payload[key]`. -/
def required (payload : Dict) (key : String) : Except PyException Json :=
  match payload.lookup key with
  | some value => .ok value
  | none => .error ⟨.keyError, key⟩

/-- `float(value)`. -/
def toFloat [FloatData] : Json → Except PyException PyFloat
  | .int value =>
      match FloatData.ofInt value with
      | some value => .ok value
      | none => .error ⟨.overflowError, "int too large to convert to float"⟩
  | .bool value => .ok (.finite (if value then 1 else 0))
  | .float text | .str text =>
      match FloatData.parse text with
      | some value => .ok value
      | none => .error ⟨.valueError, "could not convert string to float: '" ++ text ++ "'"⟩
  | other => .error ⟨.typeError, "float() argument must be a string or a real number, not '" ++ other.typeName ++ "'"⟩

/-- `float(payload.get(key, default))`. -/
def scoreOf [FloatData] (payload : Dict) (key : String) (default : PyFloat) : Except PyException PyFloat :=
  match payload.lookup key with
  | some value => toFloat value
  | none => .ok default

/-- `uuid.UUID(str(payload["memory_id"]))`. -/
def memoryIdOf [CharData] [UuidData] (payload : Dict) : Except PyException Uuid := do
  let value ← required payload "memory_id"
  match Uuid.ofText value.toStr with
  | some id => return id
  | none => throw ⟨.valueError, "badly formed hexadecimal UUID string"⟩

/-- A value for a text column. -/
def textOf : Json → Except PyException String
  | .str value => .ok value
  | other => .error ⟨.typeError, "a text column does not take a value of type " ++ other.typeName⟩

/-- What a proposal to create a memory asks for. -/
def createRequestOf [CharData] [FloatData] (payload : Dict) : Except PyException CreateRequest := do
  let content ← required payload "content"
  let importance ← scoreOf payload "importance" (.finite (1 / 2))
  let confidence ← scoreOf payload "confidence" (.finite (1 / 2))
  let stability ← scoreOf payload "stability" (.finite (1 / 2))
  return {
    kind := ((payload.get "kind").or (.str "agent_note")).toStr
    content := content.toStr
    source := ((payload.get "source").or (.str "proposal")).toStr
    pinned := (payload.get "pinned").truthy
    importance, confidence, stability
    metadata := (payload.get "metadata").dict }

/-- What a proposal to supersede `previous` asks for. -/
def replacementOf [CharData] [FloatData] (payload : Dict) (previous : Memory) : Except PyException Replacement := do
  let content ← required payload "content"
  let kind ← textOf ((payload.get "kind").or (.str previous.kind))
  let source ← textOf ((payload.lookup "source").getD (.str "proposal"))
  let importance ← scoreOf payload "importance" previous.importance
  let confidence ← scoreOf payload "confidence" previous.confidence
  let stability ← scoreOf payload "stability" previous.stability
  return {
    kind, content := content.toStr, source := some source
    pinned := some ((payload.lookup "pinned").elim previous.pinned Json.truthy)
    importance := some importance, confidence := some confidence, stability := some stability
    metadata := (payload.get "metadata").dict }

end Payload

section Proposals
variable [CharData] [FloatData] [UuidData] [FloatSum]

/-- The row of an applied proposal. -/
def Proposal.applied (proposal : Proposal) (before : Option Snapshot) (result : Dict) (actor : String) : Proposal :=
  { proposal with
    status := "applied"
    beforeSnapshot := before
    afterSnapshot := result
    result := result.set "actor" (.str actor) }

/-- The change that an action of a proposal makes to the memory that it names. -/
def applyTo (state : State) (payload : Dict) (action : Uuid → Memory → Except PyException (State × Dict)) :
    Except PyException (Option Snapshot × State × Dict) := do
  let id ← memoryIdOf payload
  match state.db.memories id with
  | none => throw (notFound id)
  | some previous =>
      let (next, result) ← action id previous
      return (some (snapshot id previous), next, result)

/-- The branches of `apply_proposal`: the memory from before, the state after, and the result. -/
def applyAction (state : State) (drawn : Uuid) (now action : String) (payload : Dict) :
    Except PyException (Option Snapshot × State × Dict) :=
  match action with
  | "create" => do
      let request ← createRequestOf payload
      let next ← create state drawn now request
      return (none, next, [("ok", .bool true), ("memory_id", .str drawn.str), ("action", .str "create")])
  | "supersede" => applyTo state payload fun id previous => do
      let replacement ← replacementOf payload previous
      let next ← supersede state drawn now id replacement
      return (next, [("ok", .bool true), ("memory_id", .str drawn.str), ("supersedes_id", .str id.str),
        ("action", .str "supersede")])
  | "archive" => applyTo state payload fun id _ => do
      let next ← archive state id
      return (next, [("ok", .bool true), ("memory_id", .str id.str), ("action", .str "archive")])
  | "verify" => applyTo state payload fun id _ => do
      let delta ← scoreOf payload "confidence_delta" (.finite (1 / 20))
      let next ← markVerified state id delta
      return (next, [("ok", .bool true), ("memory_id", .str id.str), ("action", .str "verify")])
  | _ => throw ⟨.valueError, "memory proposal action must be create, supersede, archive, or verify"⟩

/-- `apply_proposal`. -/
def applyProposal (state : State) (drawn : Uuid) (now actor : String) (proposal : Proposal) :
    Except PyException (Proposal × State) := do
  if proposal.status ∉ ["pending", "approved"] then
    throw ⟨.valueError, "proposal is not applyable: " ++ proposal.status⟩
  if proposal.targetType ≠ "memory" then throw ⟨.valueError, "only memory proposals are applyable here"⟩
  let (before, next, result) ← applyAction state drawn now proposal.action proposal.payload
  return (proposal.applied before result actor, next)

end Proposals

/-! Runs of the service. Each operation is one transaction: one that raises leaves no trace in the
database, and it has not written the file by then. -/

inductive Action where
  | create (drawn : Uuid) (now : String) (request : CreateRequest)
  | supersede (drawn : Uuid) (now : String) (id : Uuid) (replacement : Replacement)
  | archive (id : Uuid)
  | markVerified (id : Uuid) (delta : PyFloat)
  | sync (now : Nat → String)
  | restore (historyId : Nat) (actor : String)
  | applyProposal (drawn : Uuid) (now actor : String) (proposal : Proposal)
  | editFile (text : String)

section Steps
variable [CharData] [FloatData] [UuidData] [FloatSum]

def perform (state : State) : Action → Except PyException State
  | .create drawn now request => create state drawn now request
  | .supersede drawn now id replacement => supersede state drawn now id replacement
  | .archive id => archive state id
  | .markVerified id delta => markVerified state id delta
  | .sync now => .ok (syncFromMemoryFile state now).2
  | .restore historyId actor => restore state historyId actor
  | .applyProposal drawn now actor proposal => (applyProposal state drawn now actor proposal).map Prod.snd
  | .editFile text => .ok { state with file := written text.toList }

def step (state : State) (action : Action) : Option State :=
  match perform state action with
  | .ok next => some next
  | .error _ => some state

end Steps

end SoulClaw.Memories.Service
