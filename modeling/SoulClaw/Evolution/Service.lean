import SoulClaw.Evolution.Workspace
import SoulClaw.Memories.Service
import SoulClaw.Skills.Service

/-! The services that apply a proposal, and `EvolutionService`, which picks one of them by the target type. Each
call is a transaction: what it leaves of the rows is committed, or rolled back when it raises. The files that it
has written stay. -/

namespace SoulClaw.Evolution.Service
open Foundation Files Lines Wiki.Storage Workspace
open Wiki.Proposals (EvolutionProposal Places)
open Wiki.Markdown (WikiService)
open Wiki.Compile (WikiDb)
open Skills.Package (SkillService)
open Memories.File (Memory marker memoryFileLine rewriteLines)
open Memories.Service (Database FloatSum Snapshot memoryIdOf)

/-- The rows of the database. -/
structure Rows where
  proposals : Table EvolutionProposal
  memories : Database
  wiki : WikiDb
  skills : Skills.Service.SkillDb

/-- What one call reads of the clock, and the identifier that it draws. -/
structure Moment where
  now : Int
  inserted : Int
  isoNow : String
  entryStamp : String
  stamp : String
  drawn : Uuid

/-- The wiki service, where its root is, and where the process is. -/
structure WikiHome where
  service : WikiService
  places : Places

structure MemoryService where
  workspace : WorkspaceService

structure EvolutionService where
  skills : SkillService
  memory : MemoryService
  wiki : Option WikiHome := none
  workspace : Option WorkspaceService := none

/-! The memory file. What goes wrong there is an event, and not an error of the call. -/

section MemoryFile
variable [CharData] [FloatData] [UuidData] (service : MemoryService)

/-- `_rewrite_memory_file_entry`. -/
def rewriteMemoryFileEntry (id : Uuid) (memory : Memory) : FileM Raw Unit :=
  tryCatch (do
    let item ← service.workspace.read "memory"
    match rewriteLines (marker id).toList (memoryFileLine memory).toList (splitlines item.content.toList) with
    | none => return ()
    | some lines =>
        let _ ← service.workspace.write "memory" (String.ofList (rstrip (joined lines) ++ ['\n']))
        return ()) fun _ => return ()

/-- `_append_to_memory_file`. -/
def appendToMemoryFile (id : Uuid) (memory : Memory) : FileM Raw Unit :=
  tryCatch (do
    let item ← service.workspace.read "memory"
    if Text.contains item.content (marker id) then rewriteMemoryFileEntry service id memory
    else
      let entry := "\n\n" ++ marker id ++ "\n" ++ memoryFileLine memory ++ "\n"
      let _ ← service.workspace.write "memory" (String.ofList (rstrip item.content.toList) ++ entry)
      return ()) fun _ => return ()

/-- What the action of a proposal writes to the file, of the rows that it leaves. -/
def writeEntries (db : Database) (drawn : Uuid) (proposal : EvolutionProposal) : FileM Raw Unit := do
  let entry := fun (write : Uuid → Memory → FileM Raw Unit) id => (db.memories id).elim (pure ()) (write id)
  let append := entry (appendToMemoryFile service)
  let rewrite := entry (rewriteMemoryFileEntry service)
  if proposal.action = "create" then append drawn
  else
    let id ← Program.ofExcept (memoryIdOf proposal.payload)
    if proposal.action = "supersede" then
      append drawn
      rewrite id
      rewrite drawn
    else rewrite id

end MemoryFile

section Snapshots
variable [FloatData]

/-- The dictionary of a snapshot. -/
def snapshotDict (snapshot : Snapshot) : Dict :=
  let text := fun (value : Option String) => value.elim Json.null Json.str
  let flag := fun (value : Option Bool) => value.elim Json.null Json.bool
  let score := fun (value : Option PyFloat) => value.elim Json.null fun value => .float (FloatData.repr value)
  [("id", .str snapshot.id), ("kind", .str snapshot.kind), ("content", .str snapshot.content),
    ("source", text snapshot.source), ("status", text snapshot.status), ("pinned", flag snapshot.pinned),
    ("archived", flag snapshot.archived), ("importance", score snapshot.importance),
    ("confidence", score snapshot.confidence), ("stability", score snapshot.stability),
    ("source_file_marker", .str snapshot.sourceFileMarker), ("provenance", .obj snapshot.provenance),
    ("metadata", .obj snapshot.metadata)]

/-- The row of an applied proposal about a memory. -/
def remembered (proposal : EvolutionProposal) (applied : Memories.Service.Proposal) (now : Int) : EvolutionProposal :=
  { proposal with
    status := applied.status
    beforeSnapshot := applied.beforeSnapshot.elim [] fun before => [("memory", .obj (snapshotDict before))]
    afterSnapshot := applied.afterSnapshot
    result := applied.result
    appliedAt := some now }

end Snapshots

/-! The calls. -/

section Calls
variable [CharData] [FloatData] [UuidData] [DateData] [FloatSum] (moment : Moment) (actor : String) (rows : Rows) (id : Nat)

/-- `MemoryService.apply_proposal`, whose rows do not depend on the file. -/
def MemoryService.applyProposal (service : MemoryService) : FileM Raw (EvolutionProposal × Rows) :=
  match rows.proposals.get? id with
  | none => Program.ofExcept (.error ⟨.keyError, "proposal not found: " ++ toString id⟩)
  | some proposal => do
      let asked : Memories.Service.Proposal :=
        { status := proposal.status, targetType := proposal.targetType, action := proposal.action
          payload := proposal.payload }
      let (applied, next) ← Program.ofExcept
        (Memories.Service.applyProposal ⟨rows.memories, ""⟩ moment.drawn moment.isoNow actor asked)
      writeEntries service next.db moment.drawn proposal
      let row := remembered proposal applied moment.now
      return (row, { rows with memories := next.db, proposals := rows.proposals.set id row })

/-- `SkillService.apply_proposal`, and the commit of what it adds. -/
def applySkill (service : SkillService) : FileM Raw (EvolutionProposal × Rows) := do
  let (row, session) ← Skills.Service.applyProposal service ⟨moment.now, moment.inserted⟩ actor
    ⟨rows.skills, rows.proposals⟩ id
  let state ← Program.ofExcept session.commit
  return (row, { rows with skills := state.db, proposals := state.proposals })

/-- `WikiService.apply_proposal`. -/
def WikiHome.applyProposal (home : WikiHome) : FileM Raw (EvolutionProposal × Rows) := do
  let (row, state) ← Wiki.Proposals.applyProposal home.places ⟨moment.now, moment.entryStamp, moment.stamp⟩ actor
    home.service ⟨rows.wiki, rows.proposals⟩ id
  return (row, { rows with wiki := state.db, proposals := state.proposals })

/-- `WorkspaceService.apply_proposal`. -/
def applyWorkspace (service : WorkspaceService) : FileM Raw (EvolutionProposal × Rows) := do
  let (row, proposals) ← Workspace.applyProposal service actor moment.now rows.proposals id
  return (row, { rows with proposals })

/-- `EvolutionService.apply`. -/
def EvolutionService.apply (service : EvolutionService) : FileM Raw (EvolutionProposal × Rows) :=
  match rows.proposals.get? id with
  | none => Program.ofExcept (.error ⟨.keyError, "proposal not found: " ++ toString id⟩)
  | some proposal =>
      if proposal.targetType = "skill" then applySkill moment actor rows id service.skills
      else if proposal.targetType = "memory" then service.memory.applyProposal moment actor rows id
      else if proposal.targetType = "wiki" then
        match service.wiki with
        | none => Program.ofExcept (.error ⟨.valueError, "wiki evolution service is not configured"⟩)
        | some wiki => wiki.applyProposal moment actor rows id
      else if proposal.targetType ∈ workspaceTargets then
        match service.workspace with
        | none => Program.ofExcept (.error ⟨.valueError, "workspace evolution service is not configured"⟩)
        | some workspace => applyWorkspace moment actor rows id workspace
      else Program.ofExcept (.error ⟨.valueError, "unsupported proposal target_type: " ++ proposal.targetType⟩)

/-- The row of a rejected proposal. -/
def rejectedBy (proposal : EvolutionProposal) (actor reason : String) (now : Int) : EvolutionProposal :=
  { proposal with
    status := "rejected"
    result := [("ok", .bool false), ("actor", .str actor), ("reason", .str reason)]
    appliedAt := some now }

/-- `EvolutionService.reject`. -/
def reject (reason : String) : FileM Raw (EvolutionProposal × Rows) :=
  match rows.proposals.get? id with
  | none => Program.ofExcept (.error ⟨.keyError, "proposal not found: " ++ toString id⟩)
  | some proposal =>
      if proposal.status ∉ ["pending", "approved"] then
        Program.ofExcept (.error ⟨.valueError, "proposal is not rejectable: " ++ proposal.status⟩)
      else
        let row := rejectedBy proposal actor reason moment.now
        return (row, { rows with proposals := rows.proposals.set id row })

end Calls

/-- The method that is called, of a service of its own. -/
inductive Method where
  | apply (service : EvolutionService)
  | reject (reason : String)
  | skill (service : SkillService)
  | memory (service : MemoryService)
  | wiki (home : WikiHome)
  | workspace (service : WorkspaceService)

structure Call where
  id : Nat
  actor : String
  moment : Moment
  method : Method

structure World where
  rows : Rows
  disk : Disk

section Transactions
variable [CharData] [FloatData] [UuidData] [DateData] [FloatSum]

def perform (rows : Rows) (call : Call) : FileM Raw (EvolutionProposal × Rows) :=
  match call.method with
  | .apply service => service.apply call.moment call.actor rows call.id
  | .reject reason => reject call.moment call.actor rows call.id reason
  | .skill service => applySkill call.moment call.actor rows call.id service
  | .memory service => service.applyProposal call.moment call.actor rows call.id
  | .wiki home => home.applyProposal call.moment call.actor rows call.id
  | .workspace service => applyWorkspace call.moment call.actor rows call.id service

/-- What a call returns or raises, and the world that it leaves. -/
def transact (world : World) (call : Call) : Except PyException EvolutionProposal × World :=
  match (perform world.rows call).exec world.disk with
  | (.ok (proposal, rows), disk) => (.ok proposal, ⟨rows, disk⟩)
  | (.error raised, disk) => (.error raised, ⟨world.rows, disk⟩)

end Transactions

end SoulClaw.Evolution.Service
