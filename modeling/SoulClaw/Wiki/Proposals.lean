import SoulClaw.Foundation.Lines
import SoulClaw.Wiki.Storage

/-! `WikiService.apply_proposal`: what a proposal changes below the root, the line in the log, and the compile
after it. -/

namespace SoulClaw.Wiki.Proposals
open Foundation Files Lines Markdown Compile Storage

structure EvolutionProposal where
  targetType : String
  action : String
  status : String := "pending"
  riskLevel : String := "medium"
  payload : Dict := []
  evidence : Dict := []
  beforeSnapshot : Dict := []
  afterSnapshot : Dict := []
  result : Dict := []
  targetChecksum : String := ""
  staleReason : String := ""
  appliedAt : Option Int := none
  deriving DecidableEq

/-- The rows that the service reads and writes. -/
structure State where
  db : WikiDb
  proposals : Table EvolutionProposal

/-- Where the wiki is, and where the process is. -/
structure Places where
  root : Path
  cwd : Path
  deriving DecidableEq

/-- The times that one call reads, as texts where it writes them. -/
structure Clock where
  now : Int
  entryStamp : String
  stamp : String
  deriving DecidableEq

/-- `WIKI_PROPOSAL_ACTIONS`. -/
def wikiProposalActions : List String :=
  ["create_page", "update_page", "archive_page", "fix_link", "update_index", "append_log"]

def CompileReport.toDict (report : CompileReport) : Dict :=
  [("status", .str report.status), ("pages_seen", .int report.pagesSeen), ("pages_indexed", .int report.pagesIndexed),
    ("errors", .int report.errors)]

section Paths
variable [CharData]

/-- `_proposal_path`. -/
def proposalPath (payload : Dict) (default : String) : Except PyException Path :=
  let raw := ((payload.get "path").or (.str default)).toStr
  let pageKey := normalizePageKey ((payload.get "page_key").or (.str "")).toStr
  let raw := if raw = "" then if pageKey = "" then "" else pageKey ++ ".md" else raw
  let path := PurePath.parse raw
  if raw = "" ∨ path.absolute ∨ ".." ∈ path.parts.map Subtype.val then
    .error ⟨.valueError, "wiki proposal requires a safe relative path"⟩
  else .ok path.parts

/-- `Path("_archive") / path.name`. -/
def archivePath (path : Path) : Path := archiveName :: path.getLast?.toList

/-- The checks before a proposal is applied. -/
def applicable (proposal : EvolutionProposal) : Except PyException Unit :=
  if proposal.status ∉ ["pending", "approved"] then
    .error ⟨.valueError, "proposal is not applyable: " ++ proposal.status⟩
  else if proposal.targetType ≠ "wiki" then .error ⟨.valueError, "only wiki proposals are applyable here"⟩
  else if proposal.action ∉ wikiProposalActions then
    .error ⟨.valueError, "unsupported wiki proposal action: " ++ proposal.action⟩
  else .ok ()

end Paths

section Apply
variable [CharData] (places : Places) (clock : Clock) (actor : String)

/-- `before`, of a file and the text that it has. -/
def beforeOf (path content : String) : Dict := [("path", .str path), ("content", .str content)]

/-- The branch of the actions that write a page. -/
def writePage (payload : Dict) (default : String) : FileM Raw (Dict × String) := do
  let path ← Program.ofExcept (proposalPath payload default)
  let content ← Program.look (readPath places.root path)
  Program.write (writePath places.root path ((payload.get "content").or (.str "")).toStr)
  return (beforeOf (posix path) content, posix path)

/-- The branch of `archive_page`, whose `path.rename` takes the path from the directory of the process. -/
def archivePage (payload : Dict) : FileM Raw (Dict × String) := do
  let path ← Program.ofExcept (proposalPath payload "")
  let content ← Program.look (readPath places.root path)
  Program.write (makeDirectories [] (places.root ++ archivePath path).dropLast)
  Program.write (rename (places.cwd ++ path) (places.root ++ archivePath path))
  return (beforeOf (posix path) content, posix (archivePath path))

/-- The branch of `append_log`. -/
def appendEntry (payload : Dict) : FileM Raw (Dict × String) := do
  let content ← Program.look (readPath places.root [logName])
  Program.write (appendLog places.root ((payload.get "entry").or (.str "")).toStr actor clock.entryStamp)
  return (beforeOf "log.md" content, "log.md")

def applyAction (proposal : EvolutionProposal) : FileM Raw (Dict × String) :=
  if proposal.action ∈ ["create_page", "update_page", "fix_link", "update_index"] then
    writePage places proposal.payload (if proposal.action = "update_index" then "index.md" else "")
  else if proposal.action = "archive_page" then archivePage places proposal.payload
  else appendEntry places clock actor proposal.payload

variable [FloatData] [DateData] (service : WikiService)

/-- `compile` of the pages below the root. -/
def compileDisk (db : WikiDb) : FileM Raw (CompileReport × WikiDb) := do
  Program.write (makeDirectories [] places.root)
  Program.look fun disk => compile service (treeOf places.root disk) clock.now db

/-- The row of an applied proposal. -/
def EvolutionProposal.applied (proposal : EvolutionProposal) (before : Dict) (changed : String)
    (report : CompileReport) (actor : String) (now : Int) : EvolutionProposal :=
  { proposal with
    status := "applied"
    beforeSnapshot := before
    afterSnapshot := [("changed", .str changed), ("compile", .obj (CompileReport.toDict report))]
    result := [("ok", .bool true), ("action", .str proposal.action), ("changed", .str changed), ("actor", .str actor)]
    appliedAt := some now }

/-- What the log says of an applied proposal. -/
@[irreducible] def appliedEntry (id : Nat) (action changed : String) : String :=
  "Applied wiki proposal " ++ toString id ++ ": " ++ action ++ " " ++ changed

/-- `apply_proposal`. -/
def applyProposal (state : State) (id : Nat) : FileM Raw (EvolutionProposal × State) :=
  match state.proposals.get? id with
  | none => Program.ofExcept (.error ⟨.keyError, "proposal not found: " ++ toString id⟩)
  | some proposal => do
      Program.ofExcept (applicable proposal)
      let (before, changed) ← applyAction places clock actor proposal
      Program.write (appendLog places.root (appliedEntry id proposal.action changed) actor clock.stamp)
      let (report, db) ← compileDisk places clock service state.db
      let applied := EvolutionProposal.applied proposal before changed report actor clock.now
      return (applied, { db, proposals := state.proposals.set id applied })

/-- The caller commits what returns; of what raises, the files stay. -/
def attempt (disk : Disk) (state : State) (id : Nat) : Disk × State :=
  match (applyProposal places clock actor service state id).exec disk with
  | (.ok (_, next), disk) => (disk, next)
  | (.error _, disk) => (disk, state)

omit [FloatData] [DateData] in
theorem strip_appliedEntry_ne (id : Nat) (action changed : String) : Text.strip (appliedEntry id action changed) ≠ "" := by
  have word : 'A' ∈ "Applied wiki proposal ".toList := by decide +kernel
  have member : 'A' ∈ (appliedEntry id action changed).toList := by
    unfold appliedEntry
    simp only [String.toList_append, List.mem_append]
    exact .inl (.inl (.inl (.inl (.inl word))))
  have visible : CharData.isSpace 'A' = false := by
    rw [CharData.isSpace_ascii _ (by decide)]
    decide
  intro blank
  have nothing : Lines.strip (appliedEntry id action changed).toList = [] := by
    rw [← strip_toList, blank]
    rfl
  exact Lines.strip_ne_nil member visible nothing

variable {places clock actor} {state : State} {proposal : EvolutionProposal} {id : Nat} {disk acted logged : Disk}
  {before : Dict} {changed : String}

/-- What is left of a proposal whose action returns, once the log has its line. -/
theorem applyProposal_exec (found : state.proposals.get? id = some proposal) (ready : applicable proposal = .ok ())
    (action : (applyAction places clock actor proposal).exec disk = (.ok (before, changed), acted))
    (entry : appendLog places.root (appliedEntry id proposal.action changed) actor clock.stamp acted = .ok logged) :
    (applyProposal places clock actor service state id).exec disk =
      match (compileDisk places clock service state.db).exec logged with
      | (.ok (report, db), last) =>
          (.ok (EvolutionProposal.applied proposal before changed report actor clock.now,
            { db, proposals := state.proposals.set id
                (EvolutionProposal.applied proposal before changed report actor clock.now) }), last)
      | (.error raised, last) => (.error raised, last) := by
  have checked : (Program.ofExcept (applicable proposal) : FileM Raw Unit).exec disk = (.ok (), disk) := by
    rw [Program.exec_ofExcept, ready]
  rw [applyProposal, found]
  dsimp only
  rw [Program.exec_bind_of_ok _ checked, Program.exec_bind_of_ok _ action]
  dsimp only
  rw [Program.exec_bind_of_ok _ (Program.exec_write_of_ok entry), Program.exec_bind]
  cases (compileDisk places clock service state.db).exec logged with
  | mk returned last => cases returned <;> rfl

/-- A compile leaves the files of a wiki whose root exists as they are. -/
theorem compileDisk_exec (clock : Clock) (closed : Closed disk) (inside : node disk places.root = some .directory) (db : WikiDb) :
    (compileDisk places clock service db).exec disk = (compile service (treeOf places.root disk) clock.now db, disk) := by
  rw [compileDisk, Program.exec_bind_of_ok _ (Program.exec_write_of_ok (makeDirectories_existing closed inside))]
  rfl

end Apply

end SoulClaw.Wiki.Proposals
