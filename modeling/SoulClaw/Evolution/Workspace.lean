import SoulClaw.Wiki.Proposals

/-! `WorkspaceService`: the Markdown files of the agent, which are seeded when one of them is missing, and the
proposals to change them. -/

namespace SoulClaw.Evolution.Workspace
open Foundation Files Lines Wiki.Storage
open Wiki.Proposals (EvolutionProposal)

/-- The directories of the settings. A copy that goes deeper than the interpreter allows raises. -/
structure WorkspaceService where
  root : Path
  seedRoot : Path
  recursionLimit : Nat

def soulName : Name := ⟨"SOUL.md", by decide +kernel⟩

def userName : Name := ⟨"USER.md", by decide +kernel⟩

def memoryName : Name := ⟨"memory", by decide +kernel⟩

def memoryFileName : Name := ⟨"MEMORY.md", by decide +kernel⟩

def heartbeatName : Name := ⟨"HEARTBEAT.md", by decide +kernel⟩

def historyName : Name := ⟨"history.jsonl", by decide +kernel⟩

/-- `WORKSPACE_FILE_MAP`. -/
def workspaceFileMap : List (String × Path) :=
  [("soul", [soulName]), ("user", [userName]), ("memory", [memoryName, memoryFileName]),
    ("heartbeat", [heartbeatName])]

/-- `DEFAULT_WORKSPACE_FILES`. -/
def defaultWorkspaceFiles : List (String × String) :=
  [("soul", "# SOUL\n\nSoulClaw is a local-first long-term personal assistant. It should be careful, useful, " ++
      "transparent about uncertainty, and respectful of the user's preferences.\n"),
    ("user", "# USER\n\nThis file stores durable user preferences, profile facts, and relationship context. " ++
      "Only write stable information here after review.\n"),
    ("memory", "# MEMORY\n\nDurable lessons, user facts, project knowledge, and recurring patterns live here. " ++
      "Use readable Markdown; the database is only a searchable mirror.\n"),
    ("heartbeat", "# HEARTBEAT\n\n## Active Tasks\n\n" ++
      "- Keep this section empty when no proactive background check is needed.\n")]

structure WorkspaceFile where
  kind : String
  path : String
  content : String
  deriving DecidableEq

/-- Whether something stands at a path. -/
def present (path : Path) : FileM Raw Bool := Program.look fun disk => .ok (node disk path).isSome

/-- `item.name for item in path.iterdir()`, in the order in which the disk lists them. -/
def children (dir : Path) (disk : Disk) : List Name :=
  disk.keys.filterMap fun path => if path.dropLast = dir then path.getLast? else none

/-- A file with this text, unless something stands at the path. -/
def writeMissing (path : Path) (content : String) : FileM Raw Unit := do
  if !(← present path) then
    Program.write (makeDirectories [] path.dropLast)
    Program.write (change path fun _ => some content)

/-- `_copy_missing_tree`, with the calls that may still be nested. -/
def copyMissingTree : Nat → Path → Path → FileM Raw Nat
  | 0, _, _ => Program.ofExcept (.error ⟨.runtimeError, "maximum recursion depth exceeded"⟩)
  | depth + 1, src, dst => do
      match ← Program.look fun disk => .ok (node disk src) with
      | none => return 0
      | some (.file _) => do
          Program.write (makeDirectories [] dst)
          Program.ofExcept (.error notADirectory)
      | some .directory => do
          Program.write (makeDirectories [] dst)
          let names ← Program.look fun disk => .ok (children src disk)
          names.foldlM (fun copied name => do
            match ← Program.look fun disk => .ok (node disk (src ++ [name])) with
            | none => Program.ofExcept (.error notFound)
            | some .directory => return copied + (← copyMissingTree depth (src ++ [name]) (dst ++ [name]))
            | some (.file raw) => do
                if ← present (dst ++ [name]) then return copied
                Program.write (makeDirectories [] dst)
                Program.write (change (dst ++ [name]) fun _ => raw)
                return copied + 1) 0

namespace WorkspaceService
variable [CharData] (service : WorkspaceService)

/-- `_path_for`, from the root. -/
def pathFor (kind : String) : Except PyException Path :=
  match workspaceFileMap.lookup (Text.lower (Text.strip kind)) with
  | some relative => .ok relative
  | none => .error ⟨.keyError, "unsupported workspace file kind: " ++ kind⟩

def historyPath : Path := service.root ++ [memoryName, historyName]

def seedFromTemplate : FileM Raw Nat := copyMissingTree service.recursionLimit service.seedRoot service.root

def ensureFiles : FileM Raw Unit := do
  Program.write (makeDirectories [] service.root)
  let _ ← service.seedFromTemplate
  Program.write (makeDirectories [] (service.root ++ [memoryName]))
  workspaceFileMap.forM fun entry =>
    writeMissing (service.root ++ entry.2) ((defaultWorkspaceFiles.lookup entry.1).getD "")
  writeMissing service.historyPath ""

/-- `read`. -/
def read (kind : String) : FileM Raw WorkspaceFile := do
  let relative ← Program.ofExcept (pathFor kind)
  if !(← present (service.root ++ relative)) then service.ensureFiles
  let content ← Program.look (readPath service.root relative)
  return { kind, path := posix relative, content }

/-- `write`, which reads what it replaces. -/
def write (kind content : String) : FileM Raw WorkspaceFile := do
  let relative ← Program.ofExcept (pathFor kind)
  Program.write (makeDirectories [] (service.root ++ relative).dropLast)
  let _ ← Program.look (readPath service.root relative)
  Program.write (change (service.root ++ relative) fun _ => some content)
  service.read kind

end WorkspaceService

/-! Proposals. -/

/-- The target types of the proposals about a file. -/
def workspaceTargets : List String := ["persona", "user", "heartbeat", "workspace_file"]

/-- `_kind_for_target`. -/
def kindForTarget (targetType : String) : String :=
  if targetType = "persona" then "soul" else if targetType = "workspace_file" then "memory" else targetType

/-- The checks before a proposal is applied. -/
def applicable (proposal : EvolutionProposal) : Except PyException Unit :=
  if proposal.status ∉ ["pending", "approved"] then
    .error ⟨.valueError, "proposal is not applyable: " ++ proposal.status⟩
  else if proposal.targetType ∉ workspaceTargets then
    .error ⟨.valueError, "unsupported workspace proposal target_type: " ++ proposal.targetType⟩
  else .ok ()

section Apply
variable [CharData]

/-- The file that a proposal is about. -/
def kindOf (proposal : EvolutionProposal) : String :=
  ((proposal.payload.get "kind").or (.str (kindForTarget proposal.targetType))).toStr

/-- The text that a proposal leaves in the file that reads `before`. -/
def contentOf (proposal : EvolutionProposal) (before : String) : Except PyException String :=
  let content := ((proposal.payload.get "content").or (.str "")).toStr
  if proposal.action ∈ ["replace_file", "update_file"] then .ok content
  else if proposal.action = "append_file" then
    .ok (String.ofList (rstrip before.toList) ++ "\n\n" ++ Text.strip content ++ "\n")
  else .error ⟨.valueError, "workspace proposal action must be replace_file, update_file, or append_file"⟩

def WorkspaceFile.toDict (file : WorkspaceFile) : Dict :=
  [("kind", .str file.kind), ("path", .str file.path), ("content", .str file.content)]

/-- The row of an applied proposal. -/
def appliedTo (proposal : EvolutionProposal) (before after : WorkspaceFile) (actor : String) (now : Int) :
    EvolutionProposal :=
  { proposal with
    status := "applied"
    beforeSnapshot := before.toDict
    afterSnapshot := after.toDict
    result := [("ok", .bool true), ("kind", .str after.kind), ("path", .str after.path), ("actor", .str actor),
      ("action", .str proposal.action)]
    appliedAt := some now }

/-- `apply_proposal`. -/
def applyProposal (service : WorkspaceService) (actor : String) (now : Int) (proposals : Table EvolutionProposal) (id : Nat) :
    FileM Raw (EvolutionProposal × Table EvolutionProposal) :=
  match proposals.get? id with
  | none => Program.ofExcept (.error ⟨.keyError, "proposal not found: " ++ toString id⟩)
  | some proposal => do
      Program.ofExcept (applicable proposal)
      let before ← service.read (kindOf proposal)
      let content ← Program.ofExcept (contentOf proposal before.content)
      let after ← service.write (kindOf proposal) content
      let applied := appliedTo proposal before after actor now
      return (applied, proposals.set id applied)

end Apply

end SoulClaw.Evolution.Workspace
