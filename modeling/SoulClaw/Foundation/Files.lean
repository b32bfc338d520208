import SoulClaw.Foundation.Programs
import Mathlib.Data.Finset.Card
import Mathlib.Data.List.AList
import Mathlib.Data.List.Infix

/-! A tree of files and directories, as a POSIX system has it without links and permissions. -/

namespace SoulClaw.Foundation

namespace Files

/-- A name in a directory. -/
abbrev Name := { text : String // text ≠ "" ∧ '/' ∉ text.toList }

/-- The names from the root of the tree on. -/
abbrev Path := List Name

inductive Node (Content : Type) where
  | file (content : Content)
  | directory
  deriving DecidableEq, Repr

/-- What stands at the paths below the root. -/
abbrev FileSystem (Content : Type) := AList fun _ : Path => Node Content

def notFound : PyException := ⟨.osError, "[Errno 2] No such file or directory"⟩

def notADirectory : PyException := ⟨.osError, "[Errno 20] Not a directory"⟩

def isADirectory : PyException := ⟨.osError, "[Errno 21] Is a directory"⟩

def invalid : PyException := ⟨.osError, "[Errno 22] Invalid argument"⟩

def notEmpty : PyException := ⟨.osError, "[Errno 39] Directory not empty"⟩

section Operations
variable {Content : Type}

def node (files : FileSystem Content) (path : Path) : Option (Node Content) :=
  if path = [] then some .directory else files.lookup path

def setNode (files : FileSystem Content) (path : Path) (node : Node Content) : FileSystem Content :=
  files.insert path node

/-- `os.mkdir` of each missing directory from `base` on. -/
def makeDirectories (base : Path) : Path → FileSystem Content → Except PyException (FileSystem Content)
  | [], files => .ok files
  | name :: rest, files =>
      match node files (base ++ [name]) with
      | none => makeDirectories (base ++ [name]) rest (setNode files (base ++ [name]) .directory)
      | some .directory => makeDirectories (base ++ [name]) rest files
      | some (.file _) => .error notADirectory

/-- Opens a file, which is made if it is missing, and changes its content. -/
def change (path : Path) (content : Option Content → Content) (files : FileSystem Content) :
    Except PyException (FileSystem Content) :=
  match node files path with
  | some .directory => .error isADirectory
  | some (.file old) => .ok (setNode files path (.file (content (some old))))
  | none =>
      match node files path.dropLast with
      | some .directory => .ok (setNode files path (.file (content none)))
      | some (.file _) => .error notADirectory
      | none => .error notFound

/-- A directory and what is below it, under another path. -/
def moveTree (files : FileSystem Content) (source target : Path) : FileSystem Content :=
  files.entries.foldl (fun moved entry =>
    if source <+: entry.1 then setNode (moved.erase entry.1) (target ++ entry.1.drop source.length) entry.2
    else moved) files

/-- `os.rename`, which replaces a file at the target. -/
def rename (source target : Path) (files : FileSystem Content) : Except PyException (FileSystem Content) :=
  match node files source with
  | none => .error notFound
  | some (.file content) =>
      match node files target with
      | some .directory => .error isADirectory
      | some (.file _) => .ok (setNode (files.erase source) target (.file content))
      | none =>
          match node files target.dropLast with
          | some .directory => .ok (setNode (files.erase source) target (.file content))
          | some (.file _) => .error notADirectory
          | none => .error notFound
  | some .directory =>
      if source = target then .ok files
      else if source <+: target then .error invalid
      else
        match node files target with
        | some (.file _) => .error notADirectory
        | some .directory =>
            if files.keys.any fun path => target <+: path ∧ path ≠ target then .error notEmpty
            else .ok (moveTree files source target)
        | none =>
            match node files target.dropLast with
            | some .directory => .ok (moveTree files source target)
            | some (.file _) => .error notADirectory
            | none => .error notFound

/-- Everything stands in a directory. -/
def Closed (files : FileSystem Content) : Prop :=
  ∀ path ∈ files.keys, node files path.dropLast = some .directory

instance (files : FileSystem Content) [DecidableEq Content] : Decidable (Closed files) := by
  unfold Closed
  infer_instance

variable {files next : FileSystem Content} {path other : Path} {made : Node Content}

@[simp] theorem node_root (files : FileSystem Content) : node files [] = some .directory := if_pos rfl

theorem node_of_ne (files : FileSystem Content) (below : path ≠ []) : node files path = files.lookup path := if_neg below

theorem node_setNode (below : path ≠ []) (other : Path) :
    node (setNode files path made) other = if other = path then some made else node files other := by
  by_cases same : other = path
  · rw [if_pos same, same, node_of_ne _ below, setNode, AList.lookup_insert]
  · rw [if_neg same, node, node, setNode, AList.lookup_insert_ne same]

theorem node_erase (below : path ≠ []) (other : Path) :
    node (files.erase path) other = if other = path then none else node files other := by
  by_cases same : other = path
  · rw [if_pos same, same, node_of_ne _ below, AList.lookup_erase]
  · rw [if_neg same, node, node, AList.lookup_erase_ne same]

theorem mem_keys_of_node (below : path ≠ []) (found : node files path = some made) : path ∈ files.keys := by
  rw [node_of_ne _ below] at found
  rw [← AList.mem_keys, ← AList.lookup_isSome, found]
  rfl

theorem node_of_mem_keys (below : path ≠ []) (member : path ∈ files.keys) : ∃ made, node files path = some made := by
  rw [← AList.mem_keys, ← AList.lookup_isSome] at member
  rw [node_of_ne _ below]
  exact Option.isSome_iff_exists.1 member

/-- What is above something is a directory. -/
theorem directory_above (closed : Closed files) (front back : Path) (below : back ≠ [])
    (found : node files (front ++ back) = some made) : node files front = some .directory := by
  induction back using List.reverseRecOn generalizing made with
  | nil => exact absurd rfl below
  | append_singleton back name ih =>
    have parent := closed _ (mem_keys_of_node (by simp) found)
    rw [← List.append_assoc, List.dropLast_concat] at parent
    by_cases last : back = []
    · rw [last, List.append_nil] at parent
      exact parent
    · exact ih last parent

theorem mem_keys_setNode : other ∈ (setNode files path made).keys ↔ other = path ∨ other ∈ files.keys := by
  rw [← AList.mem_keys, setNode, AList.mem_insert, AList.mem_keys]

theorem dropLast_ne (below : path ≠ []) : path.dropLast ≠ path := by
  intro same
  have shorter := congrArg List.length same
  rw [List.length_dropLast] at shorter
  have some' := List.length_pos_iff.2 below
  omega

theorem closed_setNode (closed : Closed files) (below : path ≠ []) (parent : node files path.dropLast = some .directory)
    (fits : made = .directory ∨ node files path ≠ some .directory) : Closed (setNode files path made) := by
  intro other member
  rw [node_setNode below]
  by_cases inside : other.dropLast = path
  · rw [if_pos inside]
    rcases mem_keys_setNode.1 member with rfl | old
    · exact absurd inside (dropLast_ne below)
    · rcases fits with rfl | different
      · rfl
      · exact absurd (inside ▸ closed other old) different
  · rw [if_neg inside]
    rcases mem_keys_setNode.1 member with rfl | old
    · exact parent
    · exact closed other old

theorem closed_erase (closed : Closed files) (below : path ≠ []) (leaf : node files path ≠ some .directory) :
    Closed (files.erase path) := by
  intro other member
  rw [← AList.mem_keys, AList.mem_erase, AList.mem_keys] at member
  rw [node_erase below, if_neg]
  · exact closed other member.2
  · intro inside
    exact leaf (inside ▸ closed other member.2)

theorem makeDirectories_of_directory (base : Path) (names : Path)
    (known : ∀ front back, names = front ++ back → node files (base ++ front) = some .directory) :
    makeDirectories base names files = .ok files := by
  induction names generalizing base with
  | nil => rfl
  | cons name rest ih =>
    have here := known [name] rest rfl
    rw [makeDirectories, here]
    apply ih
    intro front back split
    have there := known (name :: front) back (by rw [split, List.cons_append])
    rw [List.append_assoc, List.singleton_append]
    exact there

/-- An existing directory is not made again. -/
theorem makeDirectories_existing (closed : Closed files) (known : node files path = some .directory) :
    makeDirectories [] path files = .ok files := by
  apply makeDirectories_of_directory
  intro front back split
  rw [List.nil_append]
  by_cases whole : back = []
  · rw [split, whole, List.append_nil] at known
    exact known
  · rw [split] at known
    exact directory_above closed front back whole known

theorem makeDirectories_append (base first second : Path) (files : FileSystem Content) :
    makeDirectories base (first ++ second) files =
      (makeDirectories base first files).bind (makeDirectories (base ++ first) second) := by
  induction first generalizing base files with
  | nil => rw [List.append_nil]; rfl
  | cons name rest ih =>
    rw [List.cons_append, makeDirectories, makeDirectories]
    have split : base ++ [name] ++ rest = base ++ name :: rest := by simp
    cases node files (base ++ [name]) with
    | none => rw [← split]; exact ih ..
    | some found =>
      cases found with
      | directory => rw [← split]; exact ih ..
      | file content => rfl

/-- A directory in an existing one is there afterwards, and nothing else changes. -/
theorem makeDirectories_child (closed : Closed files) (parent : node files path = some .directory) (name : Name)
    (free : ∀ content, node files (path ++ [name]) ≠ some (.file content)) :
    ∃ next, makeDirectories [] (path ++ [name]) files = .ok next ∧ Closed next ∧
      node next (path ++ [name]) = some .directory ∧ ∀ other, other ≠ path ++ [name] → node next other = node files other := by
  rw [makeDirectories_append, makeDirectories_existing closed parent, List.nil_append]
  show ∃ next, makeDirectories path [name] files = .ok next ∧ _
  rw [makeDirectories]
  cases found : node files (path ++ [name]) with
  | none =>
    have below : path ++ [name] ≠ [] := by simp
    have above : node files (path ++ [name]).dropLast = some .directory := by rw [List.dropLast_concat, parent]
    refine ⟨_, rfl, closed_setNode closed below above (.inl rfl), ?_, ?_⟩
    · rw [node_setNode below, if_pos rfl]
    · intro other different
      rw [node_setNode below, if_neg different]
  | some here =>
    cases here with
    | directory => exact ⟨files, rfl, closed, found, fun _ _ => rfl⟩
    | file content => exact absurd found (free content)

/-- The content of a file, if there is one. -/
def contentAt (files : FileSystem Content) (path : Path) : Option Content :=
  match node files path with
  | some (.file content) => some content
  | _ => none

/-- Changing a file in a directory. -/
theorem change_returns (closed : Closed files) (below : path ≠ [])
    (parent : node files path.dropLast = some .directory) (leaf : node files path ≠ some .directory)
    (content : Option Content → Content) :
    ∃ next, change path content files = .ok next ∧ Closed next ∧ ∀ other, node next other =
      if other = path then some (.file (content (contentAt files path))) else node files other := by
  have kept := fun text : Content => @closed_setNode _ _ _ (.file text) closed below parent (.inr leaf)
  have made := fun text : Content => @node_setNode _ files _ (.file text) below
  rw [change, contentAt]
  cases found : node files path with
  | none =>
    rw [parent]
    exact ⟨_, rfl, kept _, made _⟩
  | some here =>
    cases here with
    | directory => exact absurd found leaf
    | file old => exact ⟨_, rfl, kept _, made _⟩

/-- The directories from `base` on are made where nothing stood, and nothing else changes. -/
theorem makeDirectories_ok {base names : Path} (closed : Closed files) (known : node files base = some .directory)
    (ran : makeDirectories base names files = .ok next) : Closed next ∧
      (∀ front back, names = front ++ back → node next (base ++ front) = some .directory) ∧
      ∀ other, node next other = node files other ∨
        node files other = none ∧ node next other = some .directory ∧ other <+: base ++ names := by
  induction names generalizing base files with
  | nil =>
    rw [makeDirectories, Except.ok.injEq] at ran
    subst ran
    refine ⟨closed, ?_, fun other => .inl rfl⟩
    intro front back split
    rw [(List.append_eq_nil_iff.1 split.symm).1, List.append_nil, known]
  | cons name rest ih =>
    have below : base ++ [name] ≠ [] := by simp
    have parent : node files (base ++ [name]).dropLast = some .directory := by rw [List.dropLast_concat, known]
    have chain : base ++ [name] ++ rest = base ++ name :: rest := by simp
    -- What holds from the next directory on, holds from `base` on.
    have extend : ∀ {made : FileSystem Content},
        (∀ other, node made other = node files other ∨ node files other = none ∧ node made other = some .directory ∧
          other <+: base ++ name :: rest) → node made base = some .directory →
        Closed made → node made (base ++ [name]) = some .directory → makeDirectories (base ++ [name]) rest made = .ok next →
        Closed next ∧ (∀ front back, name :: rest = front ++ back → node next (base ++ front) = some .directory) ∧
          ∀ other, node next other = node files other ∨
            node files other = none ∧ node next other = some .directory ∧ other <+: base ++ name :: rest := by
      intro made before base' closed' here ran'
      obtain ⟨closed'', way, others⟩ := ih closed' here ran'
      refine ⟨closed'', ?_, ?_⟩
      · intro front back split
        cases front with
        | nil =>
          rw [List.append_nil]
          rcases others base with same | ⟨_, same, _⟩
          · rw [same, base']
          · exact same
        | cons first front =>
          rw [List.cons_append, List.cons.injEq] at split
          rw [← split.1]
          have there := way front back split.2
          rw [List.append_assoc, List.singleton_append] at there
          exact there
      · intro other
        rcases others other with same | ⟨free, same, inside⟩
        · rw [same]
          exact before other
        · rcases before other with same' | ⟨_, full, _⟩
          · exact .inr ⟨same' ▸ free, same, chain ▸ inside⟩
          · rw [free] at full
            cases full
    rw [makeDirectories] at ran
    cases found : node files (base ++ [name]) with
    | none =>
      rw [found] at ran
      have made := @node_setNode _ files _ .directory below
      refine extend ?_ ?_ (closed_setNode closed below parent (.inl rfl)) (by rw [made, if_pos rfl]) ran
      · intro other
        rw [made]
        by_cases same : other = base ++ [name]
        · rw [if_pos same, same]
          exact .inr ⟨found, rfl, ⟨rest, chain⟩⟩
        · rw [if_neg same]
          exact .inl rfl
      · rw [made, if_neg (by simp), known]
    | some here =>
      rw [found] at ran
      cases here with
      | directory => exact extend (fun other => .inl rfl) known closed found ran
      | file content => cases ran

/-- A change of a file leaves everything else alone. -/
theorem change_ok {content : Option Content → Content} (below : path ≠ []) (ran : change path content files = .ok next) :
    node files path ≠ some .directory ∧ ∀ other, node next other =
      if other = path then some (.file (content (contentAt files path))) else node files other := by
  rw [change] at ran
  rw [contentAt]
  cases found : node files path with
  | none =>
    rw [found] at ran
    dsimp only at ran
    cases parent : node files path.dropLast with
    | none =>
      rw [parent] at ran
      cases ran
    | some above =>
      rw [parent] at ran
      cases above with
      | file old => cases ran
      | directory =>
        rw [Except.ok.injEq] at ran
        subst ran
        exact ⟨fun same => (by cases same), node_setNode below⟩
  | some here =>
    rw [found] at ran
    cases here with
    | directory => cases ran
    | file old =>
      rw [Except.ok.injEq] at ran
      subst ran
      exact ⟨fun same => (by cases same), node_setNode below⟩

theorem change_parent {content : Option Content → Content} (closed : Closed files) (below : path ≠ [])
    (ran : change path content files = .ok next) : node files path.dropLast = some .directory := by
  cases found : node files path with
  | some here => exact closed path (mem_keys_of_node below found)
  | none =>
    rw [change, found] at ran
    dsimp only at ran
    cases parent : node files path.dropLast with
    | none =>
      rw [parent] at ran
      cases ran
    | some above =>
      rw [parent] at ran
      cases above with
      | file old => cases ran
      | directory => rfl

theorem change_closed {content : Option Content → Content} (closed : Closed files) (below : path ≠ [])
    (ran : change path content files = .ok next) : Closed next := by
  obtain ⟨changed, ran', closed', _⟩ :=
    change_returns closed below (change_parent closed below ran) (change_ok below ran).1 content
  rw [ran, Except.ok.injEq] at ran'
  exact ran' ▸ closed'

theorem contentAt_of_node {first second : FileSystem Content} (same : node first path = node second path) :
    contentAt first path = contentAt second path := by
  rw [contentAt, contentAt, same]

theorem contentAt_makeDirectories {base names : Path} (closed : Closed files) (known : node files base = some .directory)
    (ran : makeDirectories base names files = .ok next) (other : Path) : contentAt next other = contentAt files other := by
  rcases (makeDirectories_ok closed known ran).2.2 other with same | ⟨free, made, _⟩
  · exact contentAt_of_node same
  · rw [contentAt, contentAt, free, made]

theorem contentAt_change {content : Option Content → Content} (below : path ≠ []) (ran : change path content files = .ok next)
    (other : Path) : contentAt next other =
      if other = path then some (content (contentAt files path)) else contentAt files other := by
  rw [contentAt, (change_ok below ran).2 other]
  by_cases same : other = path
  · rw [if_pos same, if_pos same]
  · rw [if_neg same, if_neg same]
    rfl

/-- The paths at which files stand. -/
def filePaths (files : FileSystem Content) : Finset Path :=
  (files.keys.filter fun path => (contentAt files path).isSome).toFinset

theorem mem_filePaths : path ∈ filePaths files ↔ (contentAt files path).isSome = true := by
  rw [filePaths, List.mem_toFinset, List.mem_filter]
  constructor
  · exact fun known => known.2
  · intro known
    have below : path ≠ [] := by
      rintro rfl
      rw [contentAt, node_root] at known
      cases known
    rw [contentAt] at known
    cases found : node files path with
    | none =>
      rw [found] at known
      cases known
    | some here => exact ⟨mem_keys_of_node below found, by rwa [contentAt]⟩

theorem filePaths_congr (same : ∀ path, contentAt next path = contentAt files path) : filePaths next = filePaths files := by
  ext path
  rw [mem_filePaths, mem_filePaths, same]

/-- A file at a path where there was none is one file more. -/
theorem card_filePaths_change {content : Option Content → Content} (below : path ≠ [])
    (ran : change path content files = .ok next) (free : contentAt files path = none) :
    (filePaths next).card = (filePaths files).card + 1 := by
  have inserted : filePaths next = insert path (filePaths files) := by
    ext other
    rw [Finset.mem_insert, mem_filePaths, mem_filePaths, contentAt_change below ran]
    by_cases same : other = path
    · rw [if_pos same]
      exact iff_of_true rfl (.inl same)
    · rw [if_neg same, or_iff_right same]
  rw [inserted, Finset.card_insert_of_notMem]
  rw [mem_filePaths, free]
  exact Bool.false_ne_true

/-- Directories can be made where no file stands in the way. -/
theorem makeDirectories_returns {base names : Path}
    (clear : ∀ front back, names = front ++ back → contentAt files (base ++ front) = none) :
    ∃ next, makeDirectories base names files = .ok next := by
  induction names generalizing base files with
  | nil => exact ⟨files, rfl⟩
  | cons name rest ih =>
    have further : ∀ made : FileSystem Content, (∀ other, contentAt made other = contentAt files other) →
        ∃ next, makeDirectories (base ++ [name]) rest made = .ok next := by
      intro made same
      apply ih
      intro front back split
      rw [same, List.append_assoc, List.singleton_append]
      exact clear (name :: front) back (by rw [split, List.cons_append])
    rw [makeDirectories]
    have here := clear [name] rest rfl
    rw [contentAt] at here
    cases found : node files (base ++ [name]) with
    | none =>
      apply further
      intro other
      rw [contentAt, node_setNode (by simp)]
      by_cases same : other = base ++ [name]
      · rw [if_pos same, same, contentAt, found]
      · rw [if_neg same]
        rfl
    | some made =>
      rw [found] at here
      cases made with
      | directory => exact further files fun other => rfl
      | file content => cases here

/-- Moving a file into a directory, where it replaces what has its name. -/
theorem rename_returns {source target : Path} {content : Content} (closed : Closed files)
    (found : node files source = some (.file content)) (below : target ≠ [])
    (parent : node files target.dropLast = some .directory) (leaf : node files target ≠ some .directory) :
    ∃ next, rename source target files = .ok next ∧ Closed next ∧ ∀ other, node next other =
      if other = target then some (.file content) else if other = source then none else node files other := by
  have source_below : source ≠ [] := by
    rintro rfl
    rw [node_root] at found
    cases found
  have apart : target.dropLast ≠ source := by
    intro same
    rw [same, found] at parent
    cases parent
  have erased : Closed (files.erase source) := by
    apply closed_erase closed source_below
    rw [found]
    exact fun same => by cases same
  have made : ∀ other, node (setNode (files.erase source) target (.file content)) other =
      if other = target then some (.file content) else if other = source then none else node files other := by
    intro other
    rw [node_setNode below, node_erase source_below]
  have kept : Closed (setNode (files.erase source) target (.file content)) := by
    apply closed_setNode erased below
    · rw [node_erase source_below, if_neg apart, parent]
    · right
      rw [node_erase source_below]
      split
      · simp
      · exact leaf
  rw [rename, found]
  dsimp only
  cases there : node files target with
  | none =>
    rw [parent]
    exact ⟨_, rfl, kept, made⟩
  | some here =>
    cases here with
    | directory => exact absurd there leaf
    | file old => exact ⟨_, rfl, kept, made⟩

end Operations

/-- A program that works on files. -/
abbrev FileM (Content : Type) := Program (FileSystem Content)

end Files

end SoulClaw.Foundation
