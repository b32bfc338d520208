import SoulClaw.Evolution.Workspace
import Mathlib.Data.Finset.Image

/-! What the seed tree leaves in the workspace. Each step of the copy puts at a free path of the workspace what the seed
tree has at the same place, so that nothing is overwritten and a second copy finds nothing to do. -/

namespace SoulClaw.Evolution.Workspace
open Foundation Files Wiki.Storage

/-! Two trees and the copying between them. -/

/-- Two trees that lie apart, agree on what is a file and what is a directory, and the first of which can be made. -/
structure Seedable (root seedRoot : Path) (disk : Disk) : Prop where
  closed : Closed disk
  outside : ¬seedRoot <+: root
  inside : ¬root <+: seedRoot
  clear : ∀ above, above <+: root → contentAt disk above = none
  tree : contentAt disk seedRoot = none
  files : ∀ rest raw, contentAt disk (seedRoot ++ rest) = some raw → node disk (root ++ rest) ≠ some .directory
  directories : ∀ rest, node disk (seedRoot ++ rest) = some .directory → contentAt disk (root ++ rest) = none

/-- What is new above the workspace is a directory, and what is new in it is what the seed tree has there. -/
def Grown (root seedRoot : Path) (disk next : Disk) : Prop :=
  ∀ path, node next path = node disk path ∨ node disk path = none ∧
    (path <+: root ∧ node next path = some .directory ∨
      ∃ rest, path = root ++ rest ∧ node next path = node disk (seedRoot ++ rest))

theorem file_of_contentAt {disk : Disk} {path : Path} {raw : Raw} (found : contentAt disk path = some raw) :
    node disk path = some (.file raw) := by
  rw [contentAt] at found
  split at found
  next content file =>
    cases found
    exact file
  next => cases found

theorem contentAt_of_file {disk : Disk} {path : Path} {raw : Raw} (found : node disk path = some (.file raw)) :
    contentAt disk path = some raw := by rw [contentAt, found]

theorem contentAt_of_directory {disk : Disk} {path : Path} (found : node disk path = some .directory) :
    contentAt disk path = none := by rw [contentAt, found]

section Trees
variable {root seedRoot : Path} {disk next last : Disk}

theorem Grown.refl : Grown root seedRoot disk disk := fun _ => .inl rfl

/-- The seed tree stays as it is. -/
theorem Grown.seed (grown : Grown root seedRoot disk next) (seedable : Seedable root seedRoot disk) (rest : Path) :
    node next (seedRoot ++ rest) = node disk (seedRoot ++ rest) := by
  rcases grown (seedRoot ++ rest) with same | ⟨_, ⟨above, _⟩ | ⟨other, split, _⟩⟩
  · exact same
  · exact absurd ((List.prefix_append _ _).trans above) seedable.outside
  · rcases List.prefix_or_prefix_of_prefix (List.prefix_append seedRoot rest) ⟨other, split.symm⟩ with above | below
    · exact absurd above seedable.outside
    · exact absurd below seedable.inside

theorem Grown.trans (first : Grown root seedRoot disk next) (second : Grown root seedRoot next last)
    (seedable : Seedable root seedRoot disk) : Grown root seedRoot disk last := by
  intro path
  rcases second path with same | ⟨free, new⟩
  · rw [same]
    exact first path
  · have free' : node disk path = none := by
      rcases first path with same | ⟨free', _⟩
      · rw [← same, free]
      · exact free'
    refine .inr ⟨free', ?_⟩
    rcases new with directory | ⟨rest, split, copied⟩
    · exact .inl directory
    · exact .inr ⟨rest, split, by rw [copied, first.seed seedable]⟩

/-- What is there stays there. -/
theorem Grown.keeps_node (grown : Grown root seedRoot disk next) {path : Path} {made : Node Raw}
    (found : node disk path = some made) : node next path = some made := by
  rcases grown path with same | ⟨free, _⟩
  · rw [same, found]
  · rw [found] at free
    cases free

/-- A file keeps its content. -/
theorem Grown.keeps (grown : Grown root seedRoot disk next) {path : Path} {raw : Raw}
    (found : contentAt disk path = some raw) : contentAt next path = some raw :=
  contentAt_of_file (grown.keeps_node (file_of_contentAt found))

theorem Seedable.grow (seedable : Seedable root seedRoot disk) (grown : Grown root seedRoot disk next)
    (closed : Closed next) : Seedable root seedRoot next where
  closed := closed
  outside := seedable.outside
  inside := seedable.inside
  clear := by
    intro above inside
    rcases grown above with same | ⟨_, ⟨_, made⟩ | ⟨rest, split, copied⟩⟩
    · rw [contentAt_of_node same, seedable.clear above inside]
    · exact contentAt_of_directory made
    · have whole : rest = [] := by
        have shorter := inside.length_le
        rw [split, List.length_append] at shorter
        exact List.length_eq_zero_iff.1 (by omega)
      rw [whole, List.append_nil] at copied
      have tree := seedable.tree
      rw [contentAt] at tree ⊢
      rwa [copied]
  tree := by
    have same := grown.seed seedable []
    rw [List.append_nil] at same
    rw [contentAt_of_node same, seedable.tree]
  files := by
    intro rest raw found directory
    rw [contentAt_of_node (grown.seed seedable rest)] at found
    rcases grown (root ++ rest) with same | ⟨_, ⟨above, _⟩ | ⟨other, split, copied⟩⟩
    · exact seedable.files rest raw found (same ▸ directory)
    · have whole : rest = [] := by
        have shorter := above.length_le
        rw [List.length_append] at shorter
        exact List.length_eq_zero_iff.1 (by omega)
      rw [whole, List.append_nil, seedable.tree] at found
      cases found
    · rw [← List.append_cancel_left split, directory] at copied
      rw [contentAt_of_directory copied.symm] at found
      cases found
  directories := by
    intro rest found
    rw [grown.seed seedable] at found
    rcases grown (root ++ rest) with same | ⟨_, ⟨_, made⟩ | ⟨other, split, copied⟩⟩
    · rw [contentAt_of_node same, seedable.directories rest found]
    · exact contentAt_of_directory made
    · rw [← List.append_cancel_left split, found] at copied
      exact contentAt_of_directory copied

/-- A path above a place of the workspace is above the workspace, or the seed tree has a directory there. -/
theorem above_cases (seedable : Seedable root seedRoot disk) {rel front : Path}
    (directory : node disk (seedRoot ++ rel) = some .directory) (above : front <+: root ++ rel) :
    front <+: root ∨ ∃ rest, front = root ++ rest ∧ node disk (seedRoot ++ rest) = some .directory := by
  obtain ⟨back, split⟩ := above
  rcases List.append_eq_append_iff.1 split with ⟨middle, whole, _⟩ | ⟨middle, whole, rest⟩
  · exact .inl ⟨middle, whole.symm⟩
  · refine .inr ⟨middle, whole, ?_⟩
    rw [rest, ← List.append_assoc] at directory
    by_cases last : back = []
    · rw [last, List.append_nil] at directory
      exact directory
    · exact directory_above seedable.closed _ back last directory

/-- The directory of the workspace that a directory of the seed tree is copied to. -/
theorem makeDirectories_seed (seedable : Seedable root seedRoot disk) {rel : Path}
    (directory : node disk (seedRoot ++ rel) = some .directory) :
    ∃ next, makeDirectories [] (root ++ rel) disk = .ok next ∧ Seedable root seedRoot next ∧
      Grown root seedRoot disk next ∧ node next (root ++ rel) = some .directory ∧ filePaths next = filePaths disk := by
  obtain ⟨next, ran⟩ : ∃ next, makeDirectories [] (root ++ rel) disk = .ok next := by
    apply makeDirectories_returns
    intro front back split
    rw [List.nil_append]
    rcases above_cases seedable directory ⟨back, split.symm⟩ with above | ⟨rest, rfl, found⟩
    · exact seedable.clear front above
    · exact seedable.directories rest found
  obtain ⟨closed, way, others⟩ := makeDirectories_ok seedable.closed (node_root disk) ran
  have grown : Grown root seedRoot disk next := by
    intro path
    rcases others path with same | ⟨free, made, above⟩
    · exact .inl same
    · refine .inr ⟨free, ?_⟩
      rcases above_cases seedable directory above with outer | ⟨rest, split, found⟩
      · exact .inl ⟨outer, made⟩
      · exact .inr ⟨rest, split, by rw [made, found]⟩
  refine ⟨next, ran, seedable.grow grown closed, grown, ?_, ?_⟩
  · have whole := way (root ++ rel) [] (List.append_nil _).symm
    rwa [List.nil_append] at whole
  · exact filePaths_congr (contentAt_makeDirectories seedable.closed (node_root disk) ran)

/-- A file of the seed tree that the workspace has not is put there. -/
theorem change_seed (seedable : Seedable root seedRoot disk) {rest : Path} {raw : Raw}
    (file : node disk (seedRoot ++ rest) = some (.file raw)) (free : node disk (root ++ rest) = none)
    (parent : node disk (root ++ rest).dropLast = some .directory) :
    ∃ next, change (root ++ rest) (fun _ => raw) disk = .ok next ∧ Seedable root seedRoot next ∧
      Grown root seedRoot disk next ∧ contentAt next (root ++ rest) = some raw ∧
      (filePaths next).card = (filePaths disk).card + 1 := by
  have below : root ++ rest ≠ [] := by
    intro whole
    rw [whole, node_root] at free
    cases free
  have leaf : node disk (root ++ rest) ≠ some .directory := by
    rw [free]
    exact fun same => by cases same
  obtain ⟨next, ran, closed, written⟩ := change_returns seedable.closed below parent leaf fun _ => raw
  have grown : Grown root seedRoot disk next := by
    intro path
    rw [written]
    by_cases here : path = root ++ rest
    · rw [if_pos here, here]
      exact .inr ⟨free, .inr ⟨rest, rfl, file.symm⟩⟩
    · rw [if_neg here]
      exact .inl rfl
  refine ⟨next, ran, seedable.grow grown closed, grown, contentAt_of_file (by rw [written, if_pos rfl]), ?_⟩
  exact card_filePaths_change below ran (by rw [contentAt, free])

/-- The copy of a part of the seed tree, from a state on. -/
structure Copied (root seedRoot : Path) (disk next : Disk) (copied : Nat) : Prop where
  seedable : Seedable root seedRoot next
  grown : Grown root seedRoot disk next
  count : (filePaths next).card = (filePaths disk).card + copied

theorem Copied.trans {first second : Nat} (seedable : Seedable root seedRoot disk)
    (earlier : Copied root seedRoot disk next first) (later : Copied root seedRoot next last second) :
    Copied root seedRoot disk last (first + second) where
  seedable := later.seedable
  grown := earlier.grown.trans later.grown seedable
  count := by rw [later.count, earlier.count, Nat.add_assoc]

/-- Every file of the seed tree below a place is a file of the workspace. -/
def Complete (root seedRoot rel : Path) (disk : Disk) : Prop :=
  ∀ rest raw, contentAt disk (seedRoot ++ (rel ++ rest)) = some raw → (contentAt disk (root ++ (rel ++ rest))).isSome = true

theorem Complete.grow {rel : Path} (complete : Complete root seedRoot rel disk) (seedable : Seedable root seedRoot disk)
    (grown : Grown root seedRoot disk next) : Complete root seedRoot rel next := by
  intro rest raw found
  rw [contentAt_of_node (grown.seed seedable _)] at found
  obtain ⟨raw, kept⟩ := Option.isSome_iff_exists.1 (complete rest raw found)
  rw [grown.keeps kept]
  rfl

/-- A directory is complete if what it lists is. -/
theorem complete_of_children {rel : Path} (seedable : Seedable root seedRoot disk)
    (directory : node disk (seedRoot ++ rel) = some .directory)
    (each : ∀ name, (node disk (seedRoot ++ (rel ++ [name]))).isSome → Complete root seedRoot (rel ++ [name]) disk) :
    Complete root seedRoot rel disk := by
  intro rest raw found
  cases rest with
  | nil =>
    rw [List.append_nil, contentAt_of_directory directory] at found
    cases found
  | cons name rest =>
    have split : rel ++ name :: rest = rel ++ [name] ++ rest := by simp
    rw [split] at found ⊢
    refine each name ?_ rest raw found
    have file := file_of_contentAt found
    rw [← List.append_assoc] at file
    by_cases last : rest = []
    · rw [last, List.append_nil] at file
      rw [file]
      rfl
    · rw [directory_above seedable.closed _ rest last file]
      rfl

theorem complete_of_file {rel : Path} {raw : Raw} (seedable : Seedable root seedRoot disk)
    (file : node disk (seedRoot ++ rel) = some (.file raw)) (there : (contentAt disk (root ++ rel)).isSome = true) :
    Complete root seedRoot rel disk := by
  intro rest other found
  by_cases last : rest = []
  · rw [last, List.append_nil]
    exact there
  · have below := file_of_contentAt found
    rw [← List.append_assoc] at below
    rw [directory_above seedable.closed _ rest last below] at file
    cases file

theorem mem_children {dir : Path} {name : Name} : name ∈ children dir disk ↔ (node disk (dir ++ [name])).isSome := by
  rw [children, List.mem_filterMap, node_of_ne _ (by simp), AList.lookup_isSome, AList.mem_keys]
  constructor
  · rintro ⟨path, member, found⟩
    split at found
    next inside =>
      have split : path.dropLast ++ [name] = path := List.dropLast_append_getLast? name found
      rwa [← inside, split]
    next => cases found
  · intro member
    exact ⟨dir ++ [name], member, by rw [List.dropLast_concat, if_pos rfl, List.getLast?_concat]⟩

end Trees

/-! The recursion. -/

section Recursion
variable {root seedRoot : Path}

/-- What holds after the names that a directory has been copied for. -/
structure Progress (root seedRoot rel : Path) (disk : Disk) (done : List Name) (copied : Nat) (state : Disk) : Prop where
  copied : Copied root seedRoot disk state copied
  directory : node state (root ++ rel) = some .directory
  complete : ∀ name ∈ done, Complete root seedRoot (rel ++ [name]) state

theorem Progress.next {rel : Path} {disk state next : Disk} {done : List Name} {copied more : Nat} {name : Name}
    (progress : Progress root seedRoot rel disk done copied state) (seedable : Seedable root seedRoot disk)
    (further : Copied root seedRoot state next more) (complete : Complete root seedRoot (rel ++ [name]) next) :
    Progress root seedRoot rel disk (done ++ [name]) (copied + more) next where
  copied := progress.copied.trans seedable further
  directory := further.grown.keeps_node progress.directory
  complete := by
    intro other member
    rcases List.mem_append.1 member with earlier | new
    · exact (progress.complete other earlier).grow progress.copied.seedable further.grown
    · rw [List.mem_singleton.1 new]
      exact complete

theorem copied_none {disk : Disk} (seedable : Seedable root seedRoot disk) : Copied root seedRoot disk disk 0 :=
  ⟨seedable, Grown.refl, rfl⟩

/-- What the copy of a directory does with one name in it. -/
def copyEntry (depth : Nat) (src dst : Path) (copied : Nat) (name : Name) : FileM Raw Nat := do
  match ← Program.look fun disk => .ok (node disk (src ++ [name])) with
  | none => Program.ofExcept (.error notFound)
  | some .directory => return copied + (← copyMissingTree depth (src ++ [name]) (dst ++ [name]))
  | some (.file raw) => do
      if ← present (dst ++ [name]) then return copied
      Program.write (makeDirectories [] dst)
      Program.write (change (dst ++ [name]) fun _ => raw)
      return copied + 1

theorem exec_copyMissingTree {depth : Nat} {src dst : Path} {disk made : Disk}
    (directory : node disk src = some .directory) (ran : makeDirectories [] dst disk = .ok made) :
    (copyMissingTree (depth + 1) src dst).exec disk = ((children src made).foldlM (copyEntry depth src dst) 0).exec made := by
  rw [copyMissingTree, Program.exec_bind, Program.exec_look]
  dsimp only
  rw [directory]
  dsimp only
  rw [Program.exec_bind_of_ok _ (Program.exec_write_of_ok ran)]
  rfl

/-- The copy of a directory returns and completes it. -/
def Copies (root seedRoot rel : Path) (depth : Nat) (disk : Disk) : Prop :=
  ∃ copied next, (copyMissingTree depth (seedRoot ++ rel) (root ++ rel)).exec disk = (.ok copied, next) ∧
    Copied root seedRoot disk next copied ∧ Complete root seedRoot rel next

section Entries
variable {depth : Nat} {rel : Path} {disk state : Disk} {done : List Name} {copied : Nat} {name : Name}

theorem copyEntry_directory (progress : Progress root seedRoot rel disk done copied state)
    (seedable : Seedable root seedRoot disk)
    (found : node state (seedRoot ++ (rel ++ [name])) = some .directory)
    (copies : Copies root seedRoot (rel ++ [name]) depth state) :
    ∃ copied' next, (copyEntry depth (seedRoot ++ rel) (root ++ rel) copied name).exec state = (.ok copied', next) ∧
      Progress root seedRoot rel disk (done ++ [name]) copied' next := by
  obtain ⟨more, next, copies, further, complete⟩ := copies
  rw [← List.append_assoc, ← List.append_assoc] at copies
  rw [← List.append_assoc] at found
  refine ⟨copied + more, next, ?_, progress.next seedable further complete⟩
  rw [copyEntry, Program.exec_bind, Program.exec_look]
  dsimp only
  rw [found]
  dsimp only
  rw [Program.exec_bind_of_ok _ copies]
  rfl

theorem copyEntry_file (progress : Progress root seedRoot rel disk done copied state)
    (seedable : Seedable root seedRoot disk) {raw : Raw}
    (found : node state (seedRoot ++ (rel ++ [name])) = some (.file raw)) :
    ∃ copied' next, (copyEntry depth (seedRoot ++ rel) (root ++ rel) copied name).exec state = (.ok copied', next) ∧
      Progress root seedRoot rel disk (done ++ [name]) copied' next := by
  have seedable' := progress.copied.seedable
  have found' := found
  rw [← List.append_assoc] at found'
  rw [copyEntry, Program.exec_bind, Program.exec_look]
  dsimp only
  rw [found']
  dsimp only
  rw [Program.exec_bind, present, Program.exec_look]
  dsimp only
  cases target : node state (root ++ rel ++ [name]) with
  | some there =>
    have file : (contentAt state (root ++ (rel ++ [name]))).isSome = true := by
      have kind := seedable'.files (rel ++ [name]) raw (contentAt_of_file found)
      rw [← List.append_assoc, target] at kind
      rw [contentAt, ← List.append_assoc, target]
      cases there with
      | directory => exact absurd rfl kind
      | file old => rfl
    exact ⟨copied, state, rfl,
      progress.next seedable (copied_none seedable') (complete_of_file seedable' found file)⟩
  | none =>
    have parent : node state (root ++ (rel ++ [name])).dropLast = some .directory := by
      rw [← List.append_assoc, List.dropLast_concat]
      exact progress.directory
    obtain ⟨next, written, seedable'', grown, content, count⟩ :=
      change_seed seedable' found (by rw [← List.append_assoc, target]) parent
    rw [← List.append_assoc] at written
    refine ⟨copied + 1, next, ?_, progress.next seedable ⟨seedable'', grown, count⟩ ?_⟩
    · have existing := makeDirectories_existing seedable'.closed progress.directory
      rw [Option.isSome_none, if_neg Bool.false_ne_true,
        Program.exec_bind_of_ok _ (Program.exec_write_of_ok existing),
        Program.exec_bind_of_ok _ (Program.exec_write_of_ok written)]
      rfl
    · have file : node next (seedRoot ++ (rel ++ [name])) = some (.file raw) := by rw [grown.seed seedable', found]
      exact complete_of_file seedable'' file (by rw [content]; rfl)

end Entries

/-- The calls may be nested as deep as the directory is. -/
theorem copies_directory (depth : Nat) {rel : Path} {disk : Disk} (seedable : Seedable root seedRoot disk)
    (directory : node disk (seedRoot ++ rel) = some .directory)
    (deep : ∀ rest, node disk (seedRoot ++ (rel ++ rest)) = some .directory → rest.length < depth) :
    Copies root seedRoot rel depth disk := by
  induction depth generalizing rel disk with
  | zero =>
    have shallow := deep [] (by rw [List.append_nil, directory])
    exact absurd shallow (Nat.not_lt_zero _)
  | succ depth ih =>
    obtain ⟨made, ran, seedable', grown, there, paths⟩ := makeDirectories_seed seedable directory
    have start : Progress root seedRoot rel disk [] 0 made :=
      ⟨⟨seedable', grown, by rw [paths]; rfl⟩, there, fun _ member => absurd member List.not_mem_nil⟩
    have entry : ∀ done name later copied state, children (seedRoot ++ rel) made = done ++ name :: later →
        Progress root seedRoot rel disk done copied state → ∃ copied' next,
          (copyEntry depth (seedRoot ++ rel) (root ++ rel) copied name).exec state = (.ok copied', next) ∧
            Progress root seedRoot rel disk (done ++ [name]) copied' next := by
      intro done name later copied state split progress
      have same := progress.copied.grown.seed seedable
      have listed : (node state (seedRoot ++ (rel ++ [name]))).isSome = true := by
        rw [same, ← grown.seed seedable, ← List.append_assoc]
        exact mem_children.1 (split ▸ List.mem_append_right _ List.mem_cons_self)
      cases found : node state (seedRoot ++ (rel ++ [name])) with
      | none =>
        rw [found] at listed
        cases listed
      | some here =>
        cases here with
        | file raw => exact copyEntry_file progress seedable found
        | directory =>
          refine copyEntry_directory progress seedable found (ih progress.copied.seedable found ?_)
          intro rest inside
          rw [same, List.append_assoc] at inside
          exact Nat.lt_of_succ_lt_succ (deep (name :: rest) inside)
    obtain ⟨copied, next, copies, progress⟩ := Program.exec_foldlM (Progress root seedRoot rel disk) entry start
    refine ⟨copied, next, (exec_copyMissingTree directory ran).trans copies, progress.copied, ?_⟩
    have same := progress.copied.grown.seed seedable
    refine complete_of_children progress.copied.seedable (by rw [same, directory]) ?_
    intro name listed
    rw [same, ← grown.seed seedable, ← List.append_assoc] at listed
    exact progress.complete name (mem_children.2 listed)

/-- The copy of the seed tree, which may be missing. -/
theorem copies_tree {depth : Nat} (positive : 0 < depth) {disk : Disk} (seedable : Seedable root seedRoot disk)
    (deep : ∀ rest, node disk (seedRoot ++ rest) = some .directory → rest.length < depth) :
    Copies root seedRoot [] depth disk := by
  cases found : node disk seedRoot with
  | some here =>
    have directory : node disk (seedRoot ++ []) = some .directory := by
      have tree := seedable.tree
      rw [contentAt, found] at tree
      rw [List.append_nil, found]
      cases here with
      | directory => rfl
      | file raw => cases tree
    exact copies_directory depth seedable directory deep
  | none =>
    refine ⟨0, disk, ?_, copied_none seedable, ?_⟩
    · obtain ⟨depth, rfl⟩ := Nat.exists_eq_succ_of_ne_zero (Nat.ne_of_gt positive)
      rw [List.append_nil, copyMissingTree, Program.exec_bind, Program.exec_look]
      dsimp only
      rw [found]
      rfl
    · intro rest raw inside
      have file := file_of_contentAt inside
      rw [List.nil_append] at file
      by_cases last : rest = []
      · rw [last, List.append_nil, found] at file
        cases file
      · rw [directory_above seedable.closed _ rest last file] at found
        cases found

/-! The files that were missing. -/

/-- Where a file of the seed tree belongs. -/
def seedTarget (root seedRoot path : Path) : Path := root ++ path.drop seedRoot.length

def missingSeeds (root seedRoot : Path) (disk : Disk) : Finset Path :=
  (filePaths disk).filter fun path => seedRoot <+: path ∧ contentAt disk (seedTarget root seedRoot path) = none

theorem mem_missingSeeds {disk : Disk} {path : Path} : path ∈ missingSeeds root seedRoot disk ↔
    ∃ rest raw, path = seedRoot ++ rest ∧ contentAt disk path = some raw ∧ contentAt disk (root ++ rest) = none := by
  rw [missingSeeds, Finset.mem_filter, mem_filePaths, Option.isSome_iff_exists]
  constructor
  · rintro ⟨⟨raw, found⟩, ⟨rest, rfl⟩, free⟩
    rw [seedTarget, List.drop_left] at free
    exact ⟨rest, raw, rfl, found, free⟩
  · rintro ⟨rest, raw, rfl, found, free⟩
    refine ⟨⟨raw, found⟩, List.prefix_append _ _, ?_⟩
    rw [seedTarget, List.drop_left]
    exact free

section Missing
variable {disk next : Disk}

/-- A file of the workspace was there, or comes from the seed tree. -/
theorem Grown.origin (grown : Grown root seedRoot disk next) {path : Path} {raw : Raw}
    (found : contentAt next path = some raw) : contentAt disk path = some raw ∨
      contentAt disk path = none ∧ ∃ rest, path = root ++ rest ∧ contentAt disk (seedRoot ++ rest) = some raw := by
  have file := file_of_contentAt found
  rcases grown path with same | ⟨free, ⟨_, made⟩ | ⟨rest, split, copied⟩⟩
  · exact .inl (contentAt_of_node same ▸ found)
  · rw [made] at file
    cases file
  · rw [file] at copied
    exact .inr ⟨by rw [contentAt, free], rest, split, contentAt_of_file copied.symm⟩

theorem filePaths_seeded (seedable : Seedable root seedRoot disk) (grown : Grown root seedRoot disk next)
    (complete : Complete root seedRoot [] next) :
    filePaths next = filePaths disk ∪ (missingSeeds root seedRoot disk).image (seedTarget root seedRoot) := by
  ext path
  rw [Finset.mem_union, mem_filePaths, mem_filePaths, Finset.mem_image]
  constructor
  · intro there
    obtain ⟨raw, found⟩ := Option.isSome_iff_exists.1 there
    rcases grown.origin found with old | ⟨free, rest, rfl, copied⟩
    · exact .inl (by rw [old]; rfl)
    · refine .inr ⟨seedRoot ++ rest, mem_missingSeeds.2 ⟨rest, raw, rfl, copied, free⟩, ?_⟩
      rw [seedTarget, List.drop_left]
  · rintro (there | ⟨source, missing, rfl⟩)
    · obtain ⟨raw, found⟩ := Option.isSome_iff_exists.1 there
      rw [grown.keeps found]
      rfl
    · obtain ⟨rest, raw, rfl, found, _⟩ := mem_missingSeeds.1 missing
      rw [seedTarget, List.drop_left]
      rw [← contentAt_of_node (grown.seed seedable rest)] at found
      exact complete rest raw found

theorem card_missingSeeds (seedable : Seedable root seedRoot disk) {copied : Nat}
    (ended : Copied root seedRoot disk next copied) (complete : Complete root seedRoot [] next) :
    copied = (missingSeeds root seedRoot disk).card := by
  have injective : Set.InjOn (seedTarget root seedRoot) (missingSeeds root seedRoot disk) := by
    intro first member second other same
    obtain ⟨rest, _, rfl, _⟩ := mem_missingSeeds.1 member
    obtain ⟨rest', _, rfl, _⟩ := mem_missingSeeds.1 other
    rw [seedTarget, seedTarget, List.drop_left, List.drop_left] at same
    rw [List.append_cancel_left same]
  have disjoint : Disjoint (filePaths disk) ((missingSeeds root seedRoot disk).image (seedTarget root seedRoot)) := by
    rw [Finset.disjoint_right]
    intro path member known
    obtain ⟨source, missing, rfl⟩ := Finset.mem_image.1 member
    obtain ⟨rest, _, rfl, _, free⟩ := mem_missingSeeds.1 missing
    rw [mem_filePaths, seedTarget, List.drop_left, free] at known
    cases known
  have count := ended.count
  rw [filePaths_seeded seedable ended.grown complete, Finset.card_union_of_disjoint disjoint,
    Finset.card_image_of_injOn injective] at count
  omega

theorem missingSeeds_of_complete (complete : Complete root seedRoot [] disk) : missingSeeds root seedRoot disk = ∅ := by
  rw [Finset.eq_empty_iff_forall_notMem]
  intro path member
  obtain ⟨rest, raw, rfl, found, free⟩ := mem_missingSeeds.1 member
  have there := complete rest raw found
  rw [List.nil_append, free] at there
  cases there

/-- A file of the seed tree is in the workspace afterwards, unless the workspace had its own. -/
theorem Grown.copies (grown : Grown root seedRoot disk next) (seedable : Seedable root seedRoot disk)
    (complete : Complete root seedRoot [] next) {rest : Path} {raw : Raw}
    (found : contentAt disk (seedRoot ++ rest) = some raw) :
    contentAt next (root ++ rest) = some ((contentAt disk (root ++ rest)).getD raw) := by
  cases old : contentAt disk (root ++ rest) with
  | some content => rw [grown.keeps old, Option.getD_some]
  | none =>
    have there := complete rest raw (by rw [List.nil_append, contentAt_of_node (grown.seed seedable rest), found])
    rw [List.nil_append] at there
    obtain ⟨content, kept⟩ := Option.isSome_iff_exists.1 there
    rcases grown.origin kept with before | ⟨_, rest', split, copied⟩
    · rw [old] at before
      cases before
    · rw [← List.append_cancel_left split, found] at copied
      rw [kept, ← copied, Option.getD_none]

/-- Where no file is missing, nothing is added. -/
theorem Grown.idle (grown : Grown root seedRoot disk next) (nothing : missingSeeds root seedRoot disk = ∅) (path : Path) :
    contentAt next path = contentAt disk path := by
  cases before : contentAt disk path with
  | some raw => exact grown.keeps before
  | none =>
    cases after : contentAt next path with
    | none => rfl
    | some raw =>
      rcases grown.origin after with old | ⟨free, rest, rfl, copied⟩
      · rw [before] at old
        cases old
      · have missing := mem_missingSeeds.2 ⟨rest, raw, rfl, copied, free⟩
        rw [nothing] at missing
        cases missing

end Missing

/-- Seeding keeps every file, adds the missing files of the seed tree and no other, counts them, and finds nothing to do
when it is done again. -/
theorem seeding_never_overwrites (service : WorkspaceService) (positive : 0 < service.recursionLimit) {disk : Disk}
    (seedable : Seedable service.root service.seedRoot disk)
    (deep : ∀ rest, node disk (service.seedRoot ++ rest) = some .directory → rest.length < service.recursionLimit) :
    ∃ copied next, service.seedFromTemplate.exec disk = (.ok copied, next) ∧
      (∀ rest raw, contentAt disk (service.root ++ rest) = some raw →
        contentAt next (service.root ++ rest) = some raw) ∧
      (∀ rest raw, contentAt disk (service.seedRoot ++ rest) = some raw →
        contentAt next (service.root ++ rest) = some ((contentAt disk (service.root ++ rest)).getD raw)) ∧
      (∀ path raw, contentAt next path = some raw → contentAt disk path = some raw ∨
        ∃ rest, path = service.root ++ rest ∧ contentAt disk (service.seedRoot ++ rest) = some raw) ∧
      copied = (missingSeeds service.root service.seedRoot disk).card ∧
      ∃ last, service.seedFromTemplate.exec next = (.ok 0, last) ∧ ∀ path, contentAt last path = contentAt next path := by
  obtain ⟨copied, next, ran, ended, complete⟩ := copies_tree positive seedable deep
  have same := ended.grown.seed seedable
  have deep' : ∀ rest, node next (service.seedRoot ++ rest) = some .directory → rest.length < service.recursionLimit := by
    intro rest found
    rw [same] at found
    exact deep rest found
  obtain ⟨again, last, ran', ended', complete'⟩ := copies_tree positive ended.seedable deep'
  have nothing := missingSeeds_of_complete complete
  have zero := card_missingSeeds ended.seedable ended' complete'
  rw [nothing, Finset.card_empty] at zero
  rw [List.append_nil, List.append_nil] at ran ran'
  refine ⟨copied, next, ran, fun rest raw found => ended.grown.keeps found,
    fun rest raw found => ended.grown.copies seedable complete found, ?_,
    card_missingSeeds seedable ended complete, last, zero ▸ ran', ended'.grown.idle nothing⟩
  intro path raw found
  rcases ended.grown.origin found with old | ⟨_, rest, split, copied⟩
  · exact .inl old
  · exact .inr ⟨rest, split, copied⟩

end Recursion

/-! A workspace that has one of the two files of the seed tree. -/

def seedName : Name := ⟨"seed", by decide⟩

def homeName : Name := ⟨"home", by decide⟩

private def partialHome : Disk :=
  setNode (setNode (setNode (setNode (setNode (setNode ∅ [seedName] .directory) [seedName, soulName] (.file (some "# SOUL")))
    [seedName, memoryName] .directory) [seedName, memoryName, memoryFileName] (.file (some "# MEMORY"))) [homeName] .directory)
    [homeName, soulName] (.file (some "# Mine"))

private def homeService : WorkspaceService := ⟨[homeName], [seedName], 1000⟩

private theorem seeds_partialHome {rest : Path} {made : Node Raw} (found : node partialHome ([seedName] ++ rest) = some made) :
    rest ∈ [[], [soulName], [memoryName], [memoryName, memoryFileName]] := by
  have listed := mem_keys_of_node (by simp) found
  have keys : partialHome.keys = [[homeName, soulName], [homeName], [seedName, memoryName, memoryFileName],
      [seedName, memoryName], [seedName, soulName], [seedName]] := by decide +kernel
  have apart : seedName ≠ homeName := by decide
  rw [keys] at listed
  simp only [List.cons_append, List.nil_append, List.mem_cons, List.cons.injEq, List.not_mem_nil, apart, false_and,
    true_and, false_or, or_false] at listed
  simp only [List.mem_cons, List.not_mem_nil]
  tauto

theorem seeding_keeps_soul : ∃ copied next, homeService.seedFromTemplate.exec partialHome = (.ok copied, next) ∧
    contentAt next [homeName, soulName] = some (some "# Mine") ∧
    contentAt next [homeName, memoryName, memoryFileName] = some (some "# MEMORY") := by
  have seedable : Seedable homeService.root homeService.seedRoot partialHome := by
    refine ⟨by decide +kernel, by decide, by decide, ?_, by decide +kernel, ?_, ?_⟩
    · have above : ∀ above ∈ homeService.root.inits, contentAt partialHome above = none := by decide +kernel
      exact fun front inside => above front ((List.mem_inits _ _).2 inside)
    · intro rest raw found
      have kinds : ∀ rest ∈ [[], [soulName], [memoryName], [memoryName, memoryFileName]],
          (contentAt partialHome ([seedName] ++ rest)).isSome = true →
            node partialHome ([homeName] ++ rest) ≠ some .directory := by decide +kernel
      exact kinds rest (seeds_partialHome (file_of_contentAt found)) (Option.isSome_of_eq_some found)
    · intro rest found
      have kinds : ∀ rest ∈ [[], [soulName], [memoryName], [memoryName, memoryFileName]],
          node partialHome ([seedName] ++ rest) = some .directory →
            contentAt partialHome ([homeName] ++ rest) = none := by decide +kernel
      exact kinds rest (seeds_partialHome found) found
  have deep : ∀ rest, node partialHome (homeService.seedRoot ++ rest) = some .directory →
      rest.length < homeService.recursionLimit := by
    intro rest found
    have short : ∀ rest ∈ [[], [soulName], [memoryName], [memoryName, memoryFileName]], rest.length < 1000 := by decide
    exact short rest (seeds_partialHome found)
  obtain ⟨copied, next, ran, kept, added, _⟩ := seeding_never_overwrites homeService (by decide) seedable deep
  refine ⟨copied, next, ran, kept [soulName] _ (by decide +kernel), ?_⟩
  have free : contentAt partialHome (homeService.root ++ [memoryName, memoryFileName]) = none := by decide +kernel
  have memory := added [memoryName, memoryFileName] (some "# MEMORY") (by decide +kernel)
  rwa [free] at memory

end SoulClaw.Evolution.Workspace
