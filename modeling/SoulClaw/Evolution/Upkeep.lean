import SoulClaw.Evolution.Seeding

/-! `ensure_files` on a workspace that can be seeded. It returns, keeps what is there, and leaves the workspace ready for
the next call; what it adds to the history is empty or comes from the seed tree. -/

namespace SoulClaw.Evolution.Workspace
open Foundation Files Wiki.Storage

/-! Changes of the workspace that the seed tree does not contradict. -/

section Trees
variable {root seedRoot : Path} {disk next : Disk}

/-- The seed tree has nothing of another kind at the place of the workspace. -/
def Fits (root seedRoot : Path) (disk : Disk) (path : Path) : Node Raw → Prop
  | .file _ => ∃ rel, path = root ++ rel ∧ rel ≠ [] ∧ node disk (seedRoot ++ rel) ≠ some .directory
  | .directory => path <+: root ∨ ∃ rel, path = root ++ rel ∧ contentAt disk (seedRoot ++ rel) = none

theorem Seedable.apart (seedable : Seedable root seedRoot disk) (rest rel : Path) : seedRoot ++ rest ≠ root ++ rel := by
  intro same
  rcases List.prefix_or_prefix_of_prefix (List.prefix_append seedRoot rest) ⟨rel, same.symm⟩ with above | below
  · exact seedable.outside above
  · exact seedable.inside below

theorem Fits.outside {path : Path} {made : Node Raw} (fits : Fits root seedRoot disk path made)
    (seedable : Seedable root seedRoot disk) (rest : Path) : path ≠ seedRoot ++ rest := by
  intro here
  cases made with
  | file raw =>
    obtain ⟨rel, split, _⟩ := fits
    exact seedable.apart rest rel (here.symm.trans split)
  | directory =>
    rcases fits with above | ⟨rel, split, _⟩
    · exact seedable.outside ((List.prefix_append seedRoot rest).trans (here ▸ above))
    · exact seedable.apart rest rel (here.symm.trans split)

section Fitting
variable (seedable : Seedable root seedRoot disk)
  (fits : ∀ path, node next path = node disk path ∨ ∃ made, node next path = some made ∧ Fits root seedRoot disk path made)
include seedable fits

theorem Seedable.seeds (rest : Path) : node next (seedRoot ++ rest) = node disk (seedRoot ++ rest) := by
  rcases fits (seedRoot ++ rest) with same | ⟨made, _, fit⟩
  · exact same
  · exact absurd rfl (fit.outside seedable rest)

theorem Seedable.fit (closed : Closed next) : Seedable root seedRoot next where
  closed := closed
  outside := seedable.outside
  inside := seedable.inside
  clear := by
    intro above inside
    rcases fits above with same | ⟨made, new, fit⟩
    · rw [contentAt_of_node same, seedable.clear above inside]
    · cases made with
      | directory => exact contentAt_of_directory new
      | file raw =>
        obtain ⟨rel, rfl, below, _⟩ := fit
        have longer := inside.length_le
        rw [List.length_append] at longer
        have some' := List.length_pos_iff.2 below
        omega
  tree := by
    have same := seedable.seeds fits []
    rw [List.append_nil] at same
    rw [contentAt_of_node same, seedable.tree]
  files := by
    intro rest raw found directory
    rw [contentAt_of_node (seedable.seeds fits rest)] at found
    rcases fits (root ++ rest) with same | ⟨made, new, fit⟩
    · exact seedable.files rest raw found (same ▸ directory)
    · rw [new, Option.some.injEq] at directory
      subst directory
      rcases fit with above | ⟨rel, split, free⟩
      · have longer := above.length_le
        rw [List.length_append] at longer
        rw [List.length_eq_zero_iff.1 (show rest.length = 0 by omega), List.append_nil, seedable.tree] at found
        cases found
      · rw [← List.append_cancel_left split, found] at free
        cases free
  directories := by
    intro rest found
    rw [seedable.seeds fits] at found
    rcases fits (root ++ rest) with same | ⟨made, new, fit⟩
    · rw [contentAt_of_node same, seedable.directories rest found]
    · cases made with
      | directory => exact contentAt_of_directory new
      | file raw =>
        obtain ⟨rel, split, _, other⟩ := fit
        rw [← List.append_cancel_left split] at other
        exact absurd found other

end Fitting

end Trees

/-! The workspace between the calls. -/

def historyFile : Path := [memoryName, historyName]

/-- The files that are made if they are missing. -/
def managedFiles : List Path := workspaceFileMap.map Prod.snd ++ [historyFile]

/-- The workspace can be seeded, and the seed tree has neither directories in place of the files nor a file in place of
the directory. -/
structure Ready (service : WorkspaceService) (disk : Disk) : Prop where
  seedable : Seedable service.root service.seedRoot disk
  deep : ∀ rest, node disk (service.seedRoot ++ rest) = some .directory → rest.length < service.recursionLimit
  leaves : ∀ rel ∈ managedFiles, node disk (service.seedRoot ++ rel) ≠ some .directory
  seedMemory : contentAt disk (service.seedRoot ++ [memoryName]) = none
  memory : contentAt disk (service.root ++ [memoryName]) = none
  history : node disk service.historyPath ≠ some .directory

/-- A step of `ensure_files`. -/
structure Tended (service : WorkspaceService) (disk next : Disk) : Prop where
  ready : Ready service next
  keeps : ∀ path made, node disk path = some made → node next path = some made
  seeds : ∀ rest, node next (service.seedRoot ++ rest) = node disk (service.seedRoot ++ rest)
  origin : ∀ raw, contentAt next service.historyPath = some raw → contentAt disk service.historyPath = some raw ∨
    raw = some "" ∨ contentAt disk (service.seedRoot ++ historyFile) = some raw

section Steps
variable {service : WorkspaceService} {disk next last : Disk}

theorem Tended.refl (ready : Ready service disk) : Tended service disk disk :=
  ⟨ready, fun _ _ found => found, fun _ => rfl, fun _ found => .inl found⟩

theorem Tended.trans (first : Tended service disk next) (second : Tended service next last) : Tended service disk last where
  ready := second.ready
  keeps path made found := second.keeps path made (first.keeps path made found)
  seeds rest := (second.seeds rest).trans (first.seeds rest)
  origin raw found := by
    rcases second.origin raw found with old | blank | seeded
    · exact first.origin raw old
    · exact .inr (.inl blank)
    · exact .inr (.inr (contentAt_of_node (first.seeds historyFile) ▸ seeded))

theorem Tended.keeps_content (tended : Tended service disk next) {path : Path} {raw : Raw}
    (found : contentAt disk path = some raw) : contentAt next path = some raw :=
  contentAt_of_file (tended.keeps path _ (file_of_contentAt found))

/-- The workspace stays ready where the seed tree does not contradict what is made. -/
theorem Ready.fit (ready : Ready service disk) (closed : Closed next)
    (fits : ∀ path, node next path = node disk path ∨
      ∃ made, node next path = some made ∧ Fits service.root service.seedRoot disk path made)
    (memory : ∀ raw, node next (service.root ++ [memoryName]) ≠ some (.file raw))
    (history : node next service.historyPath ≠ some .directory) : Ready service next := by
  have seeds := ready.seedable.seeds fits
  refine ⟨ready.seedable.fit fits closed, ?_, ?_, ?_, ?_, history⟩
  · intro rest found
    rw [seeds] at found
    exact ready.deep rest found
  · intro rel managed
    rw [seeds]
    exact ready.leaves rel managed
  · rw [contentAt_of_node (seeds _), ready.seedMemory]
  · cases found : contentAt next (service.root ++ [memoryName]) with
    | none => rfl
    | some raw => exact absurd (file_of_contentAt found) (memory raw)

/-- What is made at free places of the workspace. -/
theorem tended_of_fits (ready : Ready service disk) (closed : Closed next)
    (fits : ∀ path, node next path = node disk path ∨ node disk path = none ∧
      ∃ made, node next path = some made ∧ Fits service.root service.seedRoot disk path made)
    (memory : ∀ raw, node next (service.root ++ [memoryName]) ≠ some (.file raw))
    (history : node next service.historyPath = node disk service.historyPath ∨
      ∃ raw, node next service.historyPath = some (.file raw) ∧
        (raw = some "" ∨ contentAt disk (service.seedRoot ++ historyFile) = some raw)) : Tended service disk next := by
  have loose : ∀ path, node next path = node disk path ∨
      ∃ made, node next path = some made ∧ Fits service.root service.seedRoot disk path made :=
    fun path => (fits path).imp_right And.right
  refine ⟨ready.fit closed loose memory ?_, ?_, ready.seedable.seeds loose, ?_⟩
  · rcases history with same | ⟨raw, new, _⟩
    · rw [same]
      exact ready.history
    · rw [new]
      exact fun same => by cases same
  · intro path made found
    rcases fits path with same | ⟨free, _⟩
    · rw [same, found]
    · rw [found] at free
      cases free
  · intro raw found
    rcases history with same | ⟨content, new, known⟩
    · exact .inl (contentAt_of_node same ▸ found)
    · rw [contentAt_of_file new, Option.some.injEq] at found
      exact .inr (found ▸ known)

theorem historyPath_eq (service : WorkspaceService) : service.historyPath = service.root ++ historyFile := rfl

/-- The workspace and its directory. -/
theorem tended_makeDirectories (ready : Ready service disk) {path : Path}
    (level : path = service.root ∨ path = service.root ++ [memoryName]) :
    ∃ next, makeDirectories [] path disk = .ok next ∧ Tended service disk next ∧ node next path = some .directory := by
  have above : ∀ front, front <+: path → front <+: service.root ∨ front = service.root ++ [memoryName] := by
    intro front inside
    rcases level with rfl | rfl
    · exact .inl inside
    · exact (List.prefix_concat_iff.1 inside).symm
  have clear : ∀ front, front <+: path → contentAt disk front = none := by
    intro front inside
    rcases above front inside with outer | rfl
    · exact ready.seedable.clear front outer
    · exact ready.memory
  have closed := ready.seedable.closed
  obtain ⟨next, ran⟩ := @makeDirectories_returns _ disk [] path fun front back split =>
    (List.nil_append front).symm ▸ clear front ⟨back, split.symm⟩
  obtain ⟨closed', way, others⟩ := makeDirectories_ok closed (node_root disk) ran
  have whole := way path [] (List.append_nil _).symm
  rw [List.nil_append] at whole
  refine ⟨next, ran, tended_of_fits ready closed' ?_ ?_ ?_, whole⟩
  · intro other
    rcases others other with same | ⟨free, made, inside⟩
    · exact .inl same
    · refine .inr ⟨free, .directory, made, ?_⟩
      rcases above other inside with outer | rfl
      · exact .inl outer
      · exact .inr ⟨[memoryName], rfl, ready.seedMemory⟩
  · intro raw found
    have same := contentAt_makeDirectories closed (node_root disk) ran (service.root ++ [memoryName])
    rw [contentAt_of_file found, ready.memory] at same
    cases same
  · rcases others service.historyPath with same | ⟨_, _, inside⟩
    · exact .inl same
    · exfalso
      have longer := inside.length_le
      rw [List.nil_append, historyPath_eq, List.length_append] at longer
      have two : historyFile.length = 2 := rfl
      rcases level with rfl | rfl
      · omega
      · rw [List.length_append, List.length_singleton] at longer
        omega

theorem tended_seed (positive : 0 < service.recursionLimit) (ready : Ready service disk) :
    ∃ copied next, service.seedFromTemplate.exec disk = (.ok copied, next) ∧ Tended service disk next := by
  obtain ⟨copied, next, ran, ended, _⟩ := copies_tree positive ready.seedable ready.deep
  rw [List.append_nil, List.append_nil] at ran
  refine ⟨copied, next, ran, tended_of_fits ready ended.seedable.closed ?_ ?_ ?_⟩
  · intro path
    rcases ended.grown path with same | ⟨free, ⟨above, made⟩ | ⟨rest, split, new⟩⟩
    · exact .inl same
    · exact .inr ⟨free, .directory, made, .inl above⟩
    · cases seeded : node disk (service.seedRoot ++ rest) with
      | none => exact .inl (by rw [new, seeded, free])
      | some made =>
        refine .inr ⟨free, made, by rw [new, seeded], ?_⟩
        cases made with
        | directory => exact .inr ⟨rest, split, contentAt_of_directory seeded⟩
        | file raw =>
          refine ⟨rest, split, ?_, by rw [seeded]; exact fun same => by cases same⟩
          rintro rfl
          rw [List.append_nil] at seeded
          have tree := ready.seedable.tree
          rw [contentAt_of_file seeded] at tree
          cases tree
  · intro raw found
    rcases ended.grown.origin (contentAt_of_file found) with old | ⟨_, rest, split, seeded⟩
    · rw [ready.memory] at old
      cases old
    · rw [← List.append_cancel_left split, ready.seedMemory] at seeded
      cases seeded
  · rcases ended.grown service.historyPath with same | ⟨free, ⟨above, _⟩ | ⟨rest, split, new⟩⟩
    · exact .inl same
    · have longer := above.length_le
      rw [historyPath_eq, List.length_append] at longer
      have two : historyFile.length = 2 := rfl
      omega
    · rw [← List.append_cancel_left split] at new
      cases seeded : node disk (service.seedRoot ++ historyFile) with
      | none => exact .inl (by rw [new, free]; exact seeded)
      | some made =>
        cases made with
        | directory => exact absurd seeded (ready.leaves historyFile (by simp [managedFiles]))
        | file raw => exact .inr ⟨raw, new.trans seeded, .inr (contentAt_of_file seeded)⟩

/-- The parents of the managed files. -/
structure Rooms (service : WorkspaceService) (disk : Disk) : Prop where
  root : node disk service.root = some .directory
  memory : node disk (service.root ++ [memoryName]) = some .directory

theorem Rooms.tend (rooms : Rooms service disk) (tended : Tended service disk next) : Rooms service next :=
  ⟨tended.keeps _ _ rooms.root, tended.keeps _ _ rooms.memory⟩

theorem Rooms.parent (rooms : Rooms service disk) {rel : Path} (managed : rel ∈ managedFiles) :
    rel ≠ [] ∧ node disk (service.root ++ rel).dropLast = some .directory := by
  have cases' : ∀ rel ∈ managedFiles, rel ≠ [] ∧ (rel.dropLast = [] ∨ rel.dropLast = [memoryName]) := by decide
  obtain ⟨below, level⟩ := cases' rel managed
  refine ⟨below, ?_⟩
  rw [List.dropLast_append_of_ne_nil below]
  rcases level with top | inside
  · rw [top, List.append_nil]
    exact rooms.root
  · rw [inside]
    exact rooms.memory

theorem tended_writeMissing (ready : Ready service disk) (rooms : Rooms service disk) {rel : Path}
    (managed : rel ∈ managedFiles) (content : String) (blank : rel = historyFile → content = "") :
    ∃ next, (writeMissing (service.root ++ rel) content).exec disk = (.ok (), next) ∧ Tended service disk next ∧
      (node next (service.root ++ rel)).isSome = true := by
  obtain ⟨below, parent⟩ := rooms.parent managed
  rw [writeMissing, Program.exec_bind, present, Program.exec_look]
  cases found : node disk (service.root ++ rel) with
  | some made => exact ⟨disk, rfl, Tended.refl ready, by rw [found]; rfl⟩
  | none =>
    have closed := ready.seedable.closed
    have here : service.root ++ rel ≠ [] := by simp [below]
    have leaf : node disk (service.root ++ rel) ≠ some .directory := by
      rw [found]
      exact fun same => by cases same
    obtain ⟨next, ran, closed', written⟩ := change_returns closed here parent leaf fun _ => some content
    have existing := makeDirectories_existing closed parent
    refine ⟨next, ?_, tended_of_fits ready closed' ?_ ?_ ?_, by rw [written, if_pos rfl]; rfl⟩
    · exact (Program.exec_bind_of_ok _ (Program.exec_write_of_ok existing)).trans (Program.exec_write_of_ok ran)
    · intro path
      rw [written]
      by_cases same : path = service.root ++ rel
      · rw [if_pos same, same]
        exact .inr ⟨found, _, rfl, rel, rfl, below, ready.leaves rel managed⟩
      · rw [if_neg same]
        exact .inl rfl
    · intro raw other
      rw [written, if_neg] at other
      · rw [rooms.memory] at other
        cases other
      · intro same
        have apart : [memoryName] ∉ managedFiles := by decide
        exact apart (List.append_cancel_left same ▸ managed)
    · rw [written]
      by_cases same : service.historyPath = service.root ++ rel
      · have whole : rel = historyFile := (List.append_cancel_left same).symm
        rw [if_pos same, blank whole]
        exact .inr ⟨_, rfl, .inl rfl⟩
      · rw [if_neg same]
        exact .inl rfl

end Steps

/-- `ensure_files` returns, and the history is there. -/
theorem ensureFiles_returns {service : WorkspaceService} (positive : 0 < service.recursionLimit) {disk : Disk}
    (ready : Ready service disk) : ∃ next, service.ensureFiles.exec disk = (.ok (), next) ∧ Tended service disk next ∧
      ∃ raw, contentAt next service.historyPath = some raw := by
  obtain ⟨first, rooted, tended₁, root⟩ := tended_makeDirectories ready (.inl rfl)
  obtain ⟨copied, second, seeded, tended₂⟩ := tended_seed positive tended₁.ready
  obtain ⟨third, made, tended₃, memory⟩ := tended_makeDirectories tended₂.ready (.inr rfl)
  have rooms : Rooms service third := ⟨tended₃.keeps _ _ (tended₂.keeps _ _ root), memory⟩
  obtain ⟨fourth, filled, tended₄, rooms'⟩ := @Program.exec_forM _ third _
    (fun entry => writeMissing (service.root ++ entry.2) ((defaultWorkspaceFiles.lookup entry.1).getD "")) workspaceFileMap
    (fun _ disk => Tended service third disk ∧ Rooms service disk)
    (by
      intro done entry later state split kept
      have managed : entry.2 ∈ managedFiles :=
        List.mem_append_left _ (List.mem_map_of_mem (split ▸ List.mem_append_right _ List.mem_cons_self))
      have other : entry.2 ≠ historyFile := by
        have apart : ∀ entry ∈ workspaceFileMap, entry.2 ≠ historyFile := by decide
        exact apart entry (split ▸ List.mem_append_right _ List.mem_cons_self)
      obtain ⟨next, ran, tended, _⟩ := tended_writeMissing kept.1.ready kept.2 managed
        ((defaultWorkspaceFiles.lookup entry.1).getD "") fun same => absurd same other
      exact ⟨next, ran, kept.1.trans tended, kept.2.tend tended⟩)
    ⟨Tended.refl tended₃.ready, rooms⟩
  obtain ⟨last, written, tended₅, there⟩ :=
    @tended_writeMissing service fourth tended₄.ready rooms' historyFile (by simp [managedFiles]) "" fun _ => rfl
  have tended := ((tended₁.trans tended₂).trans tended₃).trans (tended₄.trans tended₅)
  refine ⟨last, ?_, tended, ?_⟩
  · rw [WorkspaceService.ensureFiles, Program.exec_bind_of_ok _ (Program.exec_write_of_ok rooted),
      Program.exec_bind_of_ok _ seeded, Program.exec_bind_of_ok _ (Program.exec_write_of_ok made),
      Program.exec_bind_of_ok _ filled]
    exact written
  · obtain ⟨kind, found⟩ := Option.isSome_iff_exists.1 there
    cases kind with
    | directory => exact absurd found tended.ready.history
    | file raw => exact ⟨raw, contentAt_of_file found⟩

/-- A managed file that is there can be changed. -/
theorem Ready.change {service : WorkspaceService} {disk : Disk} (ready : Ready service disk) {rel : Path}
    (managed : rel ∈ managedFiles) {raw : Raw} (found : contentAt disk (service.root ++ rel) = some raw)
    (content : Option Raw → Raw) : ∃ next, Files.change (service.root ++ rel) content disk = .ok next ∧ Ready service next ∧
      ∀ other, contentAt next other = if other = service.root ++ rel then some (content (some raw)) else contentAt disk other := by
  have file := file_of_contentAt found
  have closed := ready.seedable.closed
  have kinds : ∀ rel ∈ managedFiles, rel ≠ [] ∧ rel ≠ [memoryName] := by decide
  obtain ⟨some', apart⟩ := kinds rel managed
  have below : service.root ++ rel ≠ [] := by simp [some']
  have parent := closed _ (mem_keys_of_node below file)
  have leaf : node disk (service.root ++ rel) ≠ some .directory := by
    rw [file]
    exact fun same => by cases same
  obtain ⟨next, ran, closed', written⟩ := change_returns closed below parent leaf content
  refine ⟨next, ran, ready.fit closed' ?_ ?_ ?_, ?_⟩
  · intro path
    rw [written]
    by_cases here : path = service.root ++ rel
    · rw [if_pos here]
      exact .inr ⟨_, rfl, rel, here, some', ready.leaves rel managed⟩
    · rw [if_neg here]
      exact .inl rfl
  · intro old other
    rw [written, if_neg] at other
    · have memory := ready.memory
      rw [contentAt_of_file other] at memory
      cases memory
    · exact fun same => apart (List.append_cancel_left same).symm
  · rw [written]
    split
    · exact fun same => by cases same
    · exact ready.history
  · intro other
    rw [contentAt_change below ran, found]

/-- A workspace without a seed tree. -/
theorem ready_of_unseeded {service : WorkspaceService} {disk : Disk} (closed : Closed disk)
    (outside : ¬service.seedRoot <+: service.root) (inside : ¬service.root <+: service.seedRoot)
    (unseeded : ∀ path ∈ disk.keys, ¬service.seedRoot <+: path)
    (clear : ∀ above ∈ service.root.inits, contentAt disk above = none)
    (memory : contentAt disk (service.root ++ [memoryName]) = none)
    (history : node disk service.historyPath ≠ some .directory) : Ready service disk := by
  have free : ∀ rest, node disk (service.seedRoot ++ rest) = none := by
    intro rest
    have below : service.seedRoot ++ rest ≠ [] := by
      intro same
      exact outside ((List.append_eq_nil_iff.1 same).1 ▸ List.nil_prefix)
    by_contra there
    obtain ⟨made, found⟩ := Option.ne_none_iff_exists'.1 there
    exact unseeded _ (mem_keys_of_node below found) (List.prefix_append _ _)
  have bare : ∀ rest, contentAt disk (service.seedRoot ++ rest) = none := by
    intro rest
    rw [contentAt, free]
  refine ⟨⟨closed, outside, inside, ?_, ?_, ?_, ?_⟩, ?_, ?_, bare _, memory, history⟩
  · exact fun above front => clear above ((List.mem_inits _ _).2 front)
  · have top := bare []
    rwa [List.append_nil] at top
  · intro rest raw found
    rw [bare] at found
    cases found
  · intro rest found
    rw [free] at found
    cases found
  · intro rest found
    rw [free] at found
    cases found
  · intro rel _ found
    rw [free] at found
    cases found

end SoulClaw.Evolution.Workspace
