import SoulClaw.Skills.Rollback

/-! Which files of a package can be written, told by the tree and the paths before them, and which trees can be
scanned. -/

namespace SoulClaw.Skills.Writing
open Foundation Files Lines Wiki.Storage Package Storage Service Applied Rollback

section Fits
variable {dir : Path} {disk next : Disk} {file : String × String}

/-- The path stands strictly above the other one. -/
def Above (path other : Path) : Prop := path <+: other ∧ path ≠ other

/-- The file can be written after the earlier ones. -/
structure Fits (dir : Path) (disk : Disk) (earlier : List (String × String)) (file : String × String) : Prop where
  safe : safeChild dir file.1 = .ok (place dir file.1)
  below : place dir file.1 ≠ []
  clear : ∀ path, Above path (place dir file.1) →
    contentAt disk path = none ∧ ∀ other ∈ earlier, place dir other.1 ≠ path
  leaf : node disk (place dir file.1) ≠ some .directory ∧ ∀ other ∈ earlier, ¬Above (place dir file.1) (place dir other.1)

/-- The files can be written one after the other, after the earlier ones. -/
def Fitting (dir : Path) (disk : Disk) (earlier files : List (String × String)) : Prop :=
  ∀ front file back, files = front ++ file :: back → Fits dir disk (earlier ++ front) file

/-- The state after some files have been written. -/
structure Wrote (dir : Path) (disk : Disk) (earlier : List (String × String)) (current : Disk) : Prop where
  closed : Closed current
  contents : contentAt current = earlier.foldl (written dir) (contentAt disk)
  paved : ∀ path, node current path = some .directory ↔
    node disk path = some .directory ∨ ∃ file ∈ earlier, Above path (place dir file.1)

theorem above_iff_dropLast {path other : Path} (below : other ≠ []) : Above path other ↔ path <+: other.dropLast := by
  obtain ⟨front, last, rfl⟩ := List.eq_nil_or_concat other |>.resolve_left below
  rw [List.concat_eq_append, List.dropLast_concat, Above, List.prefix_concat_iff]
  constructor
  · rintro ⟨whole | inside, different⟩
    · exact absurd whole different
    · exact inside
  · intro inside
    refine ⟨.inr inside, ?_⟩
    rintro rfl
    have longer := inside.length_le
    simp at longer

theorem clear_iff {target : Path} (below : target ≠ []) {contents : Path → Option Raw} :
    (∀ path, Above path target → contents path = none) ↔
      ∀ front back, target.dropLast = front ++ back → contents ([] ++ front) = none := by
  simp only [above_iff_dropLast below, List.nil_append]
  constructor
  · intro clear front back split
    exact clear front (split ▸ List.prefix_append ..)
  · rintro clear path ⟨back, split⟩
    exact clear path back split.symm

/-- A file is written when its path is free of files and no directory stands at its end. -/
theorem writeFile_iff (closed : Closed disk) :
    (∃ next, (writeFile dir file).exec disk = (.ok (), next)) ↔ Fits dir disk [] file := by
  constructor
  · rintro ⟨next, ran⟩
    obtain ⟨_, inside, leaf, _⟩ := writeFile_ok closed ran
    rw [writeFile, Program.exec_bind, Program.exec_ofExcept] at ran
    cases safe : safeChild dir file.1 with
    | error raised =>
      rw [safe] at ran
      cases ran
    | ok target =>
      obtain ⟨rfl, _, _⟩ := safeChild_ok safe
      rw [safe] at ran
      dsimp only at ran
      rw [Program.exec_bind, Program.exec_write] at ran
      cases made : makeDirectories [] (place dir file.1).dropLast disk with
      | error raised =>
        rw [made] at ran
        cases ran
      | ok between =>
        have below : place dir file.1 ≠ [] := by
          intro root
          rw [root, node_root] at leaf
          exact leaf rfl
        refine ⟨safe, below, ?_, leaf, fun other member => by cases member⟩
        intro path above
        refine ⟨?_, fun other member => by cases member⟩
        rw [← contentAt_makeDirectories closed (node_root disk) made]
        obtain ⟨back, split⟩ := (above_iff_dropLast below).1 above
        have directory := (makeDirectories_ok closed (node_root disk) made).2.1 path back split.symm
        rw [List.nil_append] at directory
        rw [contentAt, directory]
  · intro fits
    have clear : ∀ front back, (place dir file.1).dropLast = front ++ back → contentAt disk ([] ++ front) = none :=
      (clear_iff fits.below).1 fun path above => (fits.clear path above).1
    obtain ⟨between, made⟩ := makeDirectories_returns clear
    obtain ⟨closed', way, others⟩ := makeDirectories_ok closed (node_root disk) made
    have parent : node between (place dir file.1).dropLast = some .directory := by
      have directory := way _ [] (List.append_nil _).symm
      rwa [List.nil_append] at directory
    have leaf : node between (place dir file.1) ≠ some .directory := by
      rcases others (place dir file.1) with same | ⟨_, _, inside⟩
      · rw [same]
        exact fits.leaf.1
      · rw [List.nil_append] at inside
        exact absurd rfl ((above_iff_dropLast fits.below).2 inside).2
    obtain ⟨next, changed, _⟩ := change_returns closed' fits.below parent leaf fun _ => some file.2
    have safe : (Program.ofExcept (safeChild dir file.1) : FileM Raw Path).exec disk = (.ok (place dir file.1), disk) := by
      rw [Program.exec_ofExcept, fits.safe]
    refine ⟨next, ?_⟩
    rw [writeFile, Program.exec_bind_of_ok _ safe, Program.exec_bind_of_ok _ (Program.exec_write_of_ok made),
      Program.exec_write_of_ok changed]

/-- Writing a file makes the directories above it, and no others. -/
theorem paved_writeFile (closed : Closed disk) (ran : (writeFile dir file).exec disk = (.ok (), next)) (path : Path) :
    node next path = some .directory ↔ node disk path = some .directory ∨ Above path (place dir file.1) := by
  have fits := (writeFile_iff closed).1 ⟨next, ran⟩
  have safe : (Program.ofExcept (safeChild dir file.1) : FileM Raw Path).exec disk = (.ok (place dir file.1), disk) := by
    rw [Program.exec_ofExcept, fits.safe]
  have clear : ∀ front back, (place dir file.1).dropLast = front ++ back → contentAt disk ([] ++ front) = none :=
    (clear_iff fits.below).1 fun path above => (fits.clear path above).1
  obtain ⟨between, made⟩ := makeDirectories_returns clear
  obtain ⟨_, way, others⟩ := makeDirectories_ok closed (node_root disk) made
  rw [writeFile, Program.exec_bind_of_ok _ safe, Program.exec_bind_of_ok _ (Program.exec_write_of_ok made),
    Program.exec_write] at ran
  cases changed : change (place dir file.1) (fun _ => some file.2) between with
  | error raised =>
    rw [changed] at ran
    cases ran
  | ok last =>
    rw [changed] at ran
    cases ran
    have after := (change_ok fits.below changed).2 path
    rw [above_iff_dropLast fits.below]
    constructor
    · intro directory
      rw [directory] at after
      by_cases here : path = place dir file.1
      · rw [if_pos here] at after
        cases after
      · rw [if_neg here] at after
        rcases others path with same | ⟨_, _, inside⟩
        · exact .inl (same.symm.trans after.symm)
        · exact .inr inside
    · intro either
      have different : path ≠ place dir file.1 := by
        rintro rfl
        rcases either with old | inside
        · exact fits.leaf.1 old
        · exact ((above_iff_dropLast fits.below).2 inside).2 rfl
      rw [after, if_neg different]
      rcases either with old | ⟨back, split⟩
      · rcases others path with same | ⟨free, _⟩
        · rw [same, old]
        · rw [old] at free
          cases free
      · have directory := way path back split.symm
        rwa [List.nil_append] at directory

theorem Wrote.start (closed : Closed disk) : Wrote dir disk [] disk where
  closed := closed
  contents := rfl
  paved path := by simp

section Wrote
variable {earlier : List (String × String)} {current : Disk} (wrote : Wrote dir disk earlier current)
include wrote

theorem Wrote.snoc (ran : (writeFile dir file).exec current = (.ok (), next)) : Wrote dir disk (earlier ++ [file]) next where
  closed := (writeFile_ok wrote.closed ran).1
  contents := by
    rw [(writeFile_ok wrote.closed ran).2.2.2, wrote.contents, List.foldl_append]
    rfl
  paved path := by
    rw [paved_writeFile wrote.closed ran, wrote.paved, or_assoc]
    apply or_congr_right
    constructor
    · rintro (⟨other, member, above⟩ | above)
      · exact ⟨other, List.mem_append_left _ member, above⟩
      · exact ⟨file, by simp, above⟩
    · rintro ⟨other, member, above⟩
      rcases List.mem_append.1 member with old | last
      · exact .inl ⟨other, old, above⟩
      · rw [List.mem_singleton.1 last] at above
        exact .inr above

theorem Wrote.none_iff (path : Path) : contentAt current path = none ↔
    contentAt disk path = none ∧ ∀ other ∈ earlier, place dir other.1 ≠ path := by
  rw [wrote.contents]
  rcases foldl_written_cases earlier (contentAt disk) path with ⟨apart, same⟩ | ⟨other, member, there, same⟩
  · rw [same]
    exact ⟨fun none => ⟨none, apart⟩, And.left⟩
  · rw [same]
    constructor
    · intro none
      cases none
    · rintro ⟨_, apart⟩
      exact absurd there (apart other member)

/-- What fits after some files, fits in the state that they leave. -/
theorem Wrote.fits_iff : Fits dir current [] file ↔ Fits dir disk earlier file := by
  constructor
  · intro fits
    refine ⟨fits.safe, fits.below, fun path above => (wrote.none_iff path).1 (fits.clear path above).1, ?_⟩
    have leaf := fits.leaf.1
    rw [ne_eq, wrote.paved, not_or, not_exists] at leaf
    exact ⟨leaf.1, fun other member above => leaf.2 other ⟨member, above⟩⟩
  · intro fits
    refine ⟨fits.safe, fits.below, ?_, ?_, fun other member => by cases member⟩
    · intro path above
      exact ⟨(wrote.none_iff path).2 (fits.clear path above), fun other member => by cases member⟩
    · rw [ne_eq, wrote.paved, not_or, not_exists]
      exact ⟨fits.leaf.1, fun other ⟨member, above⟩ => fits.leaf.2 other member above⟩

/-- The loop writes the files that fit, up to the first one that does not. -/
theorem Wrote.writeFiles (files : List (String × String)) : ∃ front back returned last, files = front ++ back ∧
    (writeFiles dir files).exec current = (returned, last) ∧ Fitting dir disk earlier front ∧ Closed last ∧
      contentAt last = (earlier ++ front).foldl (written dir) (contentAt disk) ∧
      (back = [] ∧ returned = .ok () ∨
        ∃ file rest raised, back = file :: rest ∧ ¬Fits dir disk (earlier ++ front) file ∧ returned = .error raised) := by
  induction files generalizing earlier current with
  | nil =>
    refine ⟨[], [], .ok (), current, rfl, rfl, ?_, wrote.closed, by rw [List.append_nil, wrote.contents], .inl ⟨rfl, rfl⟩⟩
    intro front file back split
    simp at split
  | cons file rest ih =>
    by_cases fits : Fits dir current [] file
    · obtain ⟨next, ran⟩ := (writeFile_iff wrote.closed).2 fits
      obtain ⟨front, back, returned, last, split, ran', fitting, closed, contents, ends⟩ := ih (wrote.snoc ran)
      rw [List.append_assoc, List.singleton_append] at contents ends
      refine ⟨file :: front, back, returned, last, by rw [split, List.cons_append], ?_, ?_, closed, contents, ends⟩
      · rw [Storage.writeFiles, Program.exec_bind_of_ok _ ran, ran']
      · intro front' other back' split'
        cases front' with
        | nil =>
          rw [List.nil_append, List.cons.injEq] at split'
          rw [List.append_nil, ← split'.1]
          exact wrote.fits_iff.1 fits
        | cons first front' =>
          rw [List.cons_append, List.cons.injEq] at split'
          have later := fitting front' other back' split'.2
          rw [List.append_assoc, List.singleton_append, split'.1] at later
          exact later
    · cases ran : (writeFile dir file).exec current with
      | mk outcome last =>
        cases outcome with
        | ok done => exact absurd ((writeFile_iff wrote.closed).1 ⟨last, ran⟩) fits
        | error raised =>
          obtain ⟨closed, contents⟩ := writeFile_error wrote.closed ran
          refine ⟨[], file :: rest, .error raised, last, rfl, ?_, ?_, closed, ?_, .inr ⟨file, rest, raised, rfl, ?_, rfl⟩⟩
          · rw [Storage.writeFiles, Program.exec_bind_of_error _ ran]
          · intro front' other back' split'
            simp at split'
          · rw [contents, wrote.contents, List.append_nil]
          · rw [List.append_nil]
            exact fun there => fits (wrote.fits_iff.2 there)

end Wrote

end Fits

/-! Scanning. -/

section Scan
variable [CharData] [DateData] {service : SkillService} {disk next : Disk} {session : Session} {dir : Path}

/-- Every SKILL.md that is a text has frontmatter that loads. -/
def Scannable (service : SkillService) (contents : Path → Option Raw) : Prop :=
  ∀ dir text, (contents (service.root ++ dir ++ [manifestName])).bind decoded = some text →
    ∃ parts, service.parseSkillMarkdown text = .ok parts

omit [CharData] [DateData] in
theorem mem_skillDirs {root : Path} : dir ∈ skillDirs root disk ↔ root ++ dir ++ [manifestName] ∈ disk.keys := by
  rw [skillDirs, List.mem_map]
  simp only [List.mem_insertionSort, List.mem_filter, List.mem_filterMap, decide_eq_true_eq]
  constructor
  · rintro ⟨path, ⟨⟨whole, member, inside⟩, last⟩, rfl⟩
    obtain ⟨rfl, _⟩ := relative_eq_some.1 inside
    rw [List.append_assoc, List.dropLast_append_getLast? _ last]
    exact member
  · intro member
    refine ⟨dir ++ [manifestName], ⟨⟨_, member, relative_eq_some.2 ⟨List.append_assoc .., by simp⟩⟩, by simp⟩, by simp⟩

omit [CharData] [DateData] in
theorem get_manifest (dir : Path) (disk : Disk) :
    (readSkillFiles dir disk).get "SKILL.md" = (contentAt disk (dir ++ [manifestName])).bind decoded := by
  have own : posix [manifestName] = "SKILL.md" := by decide +kernel
  have visible : ∀ text, visibleAt dir disk [manifestName] = some text ↔
      (contentAt disk (dir ++ [manifestName])).bind decoded = some text := by
    intro text
    rw [visibleAt_eq_some]
    exact ⟨fun shown => shown.2.2, fun read => ⟨by simp, by decide +kernel, read⟩⟩
  apply Option.ext
  intro text
  rw [get_readSkillFiles, ← visible]
  constructor
  · rintro ⟨path, same, read⟩
    have below := (visibleAt_eq_some.1 read).1
    rwa [posix_injective (by simp) below (own.trans same)]
  · exact fun read => ⟨_, own.symm, read⟩

omit [DateData] in
/-- The manifest of a directory is read, unless it is a text whose frontmatter does not load. -/
theorem manifestOf_returns_iff : (∃ parts, manifestOf service dir disk = .ok parts) ↔
    ∀ text, (contentAt disk (service.root ++ dir ++ [manifestName])).bind decoded = some text →
      ∃ parts, service.parseSkillMarkdown text = .ok parts := by
  rw [manifestOf, filesOf, get_manifest]
  cases read : (contentAt disk (service.root ++ dir ++ [manifestName])).bind decoded with
  | none =>
    constructor
    · intro _ text absurd'
      cases absurd'
    · intro _
      exact ⟨([], ""), rfl⟩
  | some text =>
    constructor
    · rintro loads _ same
      cases same
      exact loads
    · intro loads
      exact loads text rfl

theorem scanTree_returns_iff (dirs : List Path) : (∃ last, dirs.foldlM (scanDir service disk) session = .ok last) ↔
    ∀ dir ∈ dirs, ∃ parts, manifestOf service dir disk = .ok parts := by
  induction dirs generalizing session with
  | nil => exact ⟨fun _ dir member => (by cases member), fun _ => ⟨session, rfl⟩⟩
  | cons dir rest ih =>
    rw [List.foldlM_cons, List.forall_mem_cons]
    constructor
    · rintro ⟨last, ran⟩
      obtain ⟨middle, first, others⟩ := bind_eq_ok.1 ran
      obtain ⟨parts, loads, _⟩ := bind_eq_ok.1 first
      exact ⟨⟨parts, loads⟩, ih.1 ⟨last, others⟩⟩
    · rintro ⟨⟨parts, loads⟩, others⟩
      have first : ∃ middle, scanDir service disk session dir = .ok middle := by
        rw [scanDir, loads]
        exact ⟨_, rfl⟩
      obtain ⟨middle, first⟩ := first
      obtain ⟨last, ran⟩ := ih.2 others
      exact ⟨last, bind_eq_ok.2 ⟨middle, first, ran⟩⟩

/-- A tree is scanned when every manifest loads. -/
theorem scan_returns_iff (closed : Closed disk) (inside : node disk service.root = some .directory) :
    (∃ result next, (scan service session).exec disk = (.ok result, next)) ↔ Scannable service (contentAt disk) := by
  have made := makeDirectories_existing closed inside
  have ran : (scan service session).exec disk = ((scanTree service disk session).map
      fun session => ((skillDirs service.root disk).length, session), disk) := by
    rw [scan, Program.exec_bind_of_ok _ (Program.exec_write_of_ok made), Program.exec_look]
  have loads : (∃ last, scanTree service disk session = .ok last) ↔ Scannable service (contentAt disk) := by
    rw [scanTree, scanTree_returns_iff]
    constructor
    · intro all dir text read
      refine manifestOf_returns_iff.1 (all dir (mem_skillDirs.2 ?_)) text read
      obtain ⟨raw, found, _⟩ := Option.bind_eq_some_iff.1 read
      rw [contentAt] at found
      split at found
      next there => exact mem_keys_of_node (by simp) there
      next => cases found
    · intro scannable dir _
      exact manifestOf_returns_iff.2 (scannable dir)
  rw [← loads, ran]
  constructor
  · rintro ⟨result, next, same⟩
    rw [Prod.mk.injEq, map_eq_ok] at same
    obtain ⟨⟨last, found, _⟩, _⟩ := same
    exact ⟨last, found⟩
  · rintro ⟨last, found⟩
    rw [found]
    exact ⟨_, _, rfl⟩

end Scan

end SoulClaw.Skills.Writing
