import SoulClaw.Skills.Package
import SoulClaw.Wiki.Keys

/-! The directory of a skill: the texts that are visible there, and the loop that writes files into it. -/

namespace SoulClaw.Skills.Storage
open Foundation Files Lines Wiki Wiki.Storage Package
open Wiki.Markdown (keyChar subRuns)

/-! Reading. -/

/-- A part begins with a dot. -/
def hidden (path : Path) : Bool := path.any fun name => name.val.toList.head? = some '.'

/-- `path.read_text(encoding="utf-8")`, where it decodes. -/
def decoded (raw : Raw) : Option String := raw.map fun text => String.ofList (universalNewlines text.toList)

def visibleText : Node Raw → Option String
  | .file raw => decoded raw
  | .directory => none

def visibleEntry (dir : Path) (entry : (_ : Path) × Node Raw) : Option (Path × String) :=
  (relative dir entry.1).bind fun path => if hidden path then none else (visibleText entry.2).map fun text => (path, text)

/-- The files of a directory that are neither hidden nor binary, in the order of their paths. -/
def listing (dir : Path) (disk : Disk) : List (Path × String) :=
  (disk.entries.filterMap (visibleEntry dir)).insertionSort fun first second =>
    first.1.map Subtype.val ≤ second.1.map Subtype.val

theorem visibleEntry_eq_some {dir path : Path} {entry : (_ : Path) × Node Raw} {text : String} :
    visibleEntry dir entry = some (path, text) ↔
      entry.1 = dir ++ path ∧ path ≠ [] ∧ hidden path = false ∧ visibleText entry.2 = some text := by
  rw [visibleEntry, Option.bind_eq_some_iff]
  constructor
  · rintro ⟨rest, inside, shown⟩
    obtain ⟨whole, below⟩ := relative_eq_some.1 inside
    by_cases secret : hidden rest = true
    · rw [if_pos secret] at shown
      cases shown
    · rw [if_neg secret, Option.map_eq_some_iff] at shown
      obtain ⟨content, read, same⟩ := shown
      cases same
      exact ⟨whole, below, by simpa using secret, read⟩
  · rintro ⟨whole, below, shown, read⟩
    refine ⟨path, relative_eq_some.2 ⟨whole, below⟩, ?_⟩
    rw [shown, read]
    rfl

theorem mem_listing {dir path : Path} {disk : Disk} {text : String} : (path, text) ∈ listing dir disk ↔
    path ≠ [] ∧ hidden path = false ∧ (contentAt disk (dir ++ path)).bind decoded = some text := by
  have stored : ∀ node' : Node Raw, path ≠ [] →
      (⟨dir ++ path, node'⟩ ∈ disk.entries ↔ node disk (dir ++ path) = some node') := by
    intro node' below
    rw [node_of_ne _ (by simp [below])]
    exact AList.mem_lookup_iff.symm
  rw [listing, List.mem_insertionSort, List.mem_filterMap]
  constructor
  · rintro ⟨⟨place, node'⟩, member, shown⟩
    obtain ⟨rfl, below, visible, read⟩ := visibleEntry_eq_some.1 shown
    refine ⟨below, visible, ?_⟩
    rw [contentAt, (stored node' below).1 member]
    cases node' with
    | file raw => exact read
    | directory => cases read
  · rintro ⟨below, visible, read⟩
    obtain ⟨raw, found, read⟩ := Option.bind_eq_some_iff.1 read
    have there : node disk (dir ++ path) = some (.file raw) := by
      rw [contentAt] at found
      split at found
      next content same => rw [same, ← Option.some.inj found]
      next => cases found
    exact ⟨⟨dir ++ path, .file raw⟩, (stored _ below).2 there, visibleEntry_eq_some.2 ⟨rfl, below, visible, read⟩⟩

theorem listing_nodup (dir : Path) (disk : Disk) : ((listing dir disk).map fun file => posix file.1).Nodup := by
  have sorted := List.perm_insertionSort (fun first second : Path × String =>
    first.1.map Subtype.val ≤ second.1.map Subtype.val) (disk.entries.filterMap (visibleEntry dir))
  refine (sorted.map fun file => posix file.1).nodup_iff.2 ?_
  rw [List.map_filterMap, List.Nodup]
  refine List.Pairwise.filterMap _ ?_ (List.nodupKeys_iff_pairwise.1 disk.nodupKeys)
  intro first second apart text shown text' shown' same
  obtain ⟨⟨path, content⟩, found, rfl⟩ := Option.map_eq_some_iff.1 shown
  obtain ⟨⟨path', content'⟩, found', rfl⟩ := Option.map_eq_some_iff.1 shown'
  obtain ⟨here, below, _⟩ := visibleEntry_eq_some.1 found
  obtain ⟨here', below', _⟩ := visibleEntry_eq_some.1 found'
  exact apart (by rw [here, here', posix_injective below below' same])

/-- `_read_skill_files`. -/
def readSkillFiles (dir : Path) (disk : Disk) : FileMap where
  rows := (listing dir disk).map fun file => (posix file.1, file.2)
  unique := by
    rw [List.map_map]
    exact listing_nodup dir disk

/-- `_snapshot`. -/
def snapshot (dir : Path) (disk : Disk) : FileMap :=
  if (node disk dir).isSome then readSkillFiles dir disk else Keyed.empty

/-- The text that is visible at a path below the directory. -/
def visibleAt (dir : Path) (disk : Disk) (path : Path) : Option String :=
  if path = [] ∨ hidden path = true then none else (contentAt disk (dir ++ path)).bind decoded

theorem get_readSkillFiles {dir : Path} {disk : Disk} {key text : String} :
    (readSkillFiles dir disk).get key = some text ↔ ∃ path, key = posix path ∧ visibleAt dir disk path = some text := by
  rw [FileMap.get_eq_some, readSkillFiles, List.mem_map]
  constructor
  · rintro ⟨⟨path, content⟩, member, same⟩
    cases same
    obtain ⟨below, shown, read⟩ := mem_listing.1 member
    exact ⟨path, rfl, by rw [visibleAt, if_neg (by simp [below, shown]), read]⟩
  · rintro ⟨path, rfl, read⟩
    rw [visibleAt] at read
    split at read
    next => cases read
    next shown =>
      rw [not_or, Bool.not_eq_true] at shown
      exact ⟨(path, text), mem_listing.2 ⟨shown.1, shown.2, read⟩, rfl⟩

/-- What a snapshot holds; a directory that does not exist holds nothing. -/
theorem get_snapshot {dir : Path} {disk : Disk} (closed : Closed disk) {key text : String} :
    (snapshot dir disk).get key = some text ↔ ∃ path, key = posix path ∧ visibleAt dir disk path = some text := by
  rw [snapshot]
  by_cases there : (node disk dir).isSome
  · rw [if_pos there, get_readSkillFiles]
  · rw [if_neg there]
    constructor
    · intro none
      cases none
    · rintro ⟨path, _, read⟩
      rw [visibleAt] at read
      split at read
      next => cases read
      next shown =>
        obtain ⟨raw, found, _⟩ := Option.bind_eq_some_iff.1 read
        rw [contentAt] at found
        split at found
        next content below =>
          rw [directory_above closed dir path (fun root => shown (.inl root)) below] at there
          exact absurd rfl there
        next => cases found

/-! Paths. -/

theorem nameOf_toList (name : Name) : nameOf name.val.toList = some name := by
  obtain ⟨text, valid⟩ := name
  rw [nameOf]
  simp only [String.ofList_toList]
  rw [dif_pos valid]

/-- The text of a path is read back, unless a dot stands for a part. -/
theorem parse_posix {path : Path} (below : path ≠ []) (plain : ∀ name ∈ path, name.val ≠ ".") :
    PurePath.parse (posix path) = ⟨false, path⟩ := by
  have split : (posix path).toList.splitOn '/' = path.map fun name => name.val.toList := by
    rw [posix, if_neg below, String.toList_ofList]
    apply List.splitOn_intercalate '/'
    · intro part member
      obtain ⟨name, _, rfl⟩ := List.mem_map.1 member
      exact name.2.2
    · exact fun none => below (List.map_eq_nil_iff.1 none)
  have kept : (path.map fun name => name.val.toList).filter (· ≠ ['.']) = path.map fun name => name.val.toList := by
    rw [List.filter_eq_self]
    intro part member
    obtain ⟨name, inside, rfl⟩ := List.mem_map.1 member
    have other := plain name inside
    rw [decide_eq_true_eq]
    intro dot
    exact other (String.toList_injective dot)
  have parts : (path.map fun name => name.val.toList).filterMap nameOf = path := by
    rw [List.filterMap_map]
    exact (List.filterMap_congr fun name _ => nameOf_toList name).trans List.filterMap_some
  have relative : (posix path).toList.head? ≠ some '/' := by
    obtain ⟨name, rest, rfl⟩ := List.exists_cons_of_ne_nil below
    obtain ⟨c, chars, first⟩ := List.exists_cons_of_ne_nil fun none => name.2.1 (String.toList_eq_nil_iff.1 none)
    have head : (posix (name :: rest)).toList.head? = some c := by
      rw [posix, if_neg below, String.toList_ofList, List.map_cons, first, List.intercalate_cons_cons_left, List.head?_cons]
    rw [head]
    intro slash
    rw [Option.some.injEq] at slash
    apply name.2.2
    rw [first, slash]
    exact List.mem_cons_self
  rw [PurePath.parse, split, kept, parts, decide_eq_false relative]

theorem locate_append {path : Path} (straight : ∀ name ∈ path, name.val ≠ "..") (base : Path) : locate base path = base ++ path := by
  rw [locate]
  induction path generalizing base with
  | nil => exact (List.append_nil _).symm
  | cons name rest ih =>
    rw [List.foldl_cons, if_neg (straight name List.mem_cons_self), ih (fun other member => straight other (List.mem_cons_of_mem _ member)),
      List.append_assoc, List.singleton_append]

/-! Writing. -/

/-- `(base / relative_path).resolve()`. -/
def place (base : Path) (relativePath : String) : Path := (PurePath.parse relativePath).under base

/-- `_safe_skill_dir`. -/
def safeSkillDir [CharData] (service : SkillService) (skillKey : String) : Except PyException Path :=
  let target := place service.root (normalizeSkillKey skillKey)
  if service.root <+: target then .ok target else .error ⟨.valueError, "unsafe skill path"⟩

/-- A key that is normal names a directory below the root. -/
theorem place_of_keyChars {key : String} (kept : ∀ c ∈ key.toList, keyChar c = true) (relative : key.toList.head? ≠ some '/')
    (base : Path) : place base key = base ++ (PurePath.parse key).parts := by
  have straight : ∀ name ∈ (PurePath.parse key).parts, name.val ≠ ".." := by
    intro name member dots
    obtain ⟨part, inside, named⟩ := List.mem_filterMap.1 member
    have within : '.' ∈ part → '.' ∈ key.toList := mem_of_mem_splitOn (List.mem_filter.1 inside).1
    rw [nameOf] at named
    split at named
    next valid =>
      rw [Option.some.injEq] at named
      have dot : '.' ∈ part := by
        rw [← named] at dots
        have spelled : part = "..".toList := by rw [← dots, String.toList_ofList]
        rw [spelled]
        decide
      have dropped : keyChar '.' = false := by decide
      exact absurd (kept '.' (within dot)) (by rw [dropped]; exact Bool.false_ne_true)
    next => cases named
  have absolute : (PurePath.parse key).absolute = false := decide_eq_false relative
  rw [place, PurePath.under, absolute, if_neg Bool.false_ne_true, locate_append straight]

theorem normalizeSkillKey_kept [CharData] (value : String) : (∀ c ∈ (normalizeSkillKey value).toList, keyChar c = true) ∧
    (normalizeSkillKey value).toList.head? ≠ some '/' := by
  rw [normalizeSkillKey, String.toList_ofList]
  generalize subRuns CharData.isSpace '-' false _ = spaced
  constructor
  · intro c member
    have dash : keyChar '-' = true := by decide
    rcases Keys.test_of_mem_subRuns ((Keys.trim_within _ _).subset member) with ⟨_, inside⟩ | rfl
    · rcases Keys.test_of_mem_subRuns inside with ⟨kept, _⟩ | rfl
      · simpa using kept
      · exact dash
    · exact dash
  · intro slash
    have trimmed := Keys.head?_trim slash
    exact absurd trimmed (by decide)

/-- A normal key is safe. -/
theorem safeSkillDir_returns [CharData] (service : SkillService) (skillKey : String) :
    ∃ dir, safeSkillDir service skillKey = .ok dir := by
  obtain ⟨kept, relative⟩ := normalizeSkillKey_kept skillKey
  refine ⟨service.root ++ (PurePath.parse (normalizeSkillKey skillKey)).parts, ?_⟩
  rw [safeSkillDir, place_of_keyChars kept relative, if_pos (List.prefix_append _ _)]

/-- `_safe_child`. -/
def safeChild (base : Path) (relativePath : String) : Except PyException Path :=
  if '\x00' ∈ relativePath.toList then .error ⟨.valueError, "embedded null byte"⟩
  else if base <+: place base relativePath then .ok (place base relativePath)
  else .error ⟨.valueError, "unsafe file path: " ++ relativePath⟩

/-- One turn of the loop over the files. -/
def writeFile (dir : Path) (file : String × String) : FileM Raw Unit := do
  let target ← Program.ofExcept (safeChild dir file.1)
  Program.write (makeDirectories [] target.dropLast)
  Program.write (change target fun _ => some file.2)

def writeFiles (dir : Path) : List (String × String) → FileM Raw Unit
  | [] => pure ()
  | file :: rest => do
      writeFile dir file
      writeFiles dir rest

/-- What a written file leaves of the contents. -/
def written (dir : Path) (contents : Path → Option Raw) (file : String × String) : Path → Option Raw :=
  Function.update contents (place dir file.1) (some (some file.2))

section Writing
variable {dir : Path} {disk next : Disk} {file : String × String}

/-- What the files leave at a place: what was there, or the content of one of them. -/
theorem foldl_written_cases (files : List (String × String)) (contents : Path → Option Raw) (path : Path) :
    (∀ file ∈ files, place dir file.1 ≠ path) ∧ files.foldl (written dir) contents path = contents path ∨
      ∃ file ∈ files, place dir file.1 = path ∧ files.foldl (written dir) contents path = some (some file.2) := by
  induction files using List.reverseRecOn with
  | nil => exact .inl ⟨fun _ member => (by cases member), rfl⟩
  | append_singleton front file ih =>
    rw [List.foldl_append, List.foldl_cons, List.foldl_nil, written, Function.update_apply]
    by_cases here : path = place dir file.1
    · rw [if_pos here]
      exact .inr ⟨file, by simp, here.symm, rfl⟩
    · rw [if_neg here]
      rcases ih with ⟨apart, same⟩ | ⟨other, member, there, same⟩
      · refine .inl ⟨?_, same⟩
        intro other member
        rcases List.mem_append.1 member with old | last
        · exact apart other old
        · rw [List.mem_singleton.1 last]
          exact fun same => here same.symm
      · exact .inr ⟨other, List.mem_append_left _ member, there, same⟩

theorem safeChild_ok {target : Path} (safe : safeChild dir file.1 = .ok target) :
    target = place dir file.1 ∧ dir <+: target ∧ '\x00' ∉ file.1.toList := by
  rw [safeChild] at safe
  split at safe
  next => cases safe
  next clean =>
    split at safe
    next inside =>
      cases safe
      exact ⟨rfl, inside, clean⟩
    next => cases safe

theorem safeSkillDir_ok [CharData] {service : SkillService} {skillKey : String} (safe : safeSkillDir service skillKey = .ok dir) :
    service.root <+: dir := by
  rw [safeSkillDir] at safe
  by_cases inside : service.root <+: place service.root (normalizeSkillKey skillKey)
  · rw [if_pos inside, Except.ok.injEq] at safe
    exact safe ▸ inside
  · rw [if_neg inside] at safe
    cases safe

theorem change_root (content : Option Raw → Raw) : change [] content disk = .error isADirectory := by
  rw [change, node_root]

/-- A file that has been written. -/
theorem writeFile_ok (closed : Closed disk) (ran : (writeFile dir file).exec disk = (.ok (), next)) :
    Closed next ∧ dir <+: place dir file.1 ∧ node disk (place dir file.1) ≠ some .directory ∧
      contentAt next = written dir (contentAt disk) file := by
  rw [writeFile, Program.exec_bind, Program.exec_ofExcept] at ran
  cases safe : safeChild dir file.1 with
  | error raised =>
    rw [safe] at ran
    cases ran
  | ok target =>
    obtain ⟨rfl, inside, _⟩ := safeChild_ok safe
    rw [safe] at ran
    dsimp only at ran
    rw [Program.exec_bind, Program.exec_write] at ran
    cases made : makeDirectories [] (place dir file.1).dropLast disk with
    | error raised =>
      rw [made] at ran
      cases ran
    | ok between =>
      rw [made] at ran
      dsimp only at ran
      rw [Program.exec_write] at ran
      cases changed : change (place dir file.1) (fun _ => some file.2) between with
      | error raised =>
        rw [changed] at ran
        cases ran
      | ok after =>
        rw [changed] at ran
        cases ran
        have below : place dir file.1 ≠ [] := by
          intro root
          rw [root, change_root] at changed
          cases changed
        obtain ⟨closed', way, others⟩ := makeDirectories_ok closed (node_root disk) made
        refine ⟨change_closed closed' below changed, inside, ?_, ?_⟩
        · intro directory
          rcases others (place dir file.1) with same | ⟨free, _⟩
          · exact (change_ok below changed).1 (same.trans directory)
          · rw [directory] at free
            cases free
        · funext other
          rw [contentAt_change below changed, written, Function.update_apply,
            contentAt_makeDirectories closed (node_root disk) made]

/-- A file that cannot be written leaves the other files alone. -/
theorem writeFile_error {raised : PyException} (closed : Closed disk)
    (ran : (writeFile dir file).exec disk = (.error raised, next)) : Closed next ∧ contentAt next = contentAt disk := by
  rw [writeFile, Program.exec_bind, Program.exec_ofExcept] at ran
  cases safe : safeChild dir file.1 with
  | error raised =>
    rw [safe] at ran
    cases ran
    exact ⟨closed, rfl⟩
  | ok target =>
    rw [safe] at ran
    dsimp only at ran
    rw [Program.exec_bind, Program.exec_write] at ran
    cases made : makeDirectories [] target.dropLast disk with
    | error raised =>
      rw [made] at ran
      cases ran
      exact ⟨closed, rfl⟩
    | ok between =>
      rw [made] at ran
      dsimp only at ran
      rw [Program.exec_write] at ran
      cases changed : change target (fun _ => some file.2) between with
      | ok after =>
        rw [changed] at ran
        cases ran
      | error raised =>
        rw [changed] at ran
        cases ran
        refine ⟨(makeDirectories_ok closed (node_root disk) made).1, ?_⟩
        funext other
        exact contentAt_makeDirectories closed (node_root disk) made other

/-- The loop writes the files up to the first one that cannot be written. -/
theorem writeFiles_exec {returned : Except PyException Unit} {files : List (String × String)} (closed : Closed disk)
    (ran : (writeFiles dir files).exec disk = (returned, next)) : Closed next ∧
      ∃ front back, files = front ++ back ∧ contentAt next = front.foldl (written dir) (contentAt disk) ∧
        (returned = .ok () → back = []) := by
  induction files generalizing disk with
  | nil =>
    cases ran
    exact ⟨closed, [], [], rfl, rfl, fun _ => rfl⟩
  | cons file rest ih =>
    rw [writeFiles, Program.exec_bind] at ran
    cases first : (writeFile dir file).exec disk with
    | mk outcome between =>
      rw [first] at ran
      cases outcome with
      | error raised =>
        cases ran
        obtain ⟨closed', same⟩ := writeFile_error closed first
        exact ⟨closed', [], file :: rest, rfl, same, fun absurd' => by cases absurd'⟩
      | ok done =>
        obtain ⟨closed', _, _, same⟩ := writeFile_ok closed first
        obtain ⟨closed'', front, back, rfl, contents, ends⟩ := ih closed' ran
        refine ⟨closed'', file :: front, back, rfl, ?_, ends⟩
        rw [contents, same, List.foldl_cons]

/-- A file that is there is written. -/
theorem writeFile_existing (closed : Closed disk) {target : Path} (safe : safeChild dir file.1 = .ok target)
    (there : (contentAt disk target).isSome) : ∃ next, (writeFile dir file).exec disk = (.ok (), next) := by
  obtain ⟨raw, found⟩ : ∃ raw, node disk target = some (.file raw) := by
    rw [contentAt] at there
    split at there
    next raw found => exact ⟨raw, found⟩
    next => cases there
  have below : target ≠ [] := by
    rintro rfl
    rw [node_root] at found
    cases found
  have parent := closed target (mem_keys_of_node below found)
  have leaf : node disk target ≠ some .directory := by
    rw [found]
    exact fun same => by cases same
  obtain ⟨next, changed, _⟩ := change_returns closed below parent leaf fun _ => some file.2
  refine ⟨next, ?_⟩
  have safe' : (Program.ofExcept (safeChild dir file.1) : FileM Raw Path).exec disk = (.ok target, disk) := by
    rw [Program.exec_ofExcept, safe]
  rw [writeFile, Program.exec_bind_of_ok _ safe',
    Program.exec_bind_of_ok _ (Program.exec_write_of_ok (makeDirectories_existing closed parent)),
    Program.exec_write_of_ok changed]

theorem writeFiles_existing {files : List (String × String)} (closed : Closed disk)
    (there : ∀ file ∈ files, ∃ target, safeChild dir file.1 = .ok target ∧ (contentAt disk target).isSome) :
    ∃ next, (writeFiles dir files).exec disk = (.ok (), next) := by
  induction files generalizing disk with
  | nil => exact ⟨disk, rfl⟩
  | cons file rest ih =>
    obtain ⟨target, safe, found⟩ := there file List.mem_cons_self
    obtain ⟨between, wrote⟩ := writeFile_existing closed safe found
    obtain ⟨closed', _, _, contents⟩ := writeFile_ok closed wrote
    rw [writeFiles, Program.exec_bind_of_ok _ wrote]
    apply ih closed'
    intro other member
    obtain ⟨target', safe', found'⟩ := there other (List.mem_cons_of_mem _ member)
    refine ⟨target', safe', ?_⟩
    rw [contents, written, Function.update_apply]
    split
    · rfl
    · exact found'

/-- No part of a path that is not hidden is a dot, or two. -/
theorem plain_of_visible {path : Path} (visible : hidden path = false) :
    ∀ name ∈ path, name.val ≠ "." ∧ name.val ≠ ".." := by
  intro name member
  have shown : name.val.toList.head? ≠ some '.' := by simpa using List.any_eq_false.1 visible name member
  constructor
  · rintro same
    rw [same] at shown
    exact shown rfl
  · rintro same
    rw [same] at shown
    exact shown rfl

/-- The path is written as its parts are, of which there are some. -/
structure Canonical (path : String) : Prop where
  below : (PurePath.parse path).parts ≠ []
  spelled : posix (PurePath.parse path).parts = path

theorem canonical_posix {path : Path} (below : path ≠ []) (visible : hidden path = false) : Canonical (posix path) := by
  have read := parse_posix below fun name member => (plain_of_visible visible name member).1
  constructor
  · rw [read]
    exact below
  · rw [read]

/-- A path that stands below the directory, with no part that begins with a dot. -/
structure Lawful (path : String) : Prop where
  relative : (PurePath.parse path).absolute = false
  visible : hidden (PurePath.parse path).parts = false

theorem place_of_lawful {path : String} (lawful : Lawful path) (dir : Path) :
    place dir path = dir ++ (PurePath.parse path).parts := by
  rw [place, PurePath.under, lawful.relative]
  exact locate_append (fun name member => (plain_of_visible lawful.visible name member).2) dir

theorem lawful_posix {path : Path} (below : path ≠ []) (visible : hidden path = false) : Lawful (posix path) := by
  have read := parse_posix below fun name member => (plain_of_visible visible name member).1
  constructor
  · rw [read]
  · rw [read]
    exact visible

/-- A visible text is under a canonical path. -/
theorem canonical_of_snapshot (closed : Closed disk) {key text : String} (known : (snapshot dir disk).get key = some text) :
    Canonical key ∧ Lawful key ∧ '\r' ∉ text.toList ∧
      visibleAt dir disk (PurePath.parse key).parts = some text := by
  obtain ⟨path, rfl, read⟩ := (get_snapshot closed).1 known
  have shown : path ≠ [] ∧ hidden path = false := by
    rw [visibleAt] at read
    split at read
    next => cases read
    next shown =>
      rw [not_or, Bool.not_eq_true] at shown
      exact shown
  have parsed := parse_posix shown.1 fun name member => (plain_of_visible shown.2 name member).1
  refine ⟨canonical_posix shown.1 shown.2, lawful_posix shown.1 shown.2, ?_, by rw [parsed]; exact read⟩
  rw [visibleAt, if_neg (by simp [shown]), Option.bind_eq_some_iff] at read
  obtain ⟨raw, _, read⟩ := read
  obtain ⟨content, _, rfl⟩ := Option.map_eq_some_iff.1 read
  rw [String.toList_ofList]
  exact cr_notMem_universalNewlines _

end Writing

end SoulClaw.Skills.Storage
