import Mathlib.Data.List.Flatten
import SoulClaw.Skills.Writing

/-! When the index mirrors the tree after a scan. -/

namespace SoulClaw.Skills.Mirror
open Foundation Files Wiki.Storage Package Storage Service Writing

attribute [local irreducible] skillKeyOf

/-! Items that share keys. -/

section Shared
variable {Item Row Key : Type*} [DecidableEq Key] (key : Item → Key) (rows : Item → List Row)

/-- The rows that belong to a key. -/
theorem filter_rows {items : List Item} {wanted : Key} {test : Row → Bool}
    (own : ∀ item ∈ items, ∀ row ∈ rows item, test row = decide (key item = wanted)) :
    (items.flatMap rows).filter test = (items.filter fun item => key item = wanted).flatMap rows := by
  induction items with
  | nil => rfl
  | cons item rest ih =>
    obtain ⟨here, others⟩ := List.forall_mem_cons.1 own
    rw [List.flatMap_cons, List.filter_append, ih others]
    by_cases same : key item = wanted
    · have all : (rows item).filter test = rows item := by
        apply List.filter_eq_self.2
        intro row member
        rw [here row member, decide_eq_true same]
      rw [all, List.filter_cons, if_pos (decide_eq_true same), List.flatMap_cons]
    · have none : (rows item).filter test = [] := by
        apply List.filter_eq_nil_iff.2
        intro row member
        rw [here row member, decide_eq_false same]
        exact Bool.false_ne_true
      rw [none, List.filter_cons, if_neg (by simpa using same), List.nil_append]

/-- Each item has the rows of its key to itself, exactly when items that share a key have no rows. -/
theorem perm_iff_pairwise (items : List Item) :
    (∀ item ∈ items, ((items.filter fun other => key other = key item).flatMap rows).Perm (rows item)) ↔
      items.Pairwise fun first second => key first = key second → rows first = [] ∧ rows second = [] := by
  constructor
  · intro own
    rw [List.pairwise_iff_forall_sublist]
    intro first second pair same
    have fits : ∀ item ∈ items, key first = key item → (rows first ++ rows second).length ≤ (rows item).length := by
      intro item member mine
      have both := pair.filter fun other => decide (key other = key item)
      rw [List.filter_cons, if_pos (decide_eq_true mine), List.filter_cons, if_pos (decide_eq_true (same ▸ mine)),
        List.filter_nil] at both
      have inside := (both.flatMap rows).length_le
      rw [(own item member).length_eq] at inside
      simpa using inside
    have left := fits first (pair.subset List.mem_cons_self) rfl
    have right := fits second (pair.subset (List.mem_cons_of_mem _ List.mem_cons_self)) same
    rw [List.length_append] at left right
    exact ⟨List.length_eq_zero_iff.1 (by omega), List.length_eq_zero_iff.1 (by omega)⟩
  · intro apart item member
    obtain ⟨front, back, rfl⟩ := List.append_of_mem member
    rw [List.pairwise_append, List.pairwise_cons] at apart
    obtain ⟨_, ⟨later, _⟩, earlier⟩ := apart
    have before : (front.filter fun other => key other = key item).flatMap rows = [] := by
      apply List.flatMap_eq_nil_iff.2
      intro other inside
      obtain ⟨inside, same⟩ := List.mem_filter.1 inside
      exact (earlier other inside item List.mem_cons_self (of_decide_eq_true same)).1
    have behind : (back.filter fun other => key other = key item).flatMap rows = [] := by
      apply List.flatMap_eq_nil_iff.2
      intro other inside
      obtain ⟨inside, same⟩ := List.mem_filter.1 inside
      exact (later other inside (of_decide_eq_true same).symm).2
    rw [List.filter_append, List.filter_cons, if_pos (decide_eq_true rfl), List.flatMap_append, List.flatMap_cons, before,
      behind, List.nil_append, List.append_nil]

end Shared

section Rows
variable [CharData] [DateData] (service : SkillService) (disk : Disk)

omit [DateData] in
/-- The rows of the texts that are visible in a directory. -/
def fileRows (dir : Path) : List SkillFile :=
  (filesOf service dir disk).rows.map fun file => ⟨skillKeyOf service dir, file.1, service.sha256 file.2, file.2⟩

/-- The row that a directory gives the skill. -/
def skillRow (dir : Path) : Skill :=
  match manifestOf service dir disk with
  | .ok (metadata, body) => described service (skillKeyOf service dir) dir metadata body
  | .error _ => ⟨skillKeyOf service dir, "", "", "", "", []⟩

/-- The rows of the tests that the frontmatter of a directory declares. -/
def testRows (dir : Path) : List SkillTest :=
  match manifestOf service dir disk with
  | .ok (metadata, _) => syncDeclaredTests (skillKeyOf service dir) metadata
  | .error _ => []

omit [DateData] in
/-- The last of the directories with a key. -/
def lastDir (dirs : List Path) (skillKey : String) : Option Path :=
  dirs.reverse.find? fun dir => skillKeyOf service dir = skillKey

end Rows

section Scan
variable [CharData] [DateData] {service : SkillService} {disk : Disk} {session last : Session} {dir : Path}
  {dirs : List Path} {skillKey : String}

@[simp] theorem skillRow_key : (skillRow service disk dir).skillKey = skillKeyOf service dir := by
  rw [skillRow]
  cases manifestOf service dir disk <;> rfl

omit [DateData] in
theorem lastDir_cons (rest : List Path) : lastDir service (dir :: rest) skillKey =
    (lastDir service rest skillKey).or (if skillKeyOf service dir = skillKey then some dir else none) := by
  rw [lastDir, List.reverse_cons, List.find?_append, lastDir, List.find?_singleton]
  simp only [decide_eq_true_eq]

omit [DateData] in
theorem lastDir_isSome : (lastDir service dirs skillKey).isSome ↔ skillKey ∈ dirs.map (skillKeyOf service) := by
  rw [lastDir, List.find?_isSome, List.mem_map]
  simp only [List.mem_reverse, decide_eq_true_eq]

omit [DateData] in
theorem lastDir_spec (found : lastDir service dirs skillKey = some dir) :
    dir ∈ dirs ∧ skillKeyOf service dir = skillKey := by
  have member := List.mem_of_find?_eq_some found
  have key := List.find?_some found
  exact ⟨List.mem_reverse.1 member, of_decide_eq_true key⟩

/-- What a scan of some directories does to a session. -/
structure Scanned (service : SkillService) (disk : Disk) (dirs : List Path) (session last : Session) : Prop where
  loads : ∀ dir ∈ dirs, ∃ parts, manifestOf service dir disk = .ok parts
  keys : last.state.db.skills.keys = session.state.db.skills.keys
  skills : ∀ skill ∈ last.state.db.skills.rows, match lastDir service dirs skill.skillKey with
    | some dir => skill = skillRow service disk dir
    | none => skill ∈ session.state.db.skills.rows
  kept : ∀ skill ∈ session.state.db.skills.rows, lastDir service dirs skill.skillKey = none →
    skill ∈ last.state.db.skills.rows
  files : last.state.db.files = session.state.db.files.filter fun row => row.skillKey ∉ dirs.map (skillKeyOf service)
  tests : last.state.db.tests = session.state.db.tests
  addedSkills : last.skills = session.skills ++
    (dirs.filter fun dir => skillKeyOf service dir ∉ session.state.db.skills.keys).map (skillRow service disk)
  addedFiles : last.files = session.files ++ dirs.flatMap (fileRows service disk)
  addedTests : last.tests = session.tests ++ dirs.flatMap (testRows service disk)

omit [CharData] [DateData] in
theorem keys_updateSkill (skills : Keyed Skill.skillKey) (skill : Skill) : (updateSkill skills skill).keys = skills.keys := by
  show (skills.rows.map fun row => if row.skillKey = skill.skillKey then skill else row).map Skill.skillKey =
    skills.rows.map Skill.skillKey
  rw [List.map_map]
  apply List.map_congr_left
  intro row _
  by_cases same : row.skillKey = skill.skillKey
  · rw [Function.comp_apply, if_pos same, same]
  · rw [Function.comp_apply, if_neg same]

omit [CharData] [DateData] in
theorem mem_updateSkill {skills : Keyed Skill.skillKey} {skill row : Skill} (member : row ∈ (updateSkill skills skill).rows) :
    row = skill ∨ row.skillKey ≠ skill.skillKey ∧ row ∈ skills.rows := by
  obtain ⟨old, stored, rfl⟩ := List.mem_map.1 member
  by_cases same : old.skillKey = skill.skillKey
  · rw [if_pos same]
    exact .inl rfl
  · rw [if_neg same]
    exact .inr ⟨same, stored⟩

omit [CharData] [DateData] in
theorem mem_updateSkill_of_ne {skills : Keyed Skill.skillKey} {skill row : Skill} (member : row ∈ skills.rows)
    (other : row.skillKey ≠ skill.skillKey) : row ∈ (updateSkill skills skill).rows :=
  List.mem_map.2 ⟨row, member, if_neg other⟩

/-- One directory. -/
theorem scanDir_ok (ran : scanDir service disk session dir = .ok last) : (∃ parts, manifestOf service dir disk = .ok parts) ∧
    last.state.db.skills = updateSkill session.state.db.skills (skillRow service disk dir) ∧
    last.state.db.files = session.state.db.files.filter (fun row => row.skillKey ≠ skillKeyOf service dir) ∧
    last.state.db.tests = session.state.db.tests ∧
    last.skills = session.skills ++
      (if skillKeyOf service dir ∈ session.state.db.skills.keys then [] else [skillRow service disk dir]) ∧
    last.files = session.files ++ fileRows service disk dir ∧ last.tests = session.tests ++ testRows service disk dir := by
  obtain ⟨parts, loads, made⟩ := bind_eq_ok.1 ran
  cases made
  refine ⟨⟨parts, loads⟩, ?_, rfl, rfl, ?_, rfl, ?_⟩
  · rw [skillRow, loads]
  · rw [skillRow, loads]
  · rw [testRows, loads]

theorem scanned_of_scanTree (ran : dirs.foldlM (scanDir service disk) session = .ok last) :
    Scanned service disk dirs session last := by
  induction dirs generalizing session with
  | nil =>
    cases ran
    refine ⟨fun dir member => (by cases member), rfl, fun skill member => member, fun skill member _ => member, ?_, rfl,
      (List.append_nil _).symm, (List.append_nil _).symm, (List.append_nil _).symm⟩
    simp
  | cons dir rest ih =>
    rw [List.foldlM_cons] at ran
    obtain ⟨middle, first, others⟩ := bind_eq_ok.1 ran
    obtain ⟨loads, skills, files, tests, addedSkills, addedFiles, addedTests⟩ := scanDir_ok first
    have scanned := ih others
    have keys : middle.state.db.skills.keys = session.state.db.skills.keys := by rw [skills, keys_updateSkill]
    constructor
    case loads => exact List.forall_mem_cons.2 ⟨loads, scanned.loads⟩
    case keys => rw [scanned.keys, keys]
    case skills =>
      intro skill member
      have later := scanned.skills skill member
      rw [lastDir_cons]
      cases found : lastDir service rest skill.skillKey with
      | some other =>
        rw [found] at later
        exact later
      | none =>
        rw [found] at later
        dsimp only at later
        rw [skills] at later
        rcases mem_updateSkill later with same | ⟨other, stored⟩
        · rw [same, skillRow_key, if_pos rfl]
          rfl
        · rw [skillRow_key] at other
          rw [if_neg (Ne.symm other)]
          exact stored
    case kept =>
      intro skill member none
      rw [lastDir_cons, Option.or_eq_none_iff] at none
      have other : skill.skillKey ≠ skillKeyOf service dir := by
        intro same
        rw [if_pos same.symm] at none
        cases none.2
      apply scanned.kept skill _ none.1
      rw [skills]
      exact mem_updateSkill_of_ne member (by rwa [skillRow_key])
    case files =>
      rw [scanned.files, files, List.filter_filter]
      apply List.filter_congr
      intro row _
      rw [List.map_cons, ← Bool.decide_and, decide_eq_decide, List.mem_cons, not_or, and_comm]
    case tests => rw [scanned.tests, tests]
    case addedSkills =>
      rw [scanned.addedSkills, addedSkills, keys, List.filter_cons, List.append_assoc]
      by_cases known : skillKeyOf service dir ∈ session.state.db.skills.keys
      · simp [known]
      · simp [known]
    case addedFiles => rw [scanned.addedFiles, addedFiles, List.append_assoc, List.flatMap_cons]
    case addedTests => rw [scanned.addedTests, addedTests, List.append_assoc, List.flatMap_cons]

end Scan

/-! A scan that has been committed. -/

section Commit
variable [CharData] [DateData] {service : SkillService} {disk next : Disk} {session : Session} {state after : Service.State}
  {dirs : List Path} {count : Nat}

/-- The index after a scan of some directories has been committed. -/
structure Indexed (service : SkillService) (disk : Disk) (dirs : List Path) (before after : SkillDb) : Prop where
  loads : ∀ dir ∈ dirs, ∃ parts, manifestOf service dir disk = .ok parts
  skills : ∀ skill ∈ after.skills.rows, match lastDir service dirs skill.skillKey with
    | some dir => skill = skillRow service disk dir
    | none => skill ∈ before.skills.rows
  kept : ∀ skill ∈ before.skills.rows, lastDir service dirs skill.skillKey = none → skill ∈ after.skills.rows
  present : ∀ dir ∈ dirs, skillKeyOf service dir ∈ after.skills.keys
  files : after.files = (before.files.filter fun row => row.skillKey ∉ dirs.map (skillKeyOf service)) ++
    dirs.flatMap (fileRows service disk)
  tests : after.tests = before.tests ++ dirs.flatMap (testRows service disk)
  metadata : ∀ skill ∈ after.skills.rows, Yaml.jsonable (.map skill.metadata) = true
  specs : ∀ test ∈ dirs.flatMap (testRows service disk), Yaml.jsonable (.map test.spec) = true

omit [CharData] [DateData] in
theorem commit_ok (committed : session.commit = .ok after) : session.jsonable = true ∧
    after.db.skills.rows = session.state.db.skills.rows ++ session.skills ∧
    after.db.files = session.state.db.files ++ session.files ∧ after.db.tests = session.state.db.tests ++ session.tests := by
  rw [Session.commit] at committed
  cases plain : session.jsonable with
  | false =>
    rw [plain] at committed
    cases committed
  | true =>
    rw [plain, Bool.not_true, if_neg Bool.false_ne_true] at committed
    split at committed
    next =>
      cases committed
      exact ⟨rfl, rfl, rfl, rfl⟩
    next => cases committed

omit [CharData] [DateData] in
theorem jsonable_iff : session.jsonable = true ↔
    (∀ skill ∈ session.state.db.skills.rows ++ session.skills, Yaml.jsonable (.map skill.metadata) = true) ∧
      ∀ test ∈ session.tests, Yaml.jsonable (.map test.spec) = true := by
  rw [Session.jsonable, Bool.and_eq_true, List.all_eq_true, List.all_eq_true]

theorem indexed_of_scanned (scanned : Scanned service disk dirs { state } session) (committed : session.commit = .ok after) :
    Indexed service disk dirs state.db after.db := by
  obtain ⟨plain, skills, files, tests⟩ := commit_ok committed
  obtain ⟨metadata, specs⟩ := jsonable_iff.1 plain
  have added := scanned.addedSkills
  rw [List.nil_append] at added
  have row_added : ∀ dir ∈ dirs, skillKeyOf service dir ∉ state.db.skills.keys → skillRow service disk dir ∈ session.skills := by
    intro dir member fresh
    rw [added]
    exact List.mem_map_of_mem (List.mem_filter.2 ⟨member, decide_eq_true fresh⟩)
  constructor
  case loads => exact scanned.loads
  case skills =>
    intro skill member
    rw [skills] at member
    rcases List.mem_append.1 member with stored | fresh
    · exact scanned.skills skill stored
    · -- A new row is the only one with its key, so that it is the row of the last directory with the key.
      have fresh' := fresh
      rw [added] at fresh'
      obtain ⟨dir, chosen, rfl⟩ := List.mem_map.1 fresh'
      obtain ⟨inside, unknown⟩ := List.mem_filter.1 chosen
      have key : (skillRow service disk dir).skillKey = skillKeyOf service dir := skillRow_key
      have known : (lastDir service dirs (skillKeyOf service dir)).isSome :=
        lastDir_isSome.2 (List.mem_map_of_mem inside)
      obtain ⟨other, found⟩ := Option.isSome_iff_exists.1 known
      obtain ⟨inside', same⟩ := lastDir_spec found
      rw [key, found]
      have unique := after.db.skills.unique
      rw [skills] at unique
      have fresh'' := row_added other inside' (same ▸ of_decide_eq_true unknown)
      exact List.inj_on_of_nodup_map unique (List.mem_append_right _ fresh) (List.mem_append_right _ fresh'')
        (by rw [key, skillRow_key, same])
  case kept =>
    intro skill member none
    rw [skills]
    exact List.mem_append_left _ (scanned.kept skill member none)
  case present =>
    intro dir member
    rw [Keyed.keys, skills, List.map_append, List.mem_append]
    by_cases known : skillKeyOf service dir ∈ state.db.skills.keys
    · left
      have keys := scanned.keys
      rw [Keyed.keys] at keys
      rw [keys]
      exact known
    · right
      exact List.mem_map.2 ⟨_, row_added dir member known, skillRow_key⟩
  case files => rw [files, scanned.files, scanned.addedFiles, List.nil_append]
  case tests => rw [tests, scanned.tests, scanned.addedTests, List.nil_append]
  case metadata =>
    intro skill member
    rw [skills] at member
    exact metadata skill member
  case specs =>
    rw [scanned.addedTests, List.nil_append] at specs
    exact specs

/-- The scan of a tree, directory by directory. -/
theorem scanned_of_scan (ran : (scan service { state }).exec disk = (.ok (count, session), next)) :
    makeDirectories [] service.root disk = .ok next ∧
      Scanned service next (skillDirs service.root next) { state } session := by
  rw [scan, Program.exec_bind, Program.exec_write] at ran
  cases made : makeDirectories [] service.root disk with
  | error raised =>
    rw [made] at ran
    cases ran
  | ok between =>
    rw [made] at ran
    dsimp only at ran
    rw [Program.exec_look, Prod.mk.injEq] at ran
    obtain ⟨found, rfl⟩ := ran
    obtain ⟨last, found, same⟩ := map_eq_ok.1 found
    cases same
    exact ⟨rfl, scanned_of_scanTree found⟩

variable {before : SkillDb}

/-- Another scan returns, and is committed. -/
theorem scan_again (closed : Closed next) (inside : node next service.root = some .directory)
    (indexed : Indexed service next (skillDirs service.root next) before after.db) :
    ∃ again settled, (∃ count, (scan service { state := after }).exec next = (.ok (count, again), next)) ∧
      again.commit = .ok settled ∧ Indexed service next (skillDirs service.root next) after.db settled.db := by
  have made := makeDirectories_existing closed inside
  obtain ⟨again, ran⟩ := (scanTree_returns_iff (skillDirs service.root next)).2 indexed.loads
  have scanned : Scanned service next (skillDirs service.root next) { state := after } again := scanned_of_scanTree ran
  have added : again.skills = [] := by
    rw [scanned.addedSkills, List.nil_append, List.map_eq_nil_iff, List.filter_eq_nil_iff]
    intro dir member fresh
    exact of_decide_eq_true fresh (indexed.present dir member)
  have stored : ∀ skill ∈ again.state.db.skills.rows, skill ∈ after.db.skills.rows := by
    intro skill member
    have later := scanned.skills skill member
    cases found : lastDir service (skillDirs service.root next) skill.skillKey with
    | none =>
      rw [found] at later
      exact later
    | some dir =>
      rw [found] at later
      have keys := scanned.keys
      have known : skill.skillKey ∈ after.db.skills.keys := keys ▸ List.mem_map_of_mem member
      obtain ⟨old, there, same⟩ := List.mem_map.1 known
      have earlier := indexed.skills old there
      rw [same, found] at earlier
      dsimp only at later earlier
      rw [later, ← earlier]
      exact there
  have plain : again.jsonable = true := by
    apply jsonable_iff.2
    rw [added, List.append_nil, scanned.addedTests, List.nil_append]
    exact ⟨fun skill member => indexed.metadata skill (stored skill member), indexed.specs⟩
  have unique : ((again.state.db.skills.rows ++ again.skills).map Skill.skillKey).Nodup := by
    rw [added, List.append_nil]
    exact again.state.db.skills.unique
  have committed : ∃ settled, again.commit = .ok settled := by
    rw [Session.commit, plain, Bool.not_true, if_neg Bool.false_ne_true, dif_pos unique]
    exact ⟨_, rfl⟩
  obtain ⟨settled, committed⟩ := committed
  refine ⟨again, settled, ⟨(skillDirs service.root next).length, ?_⟩, committed, indexed_of_scanned scanned committed⟩
  rw [scan, Program.exec_bind_of_ok _ (Program.exec_write_of_ok made), Program.exec_look, scanTree, ran]
  rfl

end Commit

/-! The mirror. -/

section Mirror
variable [CharData] [DateData] (service : SkillService)

/-- A skill with this key is active. -/
def Active (db : SkillDb) (skillKey : String) : Prop :=
  ∃ skill ∈ db.skills.rows, skill.skillKey = skillKey ∧ skill.status = "active"

def filesWith (db : SkillDb) (skillKey : String) : List SkillFile := db.files.filter fun row => row.skillKey = skillKey

/-- The rows that stem from frontmatter, and not from a run of the tests. -/
def testsWith (db : SkillDb) (skillKey : String) : List SkillTest :=
  db.tests.filter fun row => row.skillKey = skillKey ∧ row.lastRunAt = none

/-- The index holds what the tree holds. -/
structure Mirrors (disk : Disk) (db : SkillDb) : Prop where
  active : ∀ skillKey, Active db skillKey ↔ ∃ dir ∈ skillDirs service.root disk, skillKeyOf service dir = skillKey
  files : ∀ dir ∈ skillDirs service.root disk,
    (filesWith db (skillKeyOf service dir)).Perm (fileRows service disk dir)
  tests : ∀ dir ∈ skillDirs service.root disk,
    (testsWith db (skillKeyOf service dir)).Perm (testRows service disk dir)

/-- Two indexes hold the same. -/
structure Same (first second : SkillDb) : Prop where
  active : ∀ skillKey, Active first skillKey ↔ Active second skillKey
  files : ∀ skillKey, (filesWith first skillKey).Perm (filesWith second skillKey)
  tests : ∀ skillKey, (testsWith first skillKey).Perm (testsWith second skillKey)

/-- No active skill has left the tree, directories share a key only where no text is visible, and there are no
declared tests. -/
structure Exact (db : SkillDb) (disk : Disk) : Prop where
  present : ∀ skillKey, Active db skillKey → ∃ dir ∈ skillDirs service.root disk, skillKeyOf service dir = skillKey
  apart : (skillDirs service.root disk).Pairwise fun dir other => skillKeyOf service dir = skillKeyOf service other →
    (filesOf service dir disk).rows = [] ∧ (filesOf service other disk).rows = []
  untested : ∀ dir ∈ skillDirs service.root disk, testsWith db (skillKeyOf service dir) = []
  undeclared : ∀ dir ∈ skillDirs service.root disk, testRows service disk dir = []

end Mirror

section Conditions
variable [CharData] [DateData] {service : SkillService} {disk next : Disk} {dirs : List Path}
  {before after settled : SkillDb} {skillKey : String}

theorem active_iff (indexed : Indexed service disk dirs before after) :
    Active after skillKey ↔ (∃ dir ∈ dirs, skillKeyOf service dir = skillKey) ∨ Active before skillKey := by
  rw [← List.mem_map]
  constructor
  · rintro ⟨skill, member, rfl, live⟩
    have later := indexed.skills skill member
    cases found : lastDir service dirs skill.skillKey with
    | some dir => exact .inl (lastDir_isSome.1 (by rw [found, Option.isSome_some]))
    | none =>
      rw [found] at later
      exact .inr ⟨skill, later, rfl, live⟩
  · intro either
    by_cases known : skillKey ∈ dirs.map (skillKeyOf service)
    · obtain ⟨dir, member, rfl⟩ := List.mem_map.1 known
      obtain ⟨skill, there, same⟩ := List.mem_map.1 (indexed.present dir member)
      refine ⟨skill, there, same, ?_⟩
      obtain ⟨other, found⟩ := Option.isSome_iff_exists.1 (lastDir_isSome.2 known)
      have row := indexed.skills skill there
      rw [same, found] at row
      dsimp only at row
      obtain ⟨parts, loads⟩ := indexed.loads other (lastDir_spec found).1
      rw [row, skillRow, loads]
      rfl
    · obtain ⟨skill, there, rfl, live⟩ := either.resolve_left known
      have gone : lastDir service dirs skill.skillKey = none := by
        rw [← Option.not_isSome_iff_eq_none, lastDir_isSome]
        exact known
      exact ⟨skill, indexed.kept skill there gone, rfl, live⟩

theorem filesWith_of_mem (indexed : Indexed service disk dirs before after) (member : skillKey ∈ dirs.map (skillKeyOf service)) :
    filesWith after skillKey = (dirs.filter fun dir => skillKeyOf service dir = skillKey).flatMap (fileRows service disk) := by
  have gone : ((before.files.filter fun row => row.skillKey ∉ dirs.map (skillKeyOf service)).filter
      fun row => row.skillKey = skillKey) = [] := by
    apply List.filter_eq_nil_iff.2
    intro row kept same
    have absent := of_decide_eq_true (List.mem_filter.1 kept).2
    rw [of_decide_eq_true same] at absent
    exact absent member
  rw [filesWith, indexed.files, List.filter_append, gone, List.nil_append, filter_rows (skillKeyOf service)]
  intro dir _ row inside
  obtain ⟨file, _, rfl⟩ := List.mem_map.1 inside
  rfl

theorem filesWith_of_notMem (indexed : Indexed service disk dirs before after)
    (absent : skillKey ∉ dirs.map (skillKeyOf service)) : filesWith after skillKey = filesWith before skillKey := by
  have fresh : (dirs.flatMap (fileRows service disk)).filter (fun row => row.skillKey = skillKey) = [] := by
    apply List.filter_eq_nil_iff.2
    intro row inside same
    obtain ⟨dir, member, inside⟩ := List.mem_flatMap.1 inside
    obtain ⟨file, _, rfl⟩ := List.mem_map.1 inside
    exact absent (List.mem_map.2 ⟨dir, member, of_decide_eq_true same⟩)
  rw [filesWith, indexed.files, List.filter_append, fresh, List.append_nil, List.filter_filter, filesWith]
  apply List.filter_congr
  intro row _
  rw [← Bool.decide_and, decide_eq_decide]
  exact ⟨And.left, fun same => ⟨same, same ▸ absent⟩⟩

theorem mem_testRows {dir : Path} {row : SkillTest} (member : row ∈ testRows service disk dir) :
    row.skillKey = skillKeyOf service dir ∧ row.lastRunAt = none := by
  rw [testRows] at member
  split at member
  next metadata body loads =>
    rw [syncDeclaredTests] at member
    split at member
    next declared same =>
      obtain ⟨test, _, rfl⟩ := List.mem_map.1 member
      exact ⟨rfl, rfl⟩
    next => cases member
  next => cases member

theorem testsWith_eq (indexed : Indexed service disk dirs before after) : testsWith after skillKey = testsWith before skillKey ++
    (dirs.filter fun dir => skillKeyOf service dir = skillKey).flatMap (testRows service disk) := by
  rw [testsWith, indexed.tests, List.filter_append, ← testsWith, filter_rows (skillKeyOf service)]
  intro dir _ row inside
  obtain ⟨key, unrun⟩ := mem_testRows inside
  rw [decide_eq_decide, key]
  exact ⟨And.left, fun same => ⟨same, unrun⟩⟩

/-- What is committed mirrors the tree and stays under another scan, exactly when nothing stands in the way. -/
theorem mirrors_iff (indexed : Indexed service disk (skillDirs service.root disk) before after)
    (again : Indexed service disk (skillDirs service.root disk) after settled) :
    Mirrors service disk after ∧ Same settled after ↔ Exact service before disk := by
  have shared := perm_iff_pairwise (skillKeyOf service) (fileRows service disk) (skillDirs service.root disk)
  have empty : ∀ dir, fileRows service disk dir = [] ↔ (filesOf service dir disk).rows = [] := by
    intro dir
    rw [fileRows, List.map_eq_nil_iff]
  simp only [empty] at shared
  have here : ∀ dir ∈ skillDirs service.root disk, skillKeyOf service dir ∈
      (skillDirs service.root disk).map (skillKeyOf service) := fun dir member => List.mem_map_of_mem member
  have declared : (∀ dir ∈ skillDirs service.root disk, testRows service disk dir = []) → ∀ skillKey,
      ((skillDirs service.root disk).filter fun dir => skillKeyOf service dir = skillKey).flatMap
        (testRows service disk) = [] := by
    intro none skillKey
    apply List.flatMap_eq_nil_iff.2
    intro dir inside
    exact none dir (List.mem_of_mem_filter inside)
  constructor
  · rintro ⟨mirrors, same⟩
    have undeclared : ∀ dir ∈ skillDirs service.root disk, testRows service disk dir = [] := by
      intro dir member
      have more := (same.tests (skillKeyOf service dir)).length_eq
      rw [testsWith_eq again, List.length_append] at more
      have none := List.length_eq_zero_iff.1 (Nat.add_eq_left.1 more)
      exact List.flatMap_eq_nil_iff.1 none dir (List.mem_filter.2 ⟨member, decide_eq_true rfl⟩)
    constructor
    case present =>
      intro skillKey live
      exact (mirrors.active skillKey).1 ((active_iff indexed).2 (.inr live))
    case apart =>
      apply shared.1
      intro dir member
      rw [← filesWith_of_mem indexed (here dir member)]
      exact mirrors.files dir member
    case untested =>
      intro dir member
      have none := mirrors.tests dir member
      rw [undeclared dir member, List.perm_nil, testsWith_eq indexed, List.append_eq_nil_iff] at none
      exact none.1
    case undeclared => exact undeclared
  · intro clear
    have tests : ∀ skillKey, testsWith settled skillKey = testsWith after skillKey := by
      intro skillKey
      rw [testsWith_eq again, declared clear.undeclared, List.append_nil]
    refine ⟨⟨?_, ?_, ?_⟩, ?_, ?_, ?_⟩
    · intro skillKey
      rw [active_iff indexed, or_iff_left_iff_imp]
      exact clear.present skillKey
    · intro dir member
      rw [filesWith_of_mem indexed (here dir member)]
      exact shared.2 clear.apart dir member
    · intro dir member
      rw [testsWith_eq indexed, clear.untested dir member, declared clear.undeclared, clear.undeclared dir member]
      exact List.Perm.refl _
    · intro skillKey
      rw [active_iff again, active_iff indexed, ← or_assoc, or_self]
    · intro skillKey
      by_cases known : skillKey ∈ (skillDirs service.root disk).map (skillKeyOf service)
      · rw [filesWith_of_mem again known, filesWith_of_mem indexed known]
      · rw [filesWith_of_notMem again known]
    · intro skillKey
      rw [tests]

omit [CharData] [DateData] in
/-- Making the directories of the root leaves the tree, or there is none. -/
theorem tree_of_made (closed : Closed disk) (made : makeDirectories [] service.root disk = .ok next) :
    next = disk ∨ skillDirs service.root disk = [] ∧ skillDirs service.root next = [] := by
  obtain ⟨_, way, others⟩ := makeDirectories_ok closed (node_root disk) made
  by_cases inside : node disk service.root = some .directory
  · rw [makeDirectories_existing closed inside, Except.ok.injEq] at made
    exact .inl made.symm
  · right
    have bare : ∀ dir, node disk (service.root ++ dir ++ [manifestName]) = none := by
      intro dir
      by_contra there
      obtain ⟨found, same⟩ := Option.ne_none_iff_exists'.1 there
      rw [List.append_assoc] at same
      exact inside (directory_above closed _ _ (by simp) same)
    constructor
    · apply List.eq_nil_iff_forall_not_mem.2
      intro dir member
      obtain ⟨found, same⟩ := node_of_mem_keys (by simp) (mem_skillDirs.1 member)
      rw [bare] at same
      cases same
    · apply List.eq_nil_iff_forall_not_mem.2
      intro dir member
      obtain ⟨found, same⟩ := node_of_mem_keys (by simp) (mem_skillDirs.1 member)
      rcases others (service.root ++ dir ++ [manifestName]) with kept | ⟨_, _, above⟩
      · rw [kept, bare] at same
        cases same
      · have longer := above.length_le
        simp at longer

variable {state after : Service.State} {session : Session} {count : Nat}

theorem exact_of_made (closed : Closed disk) (made : makeDirectories [] service.root disk = .ok next) :
    Exact service before next ↔ Exact service before disk := by
  rcases tree_of_made closed made with rfl | ⟨none, none'⟩
  · rfl
  · constructor
    · intro clear
      refine ⟨?_, ?_, ?_, ?_⟩
      · rw [none, ← none']
        exact clear.present
      · rw [none]
        exact List.Pairwise.nil
      · rw [none]
        exact fun dir member => by cases member
      · rw [none]
        exact fun dir member => by cases member
    · intro clear
      refine ⟨?_, ?_, ?_, ?_⟩
      · rw [none', ← none]
        exact clear.present
      · rw [none']
        exact List.Pairwise.nil
      · rw [none']
        exact fun dir member => by cases member
      · rw [none']
        exact fun dir member => by cases member

/-- The index that a scan commits mirrors the tree, and another scan changes nothing, exactly when no active skill has
left the tree, keys are shared only where no text is visible, and there are no declared tests. -/
theorem index_mirrors_iff (closed : Closed disk) (ran : (scan service { state }).exec disk = (.ok (count, session), next))
    (committed : session.commit = .ok after) : (Mirrors service next after.db ∧ ∃ again settled,
      (∃ count, (scan service { state := after }).exec next = (.ok (count, again), next)) ∧
        again.commit = .ok settled ∧ Same settled.db after.db) ↔ Exact service state.db disk := by
  obtain ⟨made, scanned⟩ := scanned_of_scan ran
  obtain ⟨closed', way, _⟩ := makeDirectories_ok closed (node_root disk) made
  have inside : node next service.root = some .directory := way service.root [] (List.append_nil _).symm
  have indexed := indexed_of_scanned scanned committed
  rw [← exact_of_made closed made]
  constructor
  · rintro ⟨mirrors, again, settled, ⟨count, ran'⟩, committed', same⟩
    have indexed' := indexed_of_scanned (scanned_of_scan ran').2 committed'
    exact (mirrors_iff indexed indexed').1 ⟨mirrors, same⟩
  · intro clear
    obtain ⟨again, settled, ran', committed', indexed'⟩ := scan_again closed' inside indexed
    obtain ⟨mirrors, same⟩ := (mirrors_iff indexed indexed').2 clear
    exact ⟨mirrors, again, settled, ran', committed', same⟩

end Conditions

section Demo
attribute [local instance] CharData.ascii DateData.undated

/-- An index with a skill whose directory is no longer there. -/
private def departed : Service.State where
  db := { noSkills with skills := ⟨[⟨"gone", "Gone", "", "/skills/gone", "active", []⟩], by decide⟩ }
  proposals := Table.empty

private def unscanned : Service.State := ⟨noSkills, Table.empty⟩

private def scanning (state : Service.State) : Except PyException (Nat × Session) × Disk :=
  (scan plainSkills { state }).exec researchTree

theorem index_mirrors_research : ∃ result after, (scanning unscanned).1 = .ok result ∧ result.2.commit = .ok after ∧
    ((Mirrors plainSkills (scanning unscanned).2 after.db ∧ ∃ again settled,
      (∃ count, (scan plainSkills { state := after }).exec (scanning unscanned).2 =
        (.ok (count, again), (scanning unscanned).2)) ∧ again.commit = .ok settled ∧ Same settled.db after.db) ↔
      Exact plainSkills noSkills researchTree) := by
  have returned : (scanning unscanned).1.toOption.any (fun result => result.2.commit.toOption.isSome = true) = true := by
    decide +kernel
  obtain ⟨⟨count, session⟩, ran, stored⟩ := exists_ok returned
  obtain ⟨after, stored⟩ := Option.isSome_iff_exists.1 stored
  exact ⟨_, after, ran, toOption_eq_some.1 stored,
    index_mirrors_iff (by decide +kernel) (Prod.ext ran rfl) (toOption_eq_some.1 stored)⟩

/-- A skill that has left the tree stays active. -/
theorem vanished_stays : ∃ result after, (scanning departed).1 = .ok result ∧ result.2.commit = .ok after ∧
    Active after.db "gone" ∧ ¬Mirrors plainSkills (scanning departed).2 after.db := by
  have returned : (scanning departed).1.toOption.any (fun result => result.2.commit.toOption.any (fun after =>
      ∃ skill ∈ after.db.skills.rows, skill.skillKey = "gone" ∧ skill.status = "active") = true) = true := by
    decide +kernel
  obtain ⟨result, ran, stored⟩ := exists_ok returned
  obtain ⟨after, committed, live⟩ := exists_ok stored
  refine ⟨result, after, ran, committed, live, ?_⟩
  intro mirrors
  have absent : ∀ dir ∈ skillDirs plainSkills.root (scanning departed).2, skillKeyOf plainSkills dir ≠ "gone" := by
    decide +kernel
  obtain ⟨dir, member, same⟩ := (mirrors.active "gone").1 live
  exact absent dir member same

end Demo

end SoulClaw.Skills.Mirror
