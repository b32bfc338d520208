import SoulClaw.Skills.Mirror
import SoulClaw.Wiki.Sufficiency

/-! Keys as names: what a normaliser returns it returns again, so that a page or a skill is found under the key that
it is stored with. -/

namespace SoulClaw.Skills.Lookup
open Foundation Files Wiki.Storage Wiki.Keys Package Storage Service Mirror
open Wiki.Markdown (ParsedWikiPage WikiService normalizePageKey keyChar subRuns trim parseMarkdownPage_ok)
open Wiki.Compile (WikiTree WikiDb indexedPages compiled compile)

/-- `get`. -/
def get [CharData] (db : SkillDb) (skillKey : String) : Option Skill := db.skills.find? (normalizeSkillKey skillKey)

/-! Normal keys. -/

/-- A key of `a-z`, `0-9`, `_`, `-` and `/`, with no two hyphens in a row and neither a hyphen nor a slash at an end. -/
structure Shape (key : List Char) : Prop where
  plain : ∀ c ∈ key, keyChar c = true
  single : ¬['-', '-'] <:+: key
  starts : ∀ c ∈ key.head?, c ≠ '-' ∧ c ≠ '/'
  ends : ∀ c ∈ key.getLast?, c ≠ '-' ∧ c ≠ '/'

theorem single_iff {text : List Char} : Single text ↔ ¬['-', '-'] <:+: text := by
  induction text with
  | nil => simp [Single]
  | cons first rest ih =>
    have front : ['-', '-'] <+: first :: rest ↔ first = '-' ∧ rest.head? = some '-' := by
      rw [List.cons_prefix_cons, eq_comm, List.head?_eq_some_iff]
      exact and_congr_right fun _ => ⟨fun ⟨tail, same⟩ => ⟨tail, same.symm⟩, fun ⟨tail, same⟩ => ⟨tail, same.symm⟩⟩
    rw [Single, List.isChain_cons, ← Single, ih, List.infix_cons_iff, not_or, front]
    constructor
    · rintro ⟨apart, none⟩
      exact ⟨fun both => apart '-' both.2 ⟨both.1, rfl⟩, none⟩
    · rintro ⟨apart, none⟩
      exact ⟨fun second follows both => apart ⟨both.1, both.2 ▸ follows⟩, none⟩

theorem getLast?_trim {test : Char → Bool} {text : List Char} {c : Char} (last : (trim test text).getLast? = some c) :
    test c = false := by
  rw [trim, List.getLast?_reverse] at last
  have kept := List.head?_dropWhile_not test (text.dropWhile test).reverse
  rw [last] at kept
  simpa using kept

theorem shape_of_normal {key : List Char} (normal : Normal key) : Shape key := by
  have edge : ∀ c, (decide (c ∈ ['-', '/'])) = false → c ≠ '-' ∧ c ≠ '/' := by
    intro c other
    simpa using other
  refine ⟨normal.kept, single_iff.1 normal.single, ?_, ?_⟩
  · intro c first
    rw [← normal.trimmed] at first
    exact edge c (head?_trim first)
  · intro c last
    rw [← normal.trimmed] at last
    exact edge c (getLast?_trim last)

section Keys
variable [CharData]

theorem normal_normalizeSkillKey (value : String) : Normal (normalizeSkillKey value).toList := by
  rw [normalizeSkillKey, String.toList_ofList]
  exact normal_passes _

theorem normalizeSkillKey_of_normal {value : String} (normal : Normal value.toList) : normalizeSkillKey value = value := by
  rw [normalizeSkillKey, slashes_of_normal normal, lowered_of_normal normal, passes_of_normal normal, String.ofList_toList]

@[simp] theorem normalizeSkillKey_normalizeSkillKey (value : String) :
    normalizeSkillKey (normalizeSkillKey value) = normalizeSkillKey value :=
  normalizeSkillKey_of_normal (normal_normalizeSkillKey value)

end Keys

/-! Lookups. -/

section Found
variable [CharData] [FloatData] [DateData]

/-- The key of a page is normal. -/
theorem normalizePageKey_pageKey {service : WikiService} {tree : WikiTree} {page : ParsedWikiPage}
    (indexed : page ∈ indexedPages service tree) : normalizePageKey page.pageKey = page.pageKey := by
  obtain ⟨file, _, parsed⟩ := Wiki.Compile.parsed_of_mem_scanFiles indexed
  obtain ⟨raw, metadata, body, confidence, _, _, rfl⟩ := parseMarkdownPage_ok parsed
  exact normalizePageKey_normalizePageKey _

theorem read_compiled {service : WikiService} {tree : WikiTree} {now : Int} {db : WikiDb} {page : ParsedWikiPage}
    (indexed : page ∈ indexedPages service tree) :
    ∃ row, Wiki.Sufficiency.read (compiled service tree now db) page.pageKey = some row ∧ row.pageKey = page.pageKey := by
  have stored : page.pageKey ∈ (compiled service tree now db).pages.keys := by
    rw [compiled, Wiki.Compile.compilePages_pages, Keyed.mem_keys_upsertAll]
    exact Or.inr (List.mem_map.2 ⟨page, indexed, rfl⟩)
  obtain ⟨row, member, same⟩ := List.mem_map.1 stored
  refine ⟨row, ?_, same⟩
  rw [Wiki.Sufficiency.read, normalizePageKey_pageKey indexed]
  exact Keyed.find?_eq_some_iff.2 ⟨member, same⟩

omit [FloatData] [DateData] in
/-- The key of the skill in a directory is normal. -/
theorem normalizeSkillKey_skillKeyOf (service : SkillService) (dir : Path) :
    normalizeSkillKey (skillKeyOf service dir) = skillKeyOf service dir := by
  rw [skillKeyOf]
  split
  · exact normalizeSkillKey_normalizeSkillKey _
  · exact normalizeSkillKey_normalizeSkillKey _

omit [FloatData] in
theorem get_scanned {service : SkillService} {state after : Service.State} {disk next : Disk} {count : Nat}
    {session : Service.Session} (ran : (scan service { state }).exec disk = (.ok (count, session), next))
    (committed : session.commit = .ok after) {dir : Path} (member : dir ∈ skillDirs service.root next) :
    ∃ skill, get after.db (skillKeyOf service dir) = some skill ∧ skill.skillKey = skillKeyOf service dir := by
  have present := (indexed_of_scanned (scanned_of_scan ran).2 committed).present dir member
  obtain ⟨skill, stored, same⟩ := List.mem_map.1 present
  refine ⟨skill, ?_, same⟩
  rw [get, normalizeSkillKey_skillKeyOf]
  exact Keyed.find?_eq_some_iff.2 ⟨stored, same⟩

end Found

/-- Both normalisers are projections onto keys of one shape, and what a compile or a scan stores under a key is found
under it. -/
theorem normalized_keys_found [CharData] [FloatData] [DateData] :
    (∀ value, normalizePageKey (normalizePageKey value) = normalizePageKey value ∧ Shape (normalizePageKey value).toList) ∧
    (∀ value, normalizeSkillKey (normalizeSkillKey value) = normalizeSkillKey value ∧
      Shape (normalizeSkillKey value).toList) ∧
    (∀ (service : WikiService) (tree : WikiTree) (now : Int) (db after : WikiDb) (report : Wiki.Compile.CompileReport),
      compile service tree now db = .ok (report, after) → ∀ page ∈ indexedPages service tree,
        ∃ row, Wiki.Sufficiency.read after page.pageKey = some row ∧ row.pageKey = page.pageKey) ∧
    ∀ (service : SkillService) (state after : Service.State) (disk next : Disk) (count : Nat) (session : Service.Session),
      (scan service { state }).exec disk = (.ok (count, session), next) → session.commit = .ok after →
        ∀ dir ∈ skillDirs service.root next,
          ∃ skill, get after.db (skillKeyOf service dir) = some skill ∧ skill.skillKey = skillKeyOf service dir := by
  refine ⟨fun value => ⟨normalizePageKey_normalizePageKey value, shape_of_normal (normal_normalizePageKey value)⟩,
    fun value => ⟨normalizeSkillKey_normalizeSkillKey value, shape_of_normal (normal_normalizeSkillKey value)⟩, ?_, ?_⟩
  · intro service tree now db after report returned page indexed
    obtain ⟨_, rfl⟩ := Wiki.Compile.compile_ok returned
    exact read_compiled indexed
  · intro service state after disk next count session ran committed dir member
    exact get_scanned ran committed member

end SoulClaw.Skills.Lookup
