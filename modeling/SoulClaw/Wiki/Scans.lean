import SoulClaw.Wiki.Image
import SoulClaw.Wiki.Storage

/-! The pages that parse, and what a compile makes of them where others do not: their keys are distinct exactly where
the compile has no duplicate to report, and then each of them has its row. -/

namespace SoulClaw.Wiki.Scans
open Foundation Files Markdown Compile Image Storage

section Pages
variable [CharData] [FloatData] [DateData] (service : WikiService) (tree : WikiTree)

/-- The pages that parse. -/
def parsedPages : List ParsedWikiPage :=
  tree.markdownPaths.filterMap fun file => (service.parseMarkdownPage file).toOption

variable {service tree}

theorem mem_parsedPages {page : ParsedWikiPage} : page ∈ parsedPages service tree ↔
    ∃ file ∈ tree.markdownPaths, service.parseMarkdownPage file = .ok page := by
  rw [parsedPages, List.mem_filterMap]
  exact exists_congr fun file => and_congr_right fun _ => toOption_eq_some

theorem parsedPages_nodup : (parsedPages service tree).Nodup := by
  have within : ∀ files : List WikiFile,
      ((files.filterMap fun file => (service.parseMarkdownPage file).toOption).map ParsedWikiPage.relativePath).Sublist
        (files.map WikiFile.path) := by
    intro files
    induction files with
    | nil => exact List.Sublist.refl _
    | cons file rest ih =>
      rw [List.filterMap_cons, List.map_cons]
      cases parsed : service.parseMarkdownPage file with
      | error raised => exact ih.cons _
      | ok page =>
        show (page.relativePath :: _).Sublist _
        rw [relativePath_of_parsed parsed]
        exact ih.cons_cons _
  exact (tree.markdownPaths_distinct.sublist (within _)).of_map _

theorem parsed_of_parses {files : List WikiFile} {pages : List ParsedWikiPage} (parses : Parses service files pages)
    {file : WikiFile} (member : file ∈ files) : ∃ page ∈ pages, service.parseMarkdownPage file = .ok page := by
  induction parses with
  | nil => cases member
  | cons parsed _ ih =>
    rcases List.mem_cons.1 member with rfl | later
    · exact ⟨_, List.mem_cons_self, parsed⟩
    · obtain ⟨page, listed, known⟩ := ih later
      exact ⟨page, List.mem_cons_of_mem _ listed, known⟩

theorem filterMap_of_parses {files : List WikiFile} {pages : List ParsedWikiPage} (parses : Parses service files pages) :
    files.filterMap (fun file => (service.parseMarkdownPage file).toOption) = pages := by
  induction parses with
  | nil => rfl
  | cons parsed _ ih => rw [List.filterMap_cons, parsed, ih]; rfl

theorem exists_parses {files : List WikiFile} (all : ∀ file ∈ files, ∃ page, service.parseMarkdownPage file = .ok page) :
    ∃ pages, Parses service files pages := by
  induction files with
  | nil => exact ⟨[], .nil⟩
  | cons file rest ih =>
    rw [List.forall_mem_cons] at all
    obtain ⟨page, parsed⟩ := all.1
    obtain ⟨pages, parses⟩ := ih all.2
    exact ⟨page :: pages, .cons parsed parses⟩

/-! Duplicate keys. -/

/-- No entry reports a duplicate key. -/
def Undoubled (entries : List WikiErrorBook) : Prop := ∀ entry ∈ entries, entry.errorType ≠ "duplicate_page_key"

omit [CharData] [FloatData] [DateData] in
theorem undoubled_append {first second : List WikiErrorBook} :
    Undoubled (first ++ second) ↔ Undoubled first ∧ Undoubled second := List.forall_mem_append

/-- A scan has no duplicate to report exactly where the keys of the pages are distinct, and then it keeps all pages. -/
theorem undoubled_scanFiles (service : WikiService) (files : List WikiFile) :
    (Undoubled (scanFiles service files).newErrors ↔
      ((files.filterMap fun file => (service.parseMarkdownPage file).toOption).map ParsedWikiPage.pageKey).Nodup) ∧
    (Undoubled (scanFiles service files).newErrors →
      (scanFiles service files).pages = files.filterMap fun file => (service.parseMarkdownPage file).toOption) := by
  induction files using List.reverseRecOn with
  | nil => exact ⟨⟨fun _ => List.nodup_nil, fun _ entry member => absurd member List.not_mem_nil⟩, fun _ => rfl⟩
  | append_singleton files file ih =>
    obtain ⟨distinct, kept⟩ := ih
    have next : scanFiles service (files ++ [file]) = scanFile service (scanFiles service files) file :=
      List.foldl_append ..
    rw [next, List.filterMap_append, List.map_append, scanFile]
    cases parsed : service.parseMarkdownPage file with
    | error raised =>
      have none : List.filterMap (fun file => (service.parseMarkdownPage file).toOption) [file] = [] := by
        rw [List.filterMap_cons, parsed]
        rfl
      have apart : Undoubled [parseError file raised] := by
        intro entry member
        rw [List.mem_singleton.1 member]
        exact (by decide : "compile_error" ≠ "duplicate_page_key")
      rw [none, List.map_nil, List.append_nil, List.append_nil, ← distinct]
      dsimp only
      rw [undoubled_append, and_iff_left apart]
      exact ⟨Iff.rfl, kept⟩
    | ok page =>
      have one : List.filterMap (fun file => (service.parseMarkdownPage file).toOption) [file] = [page] := by
        rw [List.filterMap_cons, parsed]
        rfl
      rw [one, List.map_singleton]
      dsimp only
      by_cases seen : page.pageKey ∈ (scanFiles service files).keys
      · -- The page that the scan has under this key has parsed before.
        rw [if_pos seen]
        dsimp only
        have doubled : ¬Undoubled ((scanFiles service files).newErrors ++ [duplicateError file page]) := by
          intro single
          exact single _ (List.mem_append_right _ (List.mem_singleton_self _)) rfl
        refine ⟨⟨fun single => absurd single doubled, fun apart => ?_⟩, fun single => absurd single doubled⟩
        obtain ⟨other, member, same⟩ := List.mem_map.1 seen
        obtain ⟨before, listed, parsed'⟩ := parsed_of_mem_scanFiles member
        have early : page.pageKey ∈
            (files.filterMap fun file => (service.parseMarkdownPage file).toOption).map ParsedWikiPage.pageKey :=
          List.mem_map.2 ⟨other, List.mem_filterMap.2 ⟨before, listed, toOption_eq_some.2 parsed'⟩, same⟩
        exact absurd rfl ((List.nodup_append.1 apart).2.2 _ early _ (List.mem_singleton_self _))
      · rw [if_neg seen]
        dsimp only
        refine ⟨⟨fun single => ?_, fun apart => distinct.2 (List.nodup_append.1 apart).1⟩, fun single => by rw [kept single]⟩
        rw [Scanned.keys, kept single] at seen
        refine List.nodup_append.2 ⟨distinct.1 single, List.nodup_singleton _, fun key known other added same => ?_⟩
        exact seen (List.mem_singleton.1 added ▸ same ▸ known)

/-- Without a duplicate a compile indexes every page that parses. -/
theorem indexed_of_undoubled (single : Undoubled (scanFiles service tree.markdownPaths).newErrors) :
    indexedPages service tree = parsedPages service tree := (undoubled_scanFiles service tree.markdownPaths).2 single

theorem clean_iff (distinct : ((parsedPages service tree).map ParsedWikiPage.pageKey).Nodup) :
    (scanFiles service tree.markdownPaths).errors = [] ↔
      ∀ file ∈ tree.markdownPaths, ∃ page, service.parseMarkdownPage file = .ok page := by
  constructor
  · intro clean file member
    obtain ⟨page, _, parsed⟩ := parsed_of_parses (parses_of_clean clean) member
    exact ⟨page, parsed⟩
  · intro all
    obtain ⟨pages, parses⟩ := exists_parses all
    rw [parsedPages, filterMap_of_parses parses] at distinct
    rw [scanFiles_of_parses parses distinct]

/-! The rows after a compile. -/

variable {now : Int} {db : WikiDb}

theorem mem_compiled_pages {row : WikiPage} : row ∈ (compiled service tree now db).pages.rows ↔
    row ∈ (cleared (scanFiles service tree.markdownPaths) (tree.markdownPaths.map WikiFile.path) now db).pages.rows ∧
      (∀ page ∈ indexedPages service tree, row.pageKey ≠ page.pageKey) ∨
    ∃ page ∈ indexedPages service tree, row = pageImage page := by
  rw [compiled, compilePages_pages]
  apply Keyed.mem_upsertAll
  · intro page row same
    exact refresh_eq_pageImage same
  · exact scanFiles_distinct _

theorem find?_compiled {page : ParsedWikiPage} (member : page ∈ indexedPages service tree) :
    (compiled service tree now db).pages.find? page.pageKey = some (pageImage page) := by
  rw [Keyed.find?_eq_some_iff, mem_compiled_pages]
  exact ⟨.inr ⟨page, member, rfl⟩, rfl⟩

/-- The row under a key that no page has stays where some page has a problem. -/
theorem find?_compiled_of_absent {key : String} (absent : ∀ page ∈ indexedPages service tree, page.pageKey ≠ key) :
    (compiled service tree now db).pages.find? key =
      if (scanFiles service tree.markdownPaths).errors = [] then none else db.pages.find? key := by
  ext row
  rw [Keyed.find?_eq_some_iff, mem_compiled_pages, cleared]
  dsimp only
  by_cases clean : (scanFiles service tree.markdownPaths).errors = []
  · rw [if_pos clean, if_pos clean, Keyed.mem_restrict]
    constructor
    · rintro ⟨⟨⟨_, kept⟩, others⟩ | ⟨page, member, rfl⟩, same⟩
      · obtain ⟨page, member, same'⟩ := List.mem_map.1 kept
        exact absurd same'.symm (others page member)
      · exact absurd same (absent page member)
    · intro none
      cases none
  · rw [if_neg clean, if_neg clean, Keyed.find?_eq_some_iff]
    constructor
    · rintro ⟨⟨stored, _⟩ | ⟨page, member, rfl⟩, same⟩
      · exact ⟨stored, same⟩
      · exact absurd same (absent page member)
    · rintro ⟨stored, rfl⟩
      exact ⟨.inl ⟨stored, fun page member same => absent page member same.symm⟩, rfl⟩

/-- The entries that a compile adds. -/
theorem new_errors_compiled : (compiled service tree now db).errors.rows.drop db.errors.rows.length =
    (scanFiles service tree.markdownPaths).newErrors ++
      (indexedPages service tree).flatMap (danglingErrors (knownNames (indexedPages service tree))) := by
  rw [compiled, compilePages_errors, rows_addErrors, cleared, rows_addErrors, closeErrors, List.append_assoc]
  exact List.drop_left' (List.length_map _)

theorem undoubled_compiled :
    Undoubled ((compiled service tree now db).errors.rows.drop db.errors.rows.length) ↔
      ((parsedPages service tree).map ParsedWikiPage.pageKey).Nodup := by
  rw [new_errors_compiled, undoubled_append, parsedPages, ← (undoubled_scanFiles service tree.markdownPaths).1]
  apply and_iff_left
  intro entry member
  obtain ⟨page, _, found⟩ := List.mem_flatMap.1 member
  obtain ⟨link, _, rfl⟩ := List.mem_map.1 found
  exact (by decide : "dangling_link" ≠ "duplicate_page_key")

end Pages

/-! The pages on a disk. -/

section Disk

theorem mem_files_treeOf {root : Path} {disk : Disk} {file : WikiFile} : file ∈ (treeOf root disk).files ↔
    ∃ path node', path ≠ [] ∧ node disk (root ++ path) = some node' ∧ file = wikiFile path node' := by
  constructor
  · intro member
    obtain ⟨entry, _, made⟩ := List.mem_filterMap.1 member
    obtain ⟨path, inside, rfl⟩ := Option.map_eq_some_iff.1 made
    have below := (relative_eq_some.1 inside).2
    obtain ⟨node', found, same⟩ := of_mem_treeOf below member (path_wikiFile path entry.2)
    exact ⟨path, node', below, found, same⟩
  · rintro ⟨path, node', below, found, rfl⟩
    exact mem_treeOf below found

/-- What has this path is listed among the pages. -/
def Listed (path : Path) : Prop :=
  isMarkdown (wikiFile path .directory) = true ∧ isHidden (wikiFile path .directory) = false

theorem mem_markdownPaths {tree : WikiTree} {file : WikiFile} :
    file ∈ tree.markdownPaths ↔ file ∈ tree.files ∧ isMarkdown file = true ∧ isHidden file = false := by
  rw [WikiTree.markdownPaths, List.mem_filter, List.mem_insertionSort, List.mem_filter, and_assoc, Bool.not_eq_true']

theorem mem_markdownPaths_treeOf {root : Path} {disk : Disk} {file : WikiFile} :
    file ∈ (treeOf root disk).markdownPaths ↔ ∃ path node', path ≠ [] ∧ Listed path ∧
      node disk (root ++ path) = some node' ∧ file = wikiFile path node' := by
  have listed : ∀ path node', isMarkdown (wikiFile path node') = true ∧ isHidden (wikiFile path node') = false ↔
      Listed path := by
    intro path node'
    simp only [Listed, isMarkdown, isHidden, WikiFile.name, WikiFile.parts, path_wikiFile]
  rw [mem_markdownPaths, mem_files_treeOf]
  constructor
  · rintro ⟨⟨path, node', below, found, rfl⟩, shown⟩
    exact ⟨path, node', below, (listed path node').1 shown, found, rfl⟩
  · rintro ⟨path, node', below, shown, found, rfl⟩
    exact ⟨⟨path, node', below, found, rfl⟩, (listed path node').2 shown⟩

variable [CharData] [FloatData] [DateData]

/-- The file at the path is a page that parses. -/
structure PageAt (service : WikiService) (root : Path) (disk : Disk) (path : Path) (page : ParsedWikiPage) : Prop where
  below : path ≠ []
  listed : Listed path
  parses : ∃ raw, node disk (root ++ path) = some (.file raw) ∧
    service.parseMarkdownPage (wikiFile path (.file raw)) = .ok page

variable {service : WikiService} {root path other : Path} {disk last : Disk} {page second : ParsedWikiPage}

theorem PageAt.relativePath (stands : PageAt service root disk path page) : page.relativePath = posix path := by
  obtain ⟨raw, _, parsed⟩ := stands.parses
  exact relativePath_of_parsed parsed

theorem PageAt.unique (stands : PageAt service root disk path page) (stands' : PageAt service root disk path second) :
    page = second := by
  obtain ⟨raw, found, parsed⟩ := stands.parses
  obtain ⟨raw', found', parsed'⟩ := stands'.parses
  obtain rfl := Node.file.inj (Option.some.inj (found.symm.trans found'))
  exact Except.ok.inj (parsed.symm.trans parsed')

theorem PageAt.same_path (stands : PageAt service root disk path page) (stands' : PageAt service root last other second)
    (same : page.relativePath = second.relativePath) : path = other :=
  posix_injective stands.below stands'.below (by rw [← stands.relativePath, ← stands'.relativePath, same])

theorem mem_parsedPages_treeOf :
    page ∈ parsedPages service (treeOf root disk) ↔ ∃ path, PageAt service root disk path page := by
  rw [mem_parsedPages]
  constructor
  · rintro ⟨file, member, parsed⟩
    obtain ⟨path, node', below, listed, found, rfl⟩ := mem_markdownPaths_treeOf.1 member
    cases node' with
    | directory => cases parsed
    | file raw => exact ⟨path, below, listed, raw, found, parsed⟩
  · rintro ⟨path, below, listed, raw, found, parsed⟩
    exact ⟨_, mem_markdownPaths_treeOf.2 ⟨path, _, below, listed, found, rfl⟩, parsed⟩

/-- The keys of the pages are distinct when no two places have pages of one key. -/
theorem distinct_treeOf : ((parsedPages service (treeOf root disk)).map ParsedWikiPage.pageKey).Nodup ↔
    ∀ path page other second, PageAt service root disk path page → PageAt service root disk other second →
      page.pageKey = second.pageKey → path = other := by
  constructor
  · intro distinct path page other second stands stands' same
    obtain rfl := List.inj_on_of_nodup_map distinct (mem_parsedPages_treeOf.2 ⟨path, stands⟩)
      (mem_parsedPages_treeOf.2 ⟨other, stands'⟩) same
    exact stands.same_path stands' rfl
  · intro apart
    refine List.Nodup.map_on ?_ parsedPages_nodup
    intro page member second member' same
    obtain ⟨path, stands⟩ := mem_parsedPages_treeOf.1 member
    obtain ⟨other, stands'⟩ := mem_parsedPages_treeOf.1 member'
    obtain rfl := apart path page other second stands stands' same
    exact stands.unique stands'

end Disk

end SoulClaw.Wiki.Scans
