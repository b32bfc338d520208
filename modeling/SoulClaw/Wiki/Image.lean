import SoulClaw.Wiki.Compile

/-! A compile without errors makes the tables the image of the files, whatever they held before.
After every compile the resolved links lead from page to page. -/

namespace SoulClaw.Wiki.Image
open Foundation Markdown Compile

/-! What the tables should hold for a page. -/

def pageImage (page : ParsedWikiPage) : WikiPage where
  pageKey := page.pageKey
  title := page.title
  pageType := page.pageType
  path := page.relativePath
  summary := page.summary
  body := page.body
  aliases := page.aliases
  tags := page.tags
  confidence := page.confidence
  claims := page.claims
  sourceRefs := page.sourceRefs
  staleAfter := page.staleAfter
  checksum := page.checksum
  metadata := page.metadata

def sourceImage (service : WikiService) (file : WikiFile) (page : ParsedWikiPage) : WikiSource where
  sourceKey := file.path
  kind := "markdown"
  uri := service.root ++ "/" ++ file.path
  checksum := page.checksum
  metadata := [("page_key", .str page.pageKey)]

theorem refresh_eq_pageImage {page : ParsedWikiPage} {row : WikiPage} (same : row.pageKey = page.pageKey) :
    WikiPage.refresh page row = pageImage page := by
  cases row
  cases same
  rfl

section Image
variable [CharData] [FloatData] [DateData]

/-- The occurrences of wikilinks in a page that have a key. -/
def keyedLinks (page : ParsedWikiPage) : List Wikilink :=
  (wikilinks page.body).filter fun link => link.key ≠ ""

/-- The rows of the links of a page, by the resolution map of all pages. -/
def linkImage (pages : List ParsedWikiPage) (page : ParsedWikiPage) : List WikiLink :=
  (keyedLinks page).map fun link => wikiLink (knownNames pages) page (link.key, link.anchor)

/-- The tables hold the image of the files of `tree`, whose pages are `pages`. -/
structure IsImage (service : WikiService) (tree : WikiTree) (pages : List ParsedWikiPage) (db : WikiDb) : Prop where
  parses : Parses service tree.markdownPaths pages
  distinct : (pages.map ParsedWikiPage.pageKey).Nodup
  pageRows : db.pages.rows.Perm (pages.map pageImage)
  sourceRows : db.sources.rows.Perm
    ((tree.markdownPaths.zip pages).map fun entry => sourceImage service entry.1 entry.2)
  linkRows : db.links.Perm (pages.flatMap (linkImage pages))

variable {service : WikiService} {tree : WikiTree} {now : Int} {db after : WikiDb} {report : CompileReport}

theorem map_of_parses {Row : Type*} {files : List WikiFile} {pages : List ParsedWikiPage}
    (parses : Parses service files pages) {row : ParsedWikiPage → Row} {image : WikiFile → ParsedWikiPage → Row}
    (agrees : ∀ file page, service.parseMarkdownPage file = .ok page → row page = image file page) :
    pages.map row = (files.zip pages).map fun entry => image entry.1 entry.2 := by
  induction parses with
  | nil => rfl
  | cons parsed _ ih => rw [List.map_cons, ih, List.zip_cons_cons, List.map_cons, agrees _ _ parsed]

theorem paths_of_parses {files : List WikiFile} {pages : List ParsedWikiPage}
    (parses : Parses service files pages) :
    pages.map ParsedWikiPage.relativePath = files.map WikiFile.path := by
  induction parses with
  | nil => rfl
  | cons parsed _ ih => rw [List.map_cons, List.map_cons, relativePath_of_parsed parsed, ih]

omit [FloatData] [DateData] in
theorem linkImage_eq {page : ParsedWikiPage} (links : page.links = linksOf page.body) (pages : List ParsedWikiPage) :
    page.links.map (wikiLink (knownNames pages) page) = linkImage pages page := by
  rw [links, linksOf, List.map_map]
  rfl

private theorem sourceImage_of_parsed {file : WikiFile} {page : ParsedWikiPage}
    (parsed : service.parseMarkdownPage file = .ok page) :
    WikiSource.refresh page (newSource page) = sourceImage service file page := by
  obtain ⟨raw, metadata, body, confidence, _, _, rfl⟩ := parseMarkdownPage_ok parsed
  rfl

theorem compiled_links : (compiled service tree now db).links = (indexedPages service tree).flatMap
    fun page => linkImage (indexedPages service tree) page := by
  rw [links_compiled]
  apply List.flatMap_congr
  intro page member
  obtain ⟨file, _, parsed⟩ := parsed_of_mem_scanFiles member
  exact linkImage_eq (links_of_parsed parsed) _

theorem mem_compiled_links {row : WikiLink} : row ∈ (compiled service tree now db).links ↔
    ∃ page ∈ indexedPages service tree, ∃ link ∈ wikilinks page.body, link.key ≠ "" ∧
      row = wikiLink (knownNames (indexedPages service tree)) page (link.key, link.anchor) := by
  rw [compiled_links, List.mem_flatMap]
  apply exists_congr
  intro page
  apply and_congr_right
  intro _
  rw [linkImage, keyedLinks, List.mem_map]
  constructor
  · rintro ⟨link, kept, rfl⟩
    obtain ⟨occurs, keyed⟩ := List.mem_filter.1 kept
    exact ⟨link, occurs, of_decide_eq_true keyed, rfl⟩
  · rintro ⟨link, occurs, keyed, rfl⟩
    exact ⟨link, List.mem_filter.2 ⟨occurs, decide_eq_true keyed⟩, rfl⟩

theorem mem_compiled_keys {key : String} (member : key ∈ (indexedPages service tree).map ParsedWikiPage.pageKey) :
    key ∈ (compiled service tree now db).pages.keys := by
  rw [compiled, compilePages_pages, Keyed.mem_keys_upsertAll]
  exact .inr member

section Clean
variable (clean : (scanFiles service tree.markdownPaths).errors = [])
include clean

theorem compiled_pages : (compiled service tree now db).pages.rows.Perm ((indexedPages service tree).map pageImage) := by
  rw [compiled, compilePages_pages, cleared, if_pos clean]
  apply Keyed.upsertAll_perm
  · intro page row same
    exact refresh_eq_pageImage same
  · exact scanFiles_distinct _
  · intro row stored
    exact (Keyed.mem_restrict.1 stored).2

theorem compiled_sources : (compiled service tree now db).sources.rows.Perm
    ((tree.markdownPaths.zip (indexedPages service tree)).map fun entry => sourceImage service entry.1 entry.2) := by
  have parses := parses_of_clean clean
  have paths := paths_of_parses parses
  rw [compiled, compilePages_sources, ← map_of_parses parses fun file page parsed => sourceImage_of_parsed parsed]
  simp only [cleared, if_pos clean]
  apply Keyed.upsertAll_perm
  · intro page row same
    cases row
    cases same
    rfl
  · show ((indexedPages service tree).map ParsedWikiPage.relativePath).Nodup
    rw [paths]
    exact tree.markdownPaths_distinct
  · intro row stored
    show row.sourceKey ∈ (indexedPages service tree).map ParsedWikiPage.relativePath
    rw [paths]
    exact (Keyed.mem_restrict.1 stored).2

end Clean

theorem clean_of_ok (returned : compile service tree now db = .ok (report, after)) (ok : report.status = "ok") :
    (scanFiles service tree.markdownPaths).errors = [] := by
  obtain ⟨rfl, rfl⟩ := compile_ok returned
  by_contra failed
  rw [compileReport] at ok
  simp only [if_neg failed] at ok
  exact absurd ok (by decide)

theorem isImage_of_ok (returned : compile service tree now db = .ok (report, after)) (ok : report.status = "ok") :
    IsImage service tree (indexedPages service tree) after := by
  have clean := clean_of_ok returned ok
  obtain ⟨rfl, rfl⟩ := compile_ok returned
  exact ⟨parses_of_clean clean, scanFiles_distinct _, compiled_pages clean, compiled_sources clean,
    .of_eq compiled_links⟩

theorem resolved_leads (returned : compile service tree now db = .ok (report, after)) {link : WikiLink}
    (stored : link ∈ after.links) (resolved : link.status = "resolved") :
    link.srcPageKey ∈ after.pages.keys ∧ link.dstPageKey ∈ after.pages.keys := by
  obtain ⟨_, rfl⟩ := compile_ok returned
  obtain ⟨page, member, occurrence, _, _, rfl⟩ := mem_compiled_links.1 stored
  refine ⟨mem_compiled_keys (List.mem_map_of_mem member), ?_⟩
  cases found : resolve (knownNames (indexedPages service tree)) occurrence.key with
  | none =>
    rw [wikiLink] at resolved
    simp [found] at resolved
  | some key =>
    have known := (resolve_eq_some.1 found).1
    rw [knownNames_apply] at known
    obtain ⟨owning, owned, rfl⟩ := Option.map_eq_some_iff.1 known
    rw [wikiLink, found]
    exact mem_compiled_keys (List.mem_map_of_mem (Declarations.mem_of_owner owned))

/-- A compile that reports `ok` leaves the image of the files and nothing else; after every compile
a resolved link has both its ends among the pages. -/
theorem compile_image (service : WikiService) (tree : WikiTree) (now : Int) (db after : WikiDb)
    (report : CompileReport) (returned : compile service tree now db = .ok (report, after)) :
    (report.status = "ok" → ∃ pages, IsImage service tree pages after) ∧
      ∀ link ∈ after.links, link.status = "resolved" →
        link.srcPageKey ∈ after.pages.keys ∧ link.dstPageKey ∈ after.pages.keys :=
  ⟨fun ok => ⟨_, isImage_of_ok returned ok⟩, fun _ stored resolved => resolved_leads returned stored resolved⟩

end Image

section Demo
attribute [local instance] CharData.ascii FloatData.decimal DateData.undated

/-- A service for pages without a frontmatter. -/
def plainService : WikiService where
  root := "/wiki"
  safeLoad _ := .ok .null
  sha256 text := text

/-- The paths of a wiki with their texts. -/
def plainTree (texts : List (String × String)) (distinct : (texts.map Prod.fst).Nodup) : WikiTree where
  files := texts.map fun text => { path := text.1, text := .ok text.2 }
  distinct := by
    rw [List.map_map]
    exact distinct
  present path := path ∈ texts.map Prod.fst

/-- The pages `a` and `b`, in this order. -/
def twoPages (first second : String) : WikiTree := plainTree [("a.md", first), ("b.md", second)] (by simp)

def noRows : WikiDb := ⟨.empty, .empty, [], .empty⟩

def onePage (text : String) : WikiTree := plainTree [("a.md", text)] (List.nodup_singleton _)

/-- Tables that still hold a page whose file is gone. -/
private def demoDb : WikiDb where
  pages := ⟨[{ pageKey := "old", title := "Old", path := "old.md" }], List.nodup_singleton _⟩
  sources := ⟨[{ sourceKey := "old.md" }], List.nodup_singleton _⟩
  links := [{ srcPageKey := "old", dstPageKey := "old" }]
  errors := .empty

theorem compile_image_demo : ∃ report after,
    compile plainService (onePage "# A\n\n[[a]]") 0 demoDb = .ok (report, after) ∧ report.status = "ok" ∧
      (∃ pages, IsImage plainService (onePage "# A\n\n[[a]]") pages after) ∧
      ∀ link ∈ after.links, link.status = "resolved" →
        link.srcPageKey ∈ after.pages.keys ∧ link.dstPageKey ∈ after.pages.keys := by
  have returned : compile plainService (onePage "# A\n\n[[a]]") 0 demoDb = .ok (_, _) :=
    if_pos (by decide +kernel)
  have ok : (compileReport plainService (onePage "# A\n\n[[a]]")).status = "ok" := by decide +kernel
  obtain ⟨image, leads⟩ := compile_image _ _ _ _ _ _ returned
  exact ⟨_, _, returned, ok, image ok, leads⟩

/-- An occurrence of a wikilink whose target has no letter that a key keeps has no row. -/
theorem keyless_occurrence_dropped : ∃ report after page,
    compile plainService (onePage "# A\n\n[[中文]]") 0 demoDb = .ok (report, after) ∧ report.status = "ok" ∧
      (onePage "# A\n\n[[中文]]").markdownPaths.map plainService.parseMarkdownPage = [.ok page] ∧
      (wikilinks page.body).length = 1 ∧ after.links.length = 0 := by
  have returned : compile plainService (onePage "# A\n\n[[中文]]") 0 demoDb = .ok (_, _) :=
    if_pos (by decide +kernel)
  refine ⟨_, _, _, returned, by decide +kernel, rfl, ?_, ?_⟩
  · decide +kernel
  · decide +kernel

end Demo

end SoulClaw.Wiki.Image
