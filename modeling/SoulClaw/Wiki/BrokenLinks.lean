import SoulClaw.Wiki.Image
import SoulClaw.Wiki.Lint

/-! The two passes over the links of a page. `compile` looks a target up among the keys, aliases
and titles of the pages, `lint` among their keys only. -/

namespace SoulClaw.Wiki.BrokenLinks
open Foundation Markdown Compile Lint
open Image (plainService twoPages noRows)

/-- `lint` reports a broken link of the page to the target. -/
def LintReports (entries : List WikiErrorBook) (page : ParsedWikiPage) (target : String) : Prop :=
  ∃ entry ∈ entries, entry.errorType = "broken_link" ∧ entry.pageKey = page.pageKey ∧
    Dict.get entry.payload "target" = .str target

/-- `compile` records a link of the page to the target as unresolved. -/
def CompileRecords (db : WikiDb) (page : ParsedWikiPage) (target : String) : Prop :=
  ∃ row ∈ db.links, row.srcPageKey = page.pageKey ∧ row.rawTarget = .str target ∧ row.status = "unresolved"

instance (entries : List WikiErrorBook) (page : ParsedWikiPage) (target : String) :
    Decidable (LintReports entries page target) := by
  unfold LintReports
  infer_instance

instance (db : WikiDb) (page : ParsedWikiPage) (target : String) : Decidable (CompileRecords db page target) := by
  unfold CompileRecords
  infer_instance

theorem target_brokenLink (page : ParsedWikiPage) (link : String × String) :
    Dict.get (brokenLink page link).payload "target" = .str link.1 := by
  rw [brokenLink, error, Dict.get_cons, if_pos rfl]

theorem wikiLink_unresolved {known : String → Option String} {page : ParsedWikiPage} {link : String × String} :
    (wikiLink known page link).status = "unresolved" ↔ resolve known link.1 = none := by
  rw [wikiLink]
  cases resolve known link.1 with
  | none => simp
  | some found => simp

section Agreement
variable [CharData] [FloatData] [DateData]

omit [FloatData] [DateData] in
/-- A target resolves when the page that it stands for has a key. -/
theorem resolve_ne_none {pages : List ParsedWikiPage} {target : String} :
    resolve (knownNames pages) target ≠ none ↔ ∃ own, owner pages target = some own ∧ own.pageKey ≠ "" := by
  rw [resolve, knownNames_apply]
  cases owner pages target with
  | none => simp
  | some own => simp [Option.filter_some]

variable {service : WikiService} {tree : WikiTree} {now : Int} {pages : List ParsedWikiPage}
  {page : ParsedWikiPage} {target : String} (distinct : (pages.map ParsedWikiPage.pageKey).Nodup)
  (member : page ∈ pages)
include distinct member

omit [FloatData] [DateData] [CharData] in
theorem same_page {other : ParsedWikiPage} (listed : other ∈ pages) (same : other.pageKey = page.pageKey) :
    other = page := List.inj_on_of_nodup_map distinct listed member same

omit [CharData] [FloatData] [DateData] in
theorem lintReports_iff {entries : List WikiErrorBook} {indexed : List String} (kept : isArchived page = false)
    (broken : entries.filter (fun entry => entry.errorType = "broken_link") =
      pages.flatMap (reportedLinks (lintView tree now pages indexed))) :
    LintReports entries page target ↔
      target ∈ page.links.map Prod.fst ∧ target ∉ pages.map ParsedWikiPage.pageKey := by
  have reported : reportedLinks (lintView tree now pages indexed) page =
      brokenLinks (lintView tree now pages indexed) page := if_neg (by simp [kept])
  constructor
  · rintro ⟨entry, made, isBroken, own, payload⟩
    have listed : entry ∈ pages.flatMap (reportedLinks (lintView tree now pages indexed)) := by
      rw [← broken]
      exact List.mem_filter.2 ⟨made, decide_eq_true isBroken⟩
    obtain ⟨source, inside, found⟩ := List.mem_flatMap.1 listed
    rw [reportedLinks] at found
    split at found
    next => cases found
    next =>
      obtain ⟨link, unknown, rfl⟩ := List.mem_map.1 found
      obtain ⟨linked, missing⟩ := List.mem_filter.1 unknown
      obtain rfl := same_page distinct member inside own
      rw [target_brokenLink] at payload
      obtain rfl := Json.str.inj payload
      exact ⟨List.mem_map_of_mem linked, of_decide_eq_true missing⟩
  · rintro ⟨linked, missing⟩
    obtain ⟨link, listed, rfl⟩ := List.mem_map.1 linked
    have found : brokenLink page link ∈ pages.flatMap (reportedLinks (lintView tree now pages indexed)) := by
      rw [List.mem_flatMap]
      refine ⟨page, member, ?_⟩
      rw [reported]
      exact List.mem_map_of_mem (List.mem_filter.2 ⟨listed, decide_eq_true missing⟩)
    rw [← broken] at found
    exact ⟨_, (List.mem_filter.1 found).1, rfl, rfl, target_brokenLink page link⟩

theorem compileRecords_iff {db : WikiDb} (indexed : indexedPages service tree = pages) :
    CompileRecords (compiled service tree now db) page target ↔
      target ∈ page.links.map Prod.fst ∧ resolve (knownNames pages) target = none := by
  rw [CompileRecords, links_compiled, indexed]
  constructor
  · rintro ⟨row, stored, own, raw, unresolved⟩
    obtain ⟨source, inside, found⟩ := List.mem_flatMap.1 stored
    obtain ⟨link, linked, rfl⟩ := List.mem_map.1 found
    obtain rfl := same_page distinct member inside own
    rw [rawTarget_wikiLink] at raw
    obtain rfl := Json.str.inj raw
    exact ⟨List.mem_map_of_mem linked, wikiLink_unresolved.1 unresolved⟩
  · rintro ⟨linked, unresolved⟩
    obtain ⟨link, listed, rfl⟩ := List.mem_map.1 linked
    exact ⟨_, List.mem_flatMap.2 ⟨page, member, List.mem_map_of_mem listed⟩, rfl, rawTarget_wikiLink ..,
      wikiLink_unresolved.2 unresolved⟩

omit distinct member in
/-- The two passes agree on a page and a target exactly when the page has no such link, or the target
is the key of a page if and only if the last page that it names has a key. -/
theorem agree_iff (service : WikiService) (tree : WikiTree) (pages : List ParsedWikiPage)
    (parses : Parses service tree.markdownPaths pages) (distinct : (pages.map ParsedWikiPage.pageKey).Nodup)
    (lintNow compileNow : Int) (lintDb compileDb linted after : WikiDb) (entries : List WikiErrorBook)
    (report : CompileReport) (lints : lint service tree lintNow lintDb = .ok (entries, linted))
    (compiles : compile service tree compileNow compileDb = .ok (report, after))
    (page : ParsedWikiPage) (member : page ∈ pages) (kept : isArchived page = false) (target : String) :
    (LintReports entries page target ↔ CompileRecords after page target) ↔
      (target ∈ page.links.map Prod.fst → (target ∈ pages.map ParsedWikiPage.pageKey ↔
        ∃ own, owner pages target = some own ∧ own.pageKey ≠ "")) := by
  obtain ⟨_, rfl⟩ := compile_ok compiles
  obtain ⟨_, made, same⟩ := map_eq_ok.1 lints
  obtain ⟨rfl, _⟩ := Prod.mk.inj same
  obtain ⟨_, scanned, indexed, parsed, broken⟩ := lintErrors_ok made
  obtain rfl : scanned = pages := Except.ok.inj ((scanPages_ok.2 parsed).symm.trans (scanPages_ok.2 parses))
  have collected : indexedPages service tree = scanned := by
    rw [indexedPages, scanFiles_of_parses parses distinct]
  rw [lintReports_iff distinct member kept broken, compileRecords_iff distinct member collected, ← resolve_ne_none]
  tauto

end Agreement

section Demo
attribute [local instance] CharData.ascii FloatData.decimal DateData.undated

/-- The first page has the title `Foo Bar`, the second page links to it and to a page that is missing. -/
private def titledPages : WikiTree := twoPages "# Foo Bar" "# Second\n\n[[foo-bar]] [[ghost]]"

private theorem titledPages_indexed : indexedPages plainService titledPages ≠ [] :=
  List.ne_nil_of_length_pos (by decide +kernel)

theorem agree_ghost : ∃ entries linted report after own page,
    lint plainService titledPages 0 noRows = .ok (entries, linted) ∧
      compile plainService titledPages 0 noRows = .ok (report, after) ∧
      indexedPages plainService titledPages = [own, page] ∧
      ((LintReports entries page "ghost" ↔ CompileRecords after page "ghost") ↔
        ("ghost" ∈ page.links.map Prod.fst → ("ghost" ∈ [own, page].map ParsedWikiPage.pageKey ↔
          ∃ named, owner [own, page] "ghost" = some named ∧ named.pageKey ≠ ""))) := by
  obtain ⟨⟨entries, linted⟩, lints, _⟩ : ∃ result, lint plainService titledPages 0 noRows = .ok result ∧ True :=
    exists_ok (by decide +kernel)
  have compiles : compile plainService titledPages 0 noRows = .ok (_, _) := if_pos (by decide +kernel)
  have parses : Parses plainService titledPages.markdownPaths (indexedPages plainService titledPages) :=
    parses_of_clean (by decide +kernel)
  refine ⟨entries, linted, _, _, _, _, lints, compiles, rfl, ?_⟩
  exact agree_iff _ _ _ parses (scanFiles_distinct _) _ _ _ _ _ _ _ _ lints compiles _
    (List.mem_cons_of_mem _ List.mem_cons_self) (by decide +kernel) _

/-- A link to the title of a page is broken for `lint` and resolved for `compile`. -/
theorem titled_target_disputed : ∃ entries linted report after,
    lint plainService titledPages 0 noRows = .ok (entries, linted) ∧
      compile plainService titledPages 0 noRows = .ok (report, after) ∧
      (indexedPages plainService titledPages).length = titledPages.markdownPaths.length ∧
      ∃ page ∈ indexedPages plainService titledPages, isArchived page = false ∧
        LintReports entries page "foo-bar" ∧ ¬CompileRecords after page "foo-bar" := by
  have compiles : compile plainService titledPages 0 noRows = .ok (_, _) := if_pos (by decide +kernel)
  obtain ⟨⟨entries, linted⟩, lints, reports⟩ : ∃ result, lint plainService titledPages 0 noRows = .ok result ∧
      LintReports result.1 ((indexedPages plainService titledPages).getLast titledPages_indexed) "foo-bar" :=
    exists_ok (by decide +kernel)
  exact ⟨entries, linted, _, _, lints, compiles, by decide +kernel, _, List.getLast_mem titledPages_indexed,
    by decide +kernel, reports, by decide +kernel⟩

end Demo

end SoulClaw.Wiki.BrokenLinks
