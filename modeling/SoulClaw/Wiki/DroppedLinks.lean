import SoulClaw.Wiki.Image
import SoulClaw.Wiki.Keys

/-! Wikilinks that a compile drops. A link counts when its normalised target has a character, and the
normaliser keeps ASCII letters, digits and the underscore alone, so that a target in another script leaves
neither an edge nor an error. -/

namespace SoulClaw.Wiki.DroppedLinks
open Foundation Markdown Keys Compile Image

/-! What a key keeps. -/

section Keys

/-- A character that stays in a key wherever it stands. -/
def lettered (c : Char) : Bool := keyChar c ∧ c ≠ '-' ∧ c ≠ '/'

variable [CharData]

/-- The target as the character classes of the normaliser see it. -/
def lowered (value : String) : List Char :=
  (withoutMd ((Text.strip value).toList.map fun c => if c = '\\' then '/' else c)).flatMap CharData.lower

/-- The target has a letter or digit of ASCII, or an underscore, beside an ending `.md`. -/
def Keyed (value : String) : Prop := ∃ c ∈ lowered value, lettered c = true

theorem isSpace_of_lettered {c : Char} (letter : lettered c = true) : CharData.isSpace c = false :=
  (keyChar_plain (of_decide_eq_true letter).1).1

/-- A target has a key exactly when it has a character that keys keep. -/
theorem normalizePageKey_ne_empty (value : String) : normalizePageKey value ≠ "" ↔ Keyed value := by
  have named : normalizePageKey value = String.ofList (trim (fun c => c ∈ ['-', '/'])
      (subRuns (· = '-') '-' false (subRuns (fun c => !keyChar c) '-' false
        (subRuns CharData.isSpace '-' false (lowered value))))) := rfl
  have empty : normalizePageKey value = "" ↔ trim (fun c => c ∈ ['-', '/'])
      (subRuns (· = '-') '-' false (subRuns (fun c => !keyChar c) '-' false
        (subRuns CharData.isSpace '-' false (lowered value)))) = [] := by
    rw [named, ← String.toList_eq_nil_iff, String.toList_ofList]
  rw [ne_eq, empty, trim_eq_nil, not_forall]
  -- the three passes keep a letter, and leave nothing else but hyphens and slashes
  have passes : ∀ c, c ≠ '-' → (c ∈ subRuns (· = '-') '-' false (subRuns (fun c => !keyChar c) '-' false
      (subRuns CharData.isSpace '-' false (lowered value))) ↔
        c ∈ subRuns (fun c => !keyChar c) '-' false (subRuns CharData.isSpace '-' false (lowered value))) :=
    fun c other => mem_subRuns (decide_eq_false other) other false _
  constructor
  · rintro ⟨c, left⟩
    rw [Classical.not_imp, decide_eq_true_eq, List.mem_pair, not_or] at left
    obtain ⟨member, dash, slash⟩ := left
    have shaped := (test_of_mem_subRuns ((passes c dash).1 member)).resolve_right dash
    have letter : lettered c = true := decide_eq_true ⟨by simpa using shaped.1, dash, slash⟩
    exact ⟨c, (mem_subRuns (isSpace_of_lettered letter) dash false _).1 shaped.2, letter⟩
  · rintro ⟨c, member, letter⟩
    obtain ⟨kept, dash, slash⟩ := of_decide_eq_true letter
    refine ⟨c, ?_⟩
    rw [Classical.not_imp, decide_eq_true_eq, List.mem_pair, not_or]
    refine ⟨(passes c dash).2 ((mem_subRuns (by rw [kept]; rfl) dash false _).2 ?_), dash, slash⟩
    exact (mem_subRuns (isSpace_of_lettered letter) dash false _).2 member

end Keys

section Dropped
variable [CharData] [FloatData] [DateData]

def reads (link other : Wikilink) : Bool := other.key = link.key ∧ other.anchor = link.anchor

/-- The occurrences of a body that read like this one. -/
def alike (page : ParsedWikiPage) (link : Wikilink) : List Wikilink := (wikilinks page.body).filter (reads link)

def standsFor (page : ParsedWikiPage) (link : Wikilink) (row : WikiLink) : Bool :=
  row.srcPageKey = page.pageKey ∧ row.rawTarget = .str link.key ∧ row.anchorText = link.anchor

/-- The rows that stand for such occurrences. -/
def rowsOf (db : WikiDb) (page : ParsedWikiPage) (link : Wikilink) : List WikiLink :=
  db.links.filter (standsFor page link)

/-- An open entry tells of the occurrence. -/
def Reported (db : WikiDb) (page : ParsedWikiPage) (link : Wikilink) : Prop :=
  ∃ entry ∈ db.errors.rows, entry.errorType = "dangling_link" ∧ entry.status = "open" ∧
    entry.pageKey = page.pageKey ∧ entry.payload.get "target" = .str link.key ∧
    entry.payload.get "anchor" = .str link.anchor

/-- There is a row for each occurrence, and an open entry when no page is found for it. -/
structure Recorded (service : WikiService) (tree : WikiTree) (db : WikiDb) (page : ParsedWikiPage) (link : Wikilink) :
    Prop where
  rows : (rowsOf db page link).length = (alike page link).length
  reported : resolve (knownNames (indexedPages service tree)) link.key = none → Reported db page link

variable {service : WikiService} {tree : WikiTree} {now : Int} {db after : WikiDb} {report : CompileReport}

omit [FloatData] [DateData] in
/-- The rows of a page among those of all pages. -/
theorem filter_linkImage {pages all : List ParsedWikiPage} {page : ParsedWikiPage} (listed : page ∈ pages)
    (distinct : (pages.map ParsedWikiPage.pageKey).Nodup) (test : WikiLink → Bool)
    (own : ∀ row, test row = true → row.srcPageKey = page.pageKey) :
    (pages.flatMap fun other => linkImage all other).filter test = (linkImage all page).filter test := by
  obtain ⟨before, later, rfl⟩ := List.append_of_mem listed
  have foreign : ∀ other : ParsedWikiPage, other.pageKey ≠ page.pageKey → (linkImage all other).filter test = [] := by
    intro other apart
    rw [List.filter_eq_nil_iff]
    intro row member passes
    obtain ⟨link, _, rfl⟩ := List.mem_map.1 member
    exact apart (own _ passes)
  rw [List.map_append, List.map_cons, List.nodup_append] at distinct
  have first : (before.flatMap fun other => linkImage all other).filter test = [] := by
    rw [List.filter_flatMap, List.flatMap_eq_nil_iff]
    intro other member
    refine foreign other fun same => distinct.2.2 _ (List.mem_map_of_mem member) _ List.mem_cons_self same
  have second : (later.flatMap fun other => linkImage all other).filter test = [] := by
    rw [List.filter_flatMap, List.flatMap_eq_nil_iff]
    intro other member
    refine foreign other fun same => (List.nodup_cons.1 distinct.2.1).1 ?_
    exact same ▸ List.mem_map_of_mem member
  rw [List.flatMap_append, List.flatMap_cons, List.filter_append, List.filter_append, first, second,
    List.nil_append, List.append_nil]

omit [FloatData] [DateData] in
theorem standsFor_wikiLink (known : String → Option String) (page : ParsedWikiPage) (link other : Wikilink) :
    standsFor page link (wikiLink known page (other.key, other.anchor)) = reads link other := by
  rw [standsFor, reads, rawTarget_wikiLink, decide_eq_decide, Json.str.injEq]
  exact and_iff_right rfl

/-- There are as many rows as occurrences whose target has a key. -/
theorem length_rowsOf {page : ParsedWikiPage} (indexed : page ∈ indexedPages service tree) (link : Wikilink) :
    (rowsOf (compiled service tree now db) page link).length =
      ((alike page link).filter fun other => other.key ≠ "").length := by
  have own : ∀ row, standsFor page link row = true → row.srcPageKey = page.pageKey :=
    fun row passes => (of_decide_eq_true passes).1
  rw [rowsOf, compiled_links, filter_linkImage indexed (scanFiles_distinct _) _ own, linkImage, List.filter_map,
    List.length_map, keyedLinks, alike, List.filter_filter, List.filter_filter]
  refine congrArg List.length (List.filter_congr fun other _ => ?_)
  rw [Function.comp_apply, standsFor_wikiLink, Bool.and_comm]

/-- An occurrence on a page that is indexed is recorded exactly when its target has a character that keys keep. -/
theorem occurrence_recorded_iff (returned : compile service tree now db = .ok (report, after)) {page : ParsedWikiPage}
    (indexed : page ∈ indexedPages service tree) {link : Wikilink} (occurs : link ∈ wikilinks page.body) :
    Recorded service tree after page link ↔ Keyed link.target := by
  obtain ⟨_, rfl⟩ := compile_ok returned
  have here : link ∈ alike page link := List.mem_filter.2 ⟨occurs, decide_eq_true ⟨rfl, rfl⟩⟩
  rw [← normalizePageKey_ne_empty, ← Wikilink.key]
  constructor
  · intro recorded keyless
    have counted := recorded.rows
    rw [length_rowsOf indexed, List.length_filter_eq_length_iff] at counted
    exact of_decide_eq_true (counted link here) keyless
  · intro keyed
    refine ⟨?_, fun unresolved => ?_⟩
    · rw [length_rowsOf indexed, List.length_filter_eq_length_iff]
      intro other member
      have same : other.key = link.key := (of_decide_eq_true (List.mem_filter.1 member).2).1
      rw [same]
      exact decide_eq_true keyed
    · have listed : (link.key, link.anchor) ∈ page.links := by
        obtain ⟨file, _, parsed⟩ := parsed_of_mem_scanFiles indexed
        rw [links_of_parsed parsed, linksOf]
        exact List.mem_map_of_mem (List.mem_filter.2 ⟨occurs, decide_eq_true keyed⟩)
      have made : danglingError page (link.key, link.anchor) ∈
          danglingErrors (knownNames (indexedPages service tree)) page :=
        List.mem_map_of_mem (List.mem_filter.2 ⟨listed, by rw [unresolved]; rfl⟩)
      refine ⟨danglingError page (link.key, link.anchor), ?_, rfl, rfl, rfl, ?_, ?_⟩
      · rw [compiled, compilePages_errors, rows_addErrors]
        exact List.mem_append_right _ (List.mem_flatMap.2 ⟨page, indexed, made⟩)
      · exact (Dict.get_cons ..).trans (if_pos rfl)
      · exact (Dict.get_cons ..).trans ((if_neg (by decide)).trans ((Dict.get_cons ..).trans (if_pos rfl)))

end Dropped

section Scripts
attribute [local instance] CharData.ascii FloatData.decimal DateData.undated

/-- A link to a page that does not exist is recorded and reported when its target is written in ASCII. -/
theorem recorded_latin : ∃ report after page,
    compile plainService (onePage "see [[Peking]]") 0 noRows = .ok (report, after) ∧
      indexedPages plainService (onePage "see [[Peking]]") = [page] ∧
      Recorded plainService (onePage "see [[Peking]]") after page ⟨"Peking", none⟩ := by
  have returned : compile plainService (onePage "see [[Peking]]") 0 noRows = .ok (_, _) :=
    if_pos (by decide +kernel)
  have keyed : Keyed "Peking" := ⟨'p', by decide +kernel, by decide⟩
  exact ⟨_, _, _, returned, rfl, (occurrence_recorded_iff returned List.mem_cons_self (by decide +kernel)).2 keyed⟩

/-- The same link in Chinese leaves no row and no entry. -/
theorem chinese_dropped : ∃ report after page,
    compile plainService (onePage "see [[北京]]") 0 noRows = .ok (report, after) ∧ report.status = "ok" ∧
      indexedPages plainService (onePage "see [[北京]]") = [page] ∧ ⟨"北京", none⟩ ∈ wikilinks page.body ∧
      after.links = [] ∧ after.errors.rows = [] ∧
      ¬Recorded plainService (onePage "see [[北京]]") after page ⟨"北京", none⟩ := by
  have returned : compile plainService (onePage "see [[北京]]") 0 noRows = .ok (_, _) :=
    if_pos (by decide +kernel)
  have links : (compiled plainService (onePage "see [[北京]]") 0 noRows).links = [] := by decide +kernel
  refine ⟨_, _, _, returned, by decide +kernel, rfl, by decide +kernel, links, by decide +kernel, fun recorded => ?_⟩
  have counted := recorded.rows
  rw [rowsOf, links] at counted
  revert counted
  decide +kernel

end Scripts

end SoulClaw.Wiki.DroppedLinks
