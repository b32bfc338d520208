import SoulClaw.Wiki.Image
import SoulClaw.Wiki.Repairs
import SoulClaw.Wiki.Scans

/-! A lint or a repair of a wiki with malformed pages. The scan of the pages does not pass over a page that does not parse,
as a compile does, and the check of a claim only passes over some of the confidences that are no numbers; so one file ends
the pass. -/

namespace SoulClaw.Wiki.Malformed
open Foundation Markdown Compile Image Lint Storage Proposals Repairs Scans

/-! When the checks of a page end. -/

section Checks
variable [CharData] [FloatData] [DateData]

omit [CharData] [FloatData] [DateData] in
theorem map_returns {Error First Second : Type*} {change : First → Second} {result : Except Error First} :
    (∃ value, result.map change = .ok value) ↔ ∃ value, result = .ok value := by
  constructor
  · rintro ⟨value, made⟩
    obtain ⟨first, known, _⟩ := map_eq_ok.1 made
    exact ⟨first, known⟩
  · rintro ⟨first, rfl⟩
    exact ⟨change first, rfl⟩

/-- The claims of the page have confidences that can be read, or it is not checked. -/
def Checkable (page : ParsedWikiPage) : Prop :=
  isArchived page = true ∨ ∀ claim ∈ page.claims, ∃ confidence, claimConfidence page claim = .ok confidence

theorem claimsErrors_returns {page : ParsedWikiPage} (seen : List (String × Mapping)) (index : Nat)
    (claims : List Mapping) : (∃ entries, claimsErrors page seen index claims = .ok entries) ↔
      ∀ claim ∈ claims, ∃ confidence, claimConfidence page claim = .ok confidence := by
  induction claims generalizing seen index with
  | nil => exact ⟨fun _ claim member => absurd member List.not_mem_nil, fun _ => ⟨[], rfl⟩⟩
  | cons claim rest ih =>
    rw [claimsErrors, List.forall_mem_cons]
    cases known : claimConfidence page claim with
    | error raised => simp
    | ok confidence =>
      rw [← ih]
      exact map_returns.trans (and_iff_right ⟨confidence, rfl⟩).symm

theorem lintPage_returns (view : LintView) (page : ParsedWikiPage) :
    (∃ entries, lintPage view page = .ok entries) ↔ Checkable page := by
  rw [Checkable, lintPage]
  by_cases archived : isArchived page = true
  · rw [if_pos archived]
    exact ⟨fun _ => .inl archived, fun _ => ⟨[], rfl⟩⟩
  · rw [if_neg archived, ← claimsErrors_returns [] 0, or_iff_right archived]
    exact map_returns

theorem lintPages_returns (view : LintView) (pages : List ParsedWikiPage) :
    (∃ entries, lintPages view pages = .ok entries) ↔ ∀ page ∈ pages, Checkable page := by
  induction pages with
  | nil => exact ⟨fun _ page member => absurd member List.not_mem_nil, fun _ => ⟨[], rfl⟩⟩
  | cons page rest ih =>
    rw [lintPages, List.forall_mem_cons, ← lintPage_returns view, ← ih]
    cases made : lintPage view page with
    | error raised => simp
    | ok first => exact map_returns.trans (and_iff_right ⟨first, rfl⟩).symm

theorem mem_lintPages {view : LintView} {pages : List ParsedWikiPage} {entries found : List WikiErrorBook}
    {page : ParsedWikiPage} (made : lintPages view pages = .ok entries) (member : page ∈ pages)
    (own : lintPage view page = .ok found) {entry : WikiErrorBook} (listed : entry ∈ found) : entry ∈ entries := by
  induction pages generalizing entries with
  | nil => cases member
  | cons first rest ih =>
    rw [lintPages] at made
    split at made
    next => cases made
    next head known =>
      obtain ⟨later, after, rfl⟩ := map_eq_ok.1 made
      rw [List.mem_append]
      rcases List.mem_cons.1 member with rfl | inner
      · rw [known] at own
        exact .inl (Except.ok.inj own ▸ listed)
      · exact .inr (ih after inner)

end Checks

section Survival
variable [CharData] [FloatData] [DateData] (service : WikiService) (tree : WikiTree)

/-- A problem of the wiki that the pages which parse show: a missing canonical file, or what one of the checks of a page
finds among these pages. -/
inductive Problem (now : Int) : WikiErrorBook → Prop where
  | missing {filename : String} (absent : filename ∈ canonicalMissing tree) : Problem now (missingCanonical filename)
  | found {page : ParsedWikiPage} {indexed : List String} {entry : WikiErrorBook}
      (parsed : page ∈ parsedPages service tree) (checked : isArchived page = false)
      (known : indexedPageKeys tree = .ok indexed)
      (shown : entry ∈ brokenLinks (lintView tree now (parsedPages service tree) indexed) page ∨
        entry ∈ recordErrors (lintView tree now (parsedPages service tree) indexed) page ∨
        entry ∈ originErrors (lintView tree now (parsedPages service tree) indexed) page ∨
        ∃ claims, claimQualityErrors page = .ok claims ∧ entry ∈ claims) : Problem now entry

/-- An open entry names each page that does not parse. -/
def NamesUnparsed (book : Table WikiErrorBook) : Prop :=
  ∀ file ∈ tree.markdownPaths, (∀ page, service.parseMarkdownPage file ≠ .ok page) →
    ∃ entry ∈ book.rows, entry.status = "open" ∧
      (entry.pageKey = file.path ∨ entry.payload.get "path" = .str file.path)

/-- A lint returns, reports every problem of the pages that parse, and names the others. -/
def LintSurvives (now : Int) (db : WikiDb) : Prop :=
  ∃ entries after, lint service tree now db = .ok (entries, after) ∧
    (∀ entry, Problem service tree now entry → entry ∈ entries) ∧ NamesUnparsed service tree after.errors

/-- So does a repair that leaves its proposals pending. -/
def RepairSurvives (llm : Option Diagnostician) (order : ErrorOrder) (errorIds : List String) (now : Int) (state : State) :
    Prop :=
  ∃ report next, repair tree llm service order errorIds now state = .ok (report, next) ∧
    (∀ entry, Problem service tree now entry → entry ∈ report.lintErrors) ∧ NamesUnparsed service tree next.db.errors

/-- Every page parses, and can be checked. -/
def WellFormed : Prop := ∀ file ∈ tree.markdownPaths, ∃ page, service.parseMarkdownPage file = .ok page ∧ Checkable page

variable {service tree}

/-- What a lint that returns has read. -/
theorem lint_returned {now : Int} {db after : WikiDb} {entries : List WikiErrorBook}
    (returned : lint service tree now db = .ok (entries, after)) :
    ∃ pages indexed found, Parses service tree.markdownPaths pages ∧ indexedPageKeys tree = .ok indexed ∧
      lintPages (lintView tree now pages indexed) pages = .ok found ∧
      entries = (canonicalMissing tree).map missingCanonical ++ found := by
  rw [lint] at returned
  obtain ⟨made, errors, same⟩ := map_eq_ok.1 returned
  obtain rfl := (Prod.mk.inj same).1
  rw [lintErrors] at errors
  split at errors
  next => cases errors
  next => cases errors
  next pages indexed scanned known =>
    obtain ⟨found, passed, rfl⟩ := map_eq_ok.1 errors
    exact ⟨pages, indexed, found, scanPages_ok.1 scanned, known, passed, rfl⟩

/-- A lint that returns reports what the checks find. -/
theorem problem_reported {now : Int} {db after : WikiDb} {entries : List WikiErrorBook}
    (returned : lint service tree now db = .ok (entries, after)) {entry : WikiErrorBook}
    (problem : Problem service tree now entry) : entry ∈ entries := by
  obtain ⟨pages, indexed, found, parses, known, passed, rfl⟩ := lint_returned returned
  rw [List.mem_append]
  cases problem with
  | missing absent => exact .inl (List.mem_map_of_mem absent)
  | @found page named entry parsed checked read shown =>
    obtain rfl := Except.ok.inj (known.symm.trans read)
    rw [parsedPages, filterMap_of_parses parses] at parsed shown
    obtain ⟨own, made⟩ := (lintPage_returns _ page).2 ((lintPages_returns _ pages).1 ⟨found, passed⟩ page parsed)
    refine .inr (mem_lintPages passed parsed made ?_)
    rw [lintPage, if_neg (by rw [checked]; exact Bool.false_ne_true)] at made
    obtain ⟨claims, quality, rfl⟩ := map_eq_ok.1 made
    simp only [List.mem_append]
    rcases shown with broken | record | origin | ⟨others, same, claim⟩
    · exact .inl broken
    · exact .inr (.inl (.inl record))
    · exact .inr (.inr origin)
    · rw [quality] at same
      exact .inr (.inl (.inr (Except.ok.inj same ▸ claim)))

theorem wellFormed_of_returned {now : Int} {db after : WikiDb} {entries : List WikiErrorBook}
    (returned : lint service tree now db = .ok (entries, after)) : WellFormed service tree := by
  obtain ⟨pages, indexed, found, parses, _, passed, _⟩ := lint_returned returned
  intro file member
  obtain ⟨page, listed, parsed⟩ := parsed_of_parses parses member
  exact ⟨page, parsed, (lintPages_returns _ pages).1 ⟨found, passed⟩ page listed⟩

/-- The index is one of the pages, so that it can be read where every page parses. -/
theorem index_readable (formed : WellFormed service tree) : ∃ text, tree.readOptionalFile "index.md" = .ok text := by
  rw [WikiTree.readOptionalFile]
  cases found : tree.files.find? fun file => file.path = "index.md" with
  | none => exact ⟨"", rfl⟩
  | some file =>
    have path : file.path = "index.md" := by simpa using List.find?_some found
    have markdown : file ∈ tree.markdownPaths := by
      have listed := List.mem_filter.2 ⟨List.mem_of_find?_eq_some found, show isMarkdown file = true by
        rw [isMarkdown, WikiFile.name, WikiFile.parts, path]; decide⟩
      refine List.mem_filter.2 ⟨(List.mem_insertionSort _).2 listed, ?_⟩
      rw [isHidden, WikiFile.parts, path]
      decide
    obtain ⟨page, parsed, _⟩ := formed file markdown
    obtain ⟨raw, _, _, _, text, _⟩ := parseMarkdownPage_ok parsed
    dsimp only
    split
    · exact ⟨raw, text⟩
    · exact ⟨"", rfl⟩

theorem lint_of_wellFormed (formed : WellFormed service tree) (now : Int) (db : WikiDb) :
    ∃ entries after, lint service tree now db = .ok (entries, after) := by
  obtain ⟨pages, parses⟩ := exists_parses fun file member => (formed file member).imp fun _ => And.left
  obtain ⟨text, read⟩ := index_readable formed
  have checkable : ∀ page ∈ pages, Checkable page := by
    intro page member
    obtain ⟨file, listed, parsed⟩ := List.mem_filterMap.1 (filterMap_of_parses parses ▸ member)
    obtain ⟨other, known, checked⟩ := formed file listed
    rw [toOption_eq_some, known] at parsed
    exact Except.ok.inj parsed ▸ checked
  have indexed : indexedPageKeys tree = .ok ((wikilinks text).map Wikilink.key) := by
    rw [indexedPageKeys, read]
    rfl
  obtain ⟨found, passed⟩ := (lintPages_returns
    (lintView tree now pages ((wikilinks text).map Wikilink.key)) pages).2 checkable
  have made : lintErrors service tree now = .ok ((canonicalMissing tree).map missingCanonical ++ found) := by
    rw [lintErrors, scan, scanPages_ok.2 parses, indexed]
    dsimp only
    rw [passed]
    rfl
  exact ⟨_, _, by rw [lint, made]; rfl⟩

/-! The repair. -/

omit [FloatData] [DateData] in
theorem repairErrors_returns {llm : Option Diagnostician} (index : ∃ text, tree.readOptionalFile "index.md" = .ok text)
    (book : Table WikiErrorBook) (repairing : Repairing) (ids : List Nat) :
    ∃ next, repairErrors tree llm book repairing ids = .ok next := by
  obtain ⟨text, read⟩ := index
  have drafts : ∀ id entry, ∃ draft, lowRiskRepairProposal tree id entry = .ok draft := by
    intro id entry
    have link : ∀ key, indexContentWithLink tree key = .ok (withLink text key) := fun key => by
      rw [indexContentWithLink, read]
      rfl
    unfold lowRiskRepairProposal
    dsimp only
    split
    · split
      · exact ⟨none, rfl⟩
      · exact ⟨_, rfl⟩
    · split
      · split
        · exact ⟨none, rfl⟩
        · rw [link]
          exact ⟨_, rfl⟩
      · exact ⟨none, rfl⟩
  have step : ∀ repairing id entry, ∃ next, repairError tree llm repairing id entry = .ok next := by
    intro repairing id entry
    obtain ⟨draft, known⟩ := drafts id entry
    rw [repairError, known]
    split
    · exact ⟨_, rfl⟩
    · split
      · exact ⟨_, rfl⟩
      · split
        · exact ⟨_, rfl⟩
        · exact ⟨_, rfl⟩
  induction ids generalizing repairing with
  | nil => exact ⟨repairing, rfl⟩
  | cons id rest ih =>
    rw [repairErrors]
    cases book.get? id with
    | none => exact ih repairing
    | some entry =>
      obtain ⟨next, known⟩ := step repairing id entry
      dsimp only
      rw [known]
      exact ih next

end Survival

section Demo
attribute [local instance] CharData.ascii FloatData.decimal DateData.undated

/-- A loader that reads every frontmatter as a list. -/
private def listService : WikiService where
  root := "/wiki"
  safeLoad _ := .ok (.seq [.str "a"])
  sha256 text := text

private def listed : WikiTree := plainTree [("bad.md", "---\n- a\n---\n# Bad")] (List.nodup_singleton _)

end Demo

end SoulClaw.Wiki.Malformed
