import SoulClaw.Wiki.Keys
import SoulClaw.Wiki.Search

/-! The check that wiki evidence is sufficient for a claim. It looks for open constraints among the newest entries of the
Error Book only, and not for those of a page whose key is empty, so that an entry which it does not see does not stand in
its way. -/

namespace SoulClaw.Wiki.Sufficiency
open Foundation Ranking Markdown Keys Compile Search
open Patterns (WordData)

def browseFirstTerms : List String :=
  ["all", "catalog", "directory", "index", "list", "map", "overview", "schema", "什么", "全部", "列出", "有哪些", "概览",
    "目录", "索引"]

def bridgeTerms : List String :=
  ["compare", "compose", "connect", "difference", "relationship", "tradeoff", "why", "关系", "区别", "取舍", "如何",
    "为什么", "比较", "综合", "联系"]

/-- What `_claim_coverage` reports. -/
structure Coverage where
  ratio : ℚ
  matchedTerms : List String
  missingTerms : List String

inductive EvidenceGap where
  | noReadPages (message : String)
  | missingPages (pages : List String)
  | fanIn (required actual : Nat)
  | claimTermsMissing (missingTerms : List String)
  /-- The type, the key and the rule of the constraints. -/
  | openConstraints (constraints : List (String × String × Json))

structure Verdict where
  sufficient : Bool
  claim : String
  strategy : String
  requiredFanIn : Nat
  readPages : List String
  evidencePages : List WikiPage
  coverage : Coverage
  openConstraints : List (Nat × WikiErrorBook)
  evidenceGaps : List EvidenceGap
  nextAction : String

/-- `item.get("constraint_rule") or item.get("constraint")`, with the type and the key. -/
def constraintOf (item : Nat × WikiErrorBook) : String × String × Json :=
  (item.2.errorType, item.2.pageKey, item.2.constraintRule.or (.str item.2.constraint))

section Check
variable [CharData] [WordData] (queries : Queries) (db : WikiDb)

/-- `read`. -/
def read (pageKey : String) : Option WikiPage := db.pages.find? (normalizePageKey pageKey)

/-- The strategy and the fan-in that `route` asks for. -/
def route (query : String) (limit : Int) : String × Nat :=
  let query := Text.strip query
  let pages := listPages db 500
  if query = "" ∨ pages.length = 0 then ("insufficient", 0)
  else
    let hits := (search queries db
      { query, limit := max 1 (min limit 50), strategy := "", pathPrefix := "", includeConstraints := true }).length
    if bridgeTerms.any fun term => Text.contains (Text.lower query) term then
      ("bridge", min 3 (max 2 (if hits = 0 then min pages.length 2 else hits)))
    else if browseFirstTerms.any fun term => Text.contains (Text.lower query) term then
      ("browse_first", min 3 (max 1 pages.length))
    else if hits = 0 then ("insufficient", 0)
    else ("search_first", 1)

/-- The text of a page in which the terms of a claim are looked for. -/
def pageText (page : WikiPage) : String :=
  Text.joinWith " " [page.pageKey, page.title, page.summary, page.body, Text.joinWith " " page.aliases,
    Text.joinWith " " page.tags]

/-- `_claim_coverage`. -/
def claimCoverage (claim : String) (pages : List WikiPage) : Coverage :=
  let tokens := queryTokens claim
  if tokens = [] then ⟨1, [], []⟩
  else
    let haystack := Text.lower (Text.joinWith "\n" (pages.map pageText))
    let matched := tokens.filter fun token => Text.contains haystack token
    ⟨round4 (matched.length / max 1 tokens.length), matched, tokens.filter fun token => !Text.contains haystack token⟩

/-- The names that are no white space, normalised. -/
def named (readPages : List String) : List String :=
  (readPages.filter fun item => Text.strip item ≠ "").map normalizePageKey

/-- The fan-in that is required: what is given, or what the route says, and at least one page then. -/
def required (claim : String) (requiredFanIn : Option Int) : Int :=
  match requiredFanIn with
  | some fanIn => fanIn
  | none => if (route queries db claim 10).2 = 0 then 1 else (route queries db claim 10).2

def pagesOf (readPages : List String) : List WikiPage := (named readPages).filterMap (read db)

/-- `found_keys`. -/
def foundKeys (readPages : List String) : List String := ((pagesOf db readPages).map WikiPage.pageKey).dedup

def gaps (claim : String) (readPages : List String) (fanIn : Nat) : List EvidenceGap :=
  let found := foundKeys db readPages
  let missing := (named readPages).filter fun key => key ∉ found
  let coverage := claimCoverage claim (pagesOf db readPages)
  let constraints := constraintsForPages queries db.errors (named readPages)
  (if named readPages = [] then [.noReadPages "No wiki_read page bodies were provided."] else []) ++
  (if missing ≠ [] then [.missingPages missing] else []) ++
  (if fanIn ≠ 0 ∧ found.length < fanIn then [.fanIn fanIn found.length] else []) ++
  (if Text.strip claim ≠ "" ∧ coverage.ratio < 35 / 100 ∧ found ≠ [] then
    [.claimTermsMissing (coverage.missingTerms.take 8)] else []) ++
  (if constraints ≠ [] then [.openConstraints (constraints.map constraintOf)] else [])

/-- `sufficiency_check`. -/
def sufficiencyCheck (claim : String) (readPages : List String) (requiredFanIn : Option Int) (strategy : String) :
    Verdict :=
  let fanIn := (required queries db claim requiredFanIn).toNat
  let sufficient := (gaps queries db claim readPages fanIn).isEmpty
  { sufficient
    claim
    strategy := if strategy ≠ "" then strategy
      else if requiredFanIn.isSome then "" else (route queries db claim 10).1
    requiredFanIn := fanIn
    readPages := named readPages
    evidencePages := pagesOf db readPages
    coverage := claimCoverage claim (pagesOf db readPages)
    openConstraints := constraintsForPages queries db.errors (named readPages)
    evidenceGaps := gaps queries db claim readPages fanIn
    nextAction := if sufficient then "" else "Read additional pages, follow links, repair Error Book constraints, or " ++
      "state that Wiki evidence is insufficient." }

end Check

/-! The pages that are read. -/

section Pages
variable [CharData] (db : WikiDb) (readPages : List String)

theorem normalizePageKey_named {name : String} (member : name ∈ named readPages) : normalizePageKey name = name := by
  obtain ⟨item, _, rfl⟩ := List.mem_map.1 member
  exact normalizePageKey_normalizePageKey item

theorem mem_pagesOf {page : WikiPage} : page ∈ pagesOf db readPages ↔ page ∈ db.pages.rows ∧ page.pageKey ∈ named readPages := by
  rw [pagesOf, List.mem_filterMap]
  constructor
  · rintro ⟨name, member, found⟩
    rw [read, normalizePageKey_named readPages member, Keyed.find?_eq_some_iff] at found
    exact ⟨found.1, found.2 ▸ member⟩
  · rintro ⟨indexed, member⟩
    refine ⟨page.pageKey, member, ?_⟩
    rw [read, normalizePageKey_named readPages member, Keyed.find?_eq_some_iff]
    exact ⟨indexed, rfl⟩

/-- The pages that exist and are read. -/
def existing : List WikiPage := db.pages.rows.filter fun page => page.pageKey ∈ named readPages

theorem mem_foundKeys {key : String} : key ∈ foundKeys db readPages ↔ ∃ page ∈ db.pages.rows, page.pageKey = key ∧
    key ∈ named readPages := by
  rw [foundKeys, List.mem_dedup, List.mem_map]
  constructor
  · rintro ⟨page, member, rfl⟩
    obtain ⟨indexed, read⟩ := (mem_pagesOf db readPages).1 member
    exact ⟨page, indexed, rfl, read⟩
  · rintro ⟨page, indexed, rfl, read⟩
    exact ⟨page, (mem_pagesOf db readPages).2 ⟨indexed, read⟩, rfl⟩

/-- A page that is named more than once counts once. -/
theorem length_foundKeys : (foundKeys db readPages).length = (existing db readPages).length := by
  have distinct : ((existing db readPages).map WikiPage.pageKey).Nodup :=
    db.pages.unique.sublist (List.filter_sublist.map _)
  have same : (foundKeys db readPages).Perm ((existing db readPages).map WikiPage.pageKey) := by
    refine (List.perm_ext_iff_of_nodup (List.nodup_dedup _) distinct).2 fun key =>
      (mem_foundKeys db readPages).trans ?_
    rw [List.mem_map]
    constructor
    · rintro ⟨page, indexed, rfl, read⟩
      exact ⟨page, List.mem_filter.2 ⟨indexed, decide_eq_true read⟩, rfl⟩
    · rintro ⟨page, member, rfl⟩
      obtain ⟨indexed, read⟩ := List.mem_filter.1 member
      exact ⟨page, indexed, rfl, of_decide_eq_true read⟩
  rw [same.length_eq, List.length_map]

end Pages

/-! What the check sees of the Error Book. -/

section Verdict
variable [CharData] [WordData] (queries : Queries) (db : WikiDb) (claim : String) (readPages : List String)
  (requiredFanIn : Option Int)

omit [WordData] in
/-- The constraints that are seen: of the newest open entries those that stand for a named page with a key. -/
theorem mem_constraints {item : Nat × WikiErrorBook} :
    item ∈ constraintsForPages queries db.errors (named readPages) ↔ item ∈ errorBook queries db.errors 200 ∧
      normalizePageKey item.2.pageKey ∈ named readPages ∧ normalizePageKey item.2.pageKey ≠ "" := by
  have keys : ∀ key, key ∈ ((named readPages).filter fun key => Text.strip key ≠ "").map normalizePageKey ↔
      key ∈ named readPages ∧ key ≠ "" := by
    intro key
    rw [List.mem_map]
    constructor
    · rintro ⟨name, member, rfl⟩
      obtain ⟨read, visible⟩ := List.mem_filter.1 member
      have same := normalizePageKey_named readPages read
      rw [← same, strip_normalizePageKey, same, decide_eq_true_eq] at visible
      rw [same]
      exact ⟨read, visible⟩
    · rintro ⟨read, visible⟩
      have same := normalizePageKey_named readPages read
      refine ⟨key, List.mem_filter.2 ⟨read, decide_eq_true ?_⟩, same⟩
      rwa [← same, strip_normalizePageKey, same]
  rw [constraintsForPages]
  split
  next none =>
    have empty : ∀ key, ¬(key ∈ named readPages ∧ key ≠ "") := fun key both => by
      have member := (keys key).2 both
      rw [none] at member
      cases member
    exact ⟨fun member => absurd member List.not_mem_nil, fun both => absurd both.2 (empty _)⟩
  next => rw [List.mem_filter, decide_eq_true_eq, keys]

/-- An open entry stands for a named page. -/
def Constrains (entry : WikiErrorBook) : Prop :=
  entry.status = "open" ∧ normalizePageKey entry.pageKey ∈ named readPages

/-- The check finds a gap: no page is named, one of them does not exist, too few are read, they do not cover the claim, or
one of the newest two hundred open entries stands for a named page with a key. -/
def Gap : Prop :=
  named readPages = [] ∨
  (∃ name ∈ named readPages, ∀ page ∈ db.pages.rows, page.pageKey ≠ name) ∨
  ((existing db readPages).length : Int) < required queries db claim requiredFanIn ∨
  (Text.strip claim ≠ "" ∧ (claimCoverage claim (pagesOf db readPages)).ratio < 35 / 100) ∨
  ∃ item ∈ errorBook queries db.errors 200, normalizePageKey item.2.pageKey ∈ named readPages ∧
    normalizePageKey item.2.pageKey ≠ ""

omit [CharData] [WordData] in
theorem ite_gap_eq_nil {test : Prop} [Decidable test] {gap : EvidenceGap} : (if test then [gap] else []) = [] ↔ ¬test := by
  split
  next holds => exact ⟨fun none => absurd none (List.cons_ne_nil _ _), fun fails => absurd holds fails⟩
  next fails => exact ⟨fun _ => fails, fun _ => rfl⟩

theorem sufficient_iff (strategy : String) :
    (sufficiencyCheck queries db claim readPages requiredFanIn strategy).sufficient = true ↔
      ¬Gap queries db claim readPages requiredFanIn := by
  have missing : (named readPages).filter (fun key => key ∉ foundKeys db readPages) = [] ↔
      ¬∃ name ∈ named readPages, ∀ page ∈ db.pages.rows, page.pageKey ≠ name := by
    simp only [List.filter_eq_nil_iff, decide_eq_true_eq, not_not, mem_foundKeys]
    push Not
    exact forall₂_congr fun name member => ⟨fun ⟨page, indexed, same, _⟩ => ⟨page, indexed, same⟩,
      fun ⟨page, indexed, same⟩ => ⟨page, indexed, same, member⟩⟩
  have constraints : constraintsForPages queries db.errors (named readPages) = [] ↔
      ¬∃ item ∈ errorBook queries db.errors 200, normalizePageKey item.2.pageKey ∈ named readPages ∧
        normalizePageKey item.2.pageKey ≠ "" := by
    simp only [List.eq_nil_iff_forall_not_mem, mem_constraints, not_exists]
  have fanIn : ¬((required queries db claim requiredFanIn).toNat ≠ 0 ∧
      (foundKeys db readPages).length < (required queries db claim requiredFanIn).toNat) ↔
      ¬((existing db readPages).length : Int) < required queries db claim requiredFanIn := by
    rw [length_foundKeys]
    omega
  -- a page is found where one is named and none is missing
  have found : named readPages ≠ [] → (named readPages).filter (fun key => key ∉ foundKeys db readPages) = [] →
      foundKeys db readPages ≠ [] := by
    intro some all none
    obtain ⟨name, member⟩ := List.exists_mem_of_ne_nil _ some
    have kept := List.filter_eq_nil_iff.1 all name member
    rw [none] at kept
    simp at kept
  show (gaps queries db claim readPages _).isEmpty = true ↔ _
  rw [List.isEmpty_iff, gaps]
  simp only [List.append_eq_nil_iff, ite_gap_eq_nil, fanIn, Gap, not_or, and_assoc]
  rw [← missing, ← constraints, not_not, not_not]
  constructor
  · rintro ⟨some, all, enough, covered, clear⟩
    exact ⟨some, all, enough, fun short => covered ⟨short.1, short.2, found some all⟩, clear⟩
  · rintro ⟨some, all, enough, covered, clear⟩
    exact ⟨some, all, enough, fun short => covered ⟨short.1, short.2.1⟩, clear⟩

/-- What the check reports of the terms of the claim. -/
theorem coverage_sufficiencyCheck (strategy : String) :
    (sufficiencyCheck queries db claim readPages requiredFanIn strategy).coverage =
      claimCoverage claim (pagesOf db readPages) := by
  simp only [sufficiencyCheck]

/-- A verdict is sound: where it says that the evidence is sufficient, every named page exists, as many pages as required
are read, they cover the claim, and no open entry of the Error Book stands for one of them. -/
def Sound (verdict : Verdict) : Prop :=
  verdict.sufficient = true →
    (∀ name ∈ readPages, Text.strip name ≠ "" → ∃ page ∈ db.pages.rows, page.pageKey = normalizePageKey name) ∧
    required queries db claim requiredFanIn ≤ (existing db readPages).length ∧
    (Text.strip claim ≠ "" → 35 / 100 ≤ verdict.coverage.ratio) ∧
    ∀ id entry, db.errors.get? id = some entry → ¬Constrains readPages entry

/-- The check is sound exactly when it finds a gap, or every open entry that stands for a named page is among the newest
two hundred open ones and names a key. -/
theorem sound_iff (strategy : String) :
    Sound queries db claim readPages requiredFanIn
        (sufficiencyCheck queries db claim readPages requiredFanIn strategy) ↔
      Gap queries db claim readPages requiredFanIn ∨
      ∀ id entry, db.errors.get? id = some entry → Constrains readPages entry →
        (id, entry) ∈ errorBook queries db.errors 200 ∧ normalizePageKey entry.pageKey ≠ "" := by
  rw [Sound, sufficient_iff, coverage_sufficiencyCheck]
  constructor
  · intro sound
    by_cases gap : Gap queries db claim readPages requiredFanIn
    · exact .inl gap
    · exact .inr fun id entry known constrains => absurd constrains ((sound gap).2.2.2 id entry known)
  · intro either closed
    have seen := either.resolve_left closed
    rw [Gap] at closed
    push Not at closed
    obtain ⟨_, exist, enough, covered, visible⟩ := closed
    refine ⟨fun name member given => ?_, enough, covered, fun id entry known constrains => ?_⟩
    · exact exist (normalizePageKey name) (List.mem_map_of_mem (List.mem_filter.2 ⟨member, decide_eq_true given⟩))
    · obtain ⟨listed, key⟩ := seen id entry known constrains
      have blank := visible (id, entry) listed
      dsimp only at blank
      exact key (blank constrains.2)

end Verdict

section Book
attribute [local instance] CharData.ascii WordData.ascii

private def readPage : WikiPage := { pageKey := "a", title := "A", path := "a.md" }

/-- An entry about the page, and then two hundred about another one. -/
private def longBook : WikiDb where
  pages := ⟨[readPage], List.nodup_singleton _⟩
  sources := Keyed.empty
  links := []
  errors := ⟨{ errorType := "contested_claim", pageKey := "a" } ::
    List.replicate 200 { errorType := "orphan_page", pageKey := "b" }⟩

private def withoutIndex : Queries := Queries.plain fun _ _ => []

/-- The evidence of a page is sufficient although an open entry contests it. -/
theorem check_unsound : ¬Sound withoutIndex longBook "" ["a"] (some 1)
    (sufficiencyCheck withoutIndex longBook "" ["a"] (some 1) "") := by
  intro sound
  refine (sound (by decide +kernel)).2.2.2 0 { errorType := "contested_claim", pageKey := "a" } rfl ?_
  exact ⟨rfl, by decide +kernel⟩

end Book

end SoulClaw.Wiki.Sufficiency
