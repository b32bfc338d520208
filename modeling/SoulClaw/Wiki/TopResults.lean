import SoulClaw.Foundation.Lines
import SoulClaw.Foundation.Uuid
import SoulClaw.Wiki.Search

/-! The best results. The candidates are cut twice before they are scored, so a search gives the best of all pages that
match exactly when every page that the cuts leave out is outranked by enough of the candidates. -/

namespace SoulClaw.Wiki.TopResults
open Foundation Ranking Markdown Compile Search
open Patterns (WordData)

/-! The pages that a search looks at. -/

section Listing
variable (queries : Queries) (db : WikiDb)

theorem listPages_subperm (limit : Nat) : (listPages db limit).Subperm db.pages.rows :=
  ((List.take_sublist _ _).subperm).trans (List.perm_insertionSort _ _).subperm

theorem nodup_pageKeys {pages : List WikiPage} (within : pages.Subperm db.pages.rows) :
    (pages.map WikiPage.pageKey).Nodup := by
  obtain ⟨part, same, listed⟩ := within
  exact (same.map WikiPage.pageKey).nodup_iff.1 (db.pages.unique.sublist (listed.map _))

theorem mem_listing {pageKeys : List String} {limit : Nat} {page : WikiPage}
    (member : page ∈ listing queries db pageKeys limit) : page ∈ db.pages.rows := by
  rcases List.mem_append.1 member with listed | named
  · exact (listPages_subperm db _).subset listed
  · exact List.mem_of_mem_filter ((queries.arrange_perm _).subset named)

theorem nodup_listing (pageKeys : List String) (limit : Nat) :
    ((listing queries db pageKeys limit).map WikiPage.pageKey).Nodup := by
  rw [listing, List.map_append]
  have named := queries.arrange_perm (db.pages.rows.filter fun page => page.pageKey ∈
    pageKeys.filter fun key => key ≠ "" ∧ key ∉ (listPages db (max limit 1000)).map WikiPage.pageKey)
  refine List.Nodup.append (nodup_pageKeys db (listPages_subperm db _))
    (nodup_pageKeys db (named.subperm.trans List.filter_sublist.subperm)) ?_
  intro key listed added
  obtain ⟨page, member, rfl⟩ := List.mem_map.1 added
  have missing := List.mem_filter.1 (of_decide_eq_true (List.mem_filter.1 (named.subset member)).2)
  exact (of_decide_eq_true missing.2).2 listed

/-- Up to a thousand pages are all looked at. -/
theorem mem_listing_of_few {pageKeys : List String} {limit : Nat} (few : db.pages.rows.length ≤ 1000) {page : WikiPage}
    (member : page ∈ db.pages.rows) : page ∈ listing queries db pageKeys limit := by
  apply List.mem_append_left
  rw [listPages, List.take_of_length_le]
  · exact (List.mem_insertionSort _).2 member
  · rw [List.length_insertionSort]
    omega

end Listing

section Top
variable [CharData] [WordData] (queries : Queries) (db : WikiDb) (query pathPrefix : String)

/-- A page under the prefix that a query matches, by its text or in the full-text index, and that has a score or a hit. -/
def wanted (hits : Keyed FtsHit.pageKey) (page : WikiPage) : Bool :=
  underPrefix pathPrefix page && (page.pageKey ∈ hits.keys || pageHasTextMatch page query (queryTokens query)) &&
    scored db query hits page

/-- All indexed pages that a query should find. -/
def matching (limit : Nat) : List WikiPage := db.pages.rows.filter (wanted db query pathPrefix (ftsHits queries query limit))

variable {query}

theorem mem_candidatePages {pageKeys : List String} {limit : Nat} {page : WikiPage} (given : Text.strip query ≠ "")
    (member : page ∈ candidatePages queries db query pathPrefix pageKeys limit) :
    page ∈ db.pages.rows ∧ underPrefix pathPrefix page = true ∧
      (page.pageKey ∈ pageKeys || pageHasTextMatch page query (queryTokens query)) = true := by
  rw [candidatePages, if_neg given] at member
  obtain ⟨listed, matched⟩ := List.mem_filter.1 (List.mem_of_mem_take member)
  obtain ⟨looked, under⟩ := List.mem_filter.1 listed
  exact ⟨mem_listing queries db looked, under, matched⟩

theorem nodup_scoredCandidates (given : Text.strip query ≠ "") (limit : Nat) :
    ((scoredCandidates queries db query pathPrefix limit).map WikiPage.pageKey).Nodup := by
  refine (nodup_listing queries db (ftsHits queries query limit).keys (max (limit * 8) 200)).sublist ?_
  rw [scoredCandidates, candidatePages, if_neg given]
  exact (List.filter_sublist.trans ((List.take_sublist _ _).trans
    (List.filter_sublist.trans List.filter_sublist))).map _

theorem matching_of_scoredCandidates {limit : Nat} {page : WikiPage} (given : Text.strip query ≠ "")
    (member : page ∈ scoredCandidates queries db query pathPrefix limit) :
    page ∈ matching queries db query pathPrefix limit := by
  obtain ⟨candidate, counted⟩ := List.mem_filter.1 member
  obtain ⟨indexed, under, matched⟩ := mem_candidatePages queries db pathPrefix given candidate
  exact List.mem_filter.2 ⟨indexed, by rw [wanted, under, matched, counted]; rfl⟩

/-- The candidates are the pages to find whose keys are kept by the cuts. -/
theorem scoredCandidates_perm (given : Text.strip query ≠ "") (limit : Nat) :
    (scoredCandidates queries db query pathPrefix limit).Perm ((matching queries db query pathPrefix limit).filter
      fun page => page.pageKey ∈ (scoredCandidates queries db query pathPrefix limit).map WikiPage.pageKey) := by
  have rows : db.pages.rows.Nodup := db.pages.unique.of_map _
  refine (List.perm_ext_iff_of_nodup ((nodup_scoredCandidates queries db pathPrefix given limit).of_map _)
    ((rows.sublist List.filter_sublist).sublist List.filter_sublist)).2 fun page => ?_
  rw [List.mem_filter, decide_eq_true_eq]
  constructor
  · intro member
    exact ⟨matching_of_scoredCandidates queries db pathPrefix given member, List.mem_map_of_mem member⟩
  · rintro ⟨wanted, kept⟩
    obtain ⟨other, member, same⟩ := List.mem_map.1 kept
    have indexed := List.mem_of_mem_filter (matching_of_scoredCandidates queries db pathPrefix given member)
    rwa [← List.inj_on_of_nodup_map db.pages.unique indexed (List.mem_of_mem_filter wanted) same]

omit [WordData] in
theorem strip_text {request : Request} (given : Text.strip request.query ≠ "") : Text.strip request.text ≠ "" := by
  have twice : Text.strip request.text = request.text := by
    apply String.toList_inj.1
    rw [Request.text, Lines.strip_toList, Lines.strip_toList, Lines.strip_strip]
  rwa [twice]

/-! The best results. -/

variable (request : Request)

/-- All indexed pages that a search should find. -/
def found : List WikiPage := matching queries db request.text request.pathPrefix request.count

/-- Their records, the best first. -/
def ranked : List SearchHit := rankBy SearchHit.order ((found queries db request).map (record queries db request))

/-- A page outranks another one. -/
def outranks (page other : WikiPage) : Bool := (record queries db request other).order < (record queries db request page).order

/-- A page is among the candidates. -/
def isCandidate (page : WikiPage) : Bool := page.pageKey ∈ (candidates queries db request).map WikiPage.pageKey

@[simp] theorem record_page (page : WikiPage) : (record queries db request page).page = page := rfl

theorem distinct_records : (((found queries db request).map (record queries db request)).map SearchHit.order).Nodup := by
  have keys : ((found queries db request).map WikiPage.pageKey).Nodup := nodup_pageKeys db List.filter_sublist.subperm
  rw [List.map_map]
  exact List.Nodup.of_map (fun order : ℚ ×ₗ ℚ ×ₗ String => (ofLex (ofLex order).2).2) (by rwa [List.map_map])

variable {request}

theorem candidates_perm (given : Text.strip request.query ≠ "") : (candidates queries db request).Perm
    ((found queries db request).filter (isCandidate queries db request)) :=
  scoredCandidates_perm queries db request.pathPrefix (strip_text given) request.count

variable (request) in
/-- The hits that the cuts keep. -/
def keptHits : List SearchHit :=
  ((found queries db request).map (record queries db request)).filter fun hit => isCandidate queries db request hit.page

theorem keptHits_eq : keptHits queries db request =
    ((found queries db request).filter (isCandidate queries db request)).map (record queries db request) := by
  rw [keptHits, List.filter_map]
  apply congrArg
  apply List.filter_congr
  intro page _
  rw [Function.comp_apply, record_page]

theorem keptHits_perm (given : Text.strip request.query ≠ "") :
    ((candidates queries db request).map (record queries db request)).Perm (keptHits queries db request) := by
  rw [keptHits_eq]
  exact (candidates_perm queries db given).map _

theorem search_eq (given : Text.strip request.query ≠ "") :
    search queries db request = (rankBy SearchHit.order (keptHits queries db request)).take request.count := by
  have distinct : ((keptHits queries db request).map SearchHit.order).Nodup :=
    (distinct_records queries db request).sublist (List.filter_sublist.map _)
  rw [search, rankBy_eq_of_perm distinct (keptHits_perm queries db given)]

/-- How many hits that the cuts keep are above the hit of a page. -/
theorem length_above (given : Text.strip request.query ≠ "") (page : WikiPage) :
    ((keptHits queries db request).filter fun other =>
        (record queries db request page).order < other.order).length =
      ((candidates queries db request).filter fun other => outranks queries db request other page).length := by
  rw [← ((keptHits_perm queries db given).filter _).length_eq, List.filter_map, List.length_map]
  apply congrArg
  apply List.filter_congr
  intro other _
  rw [Function.comp_apply, outranks]

/-- A search gives the best of all pages that match exactly when every one that the cuts leave out is outranked by as many
candidates as are asked for; and where none are asked for, when there is no candidate. -/
theorem search_top_iff (given : Text.strip request.query ≠ "") :
    search queries db request = (ranked queries db request).take (min request.limit 50).toNat ↔
      (request.limit < 1 → candidates queries db request = []) ∧
      ∀ page ∈ found queries db request, isCandidate queries db request page = false →
        (min request.limit 50).toNat ≤
          ((candidates queries db request).filter fun other => outranks queries db request other page).length := by
  rw [search_eq queries db given, ranked]
  by_cases asked : 1 ≤ request.limit
  · have count : request.count = (min request.limit 50).toNat := by
      unfold Request.count
      omega
    have top := top_eq_iff (distinct_records queries db request) (fun hit => isCandidate queries db request hit.page)
      (min request.limit 50).toNat
    rw [← keptHits] at top
    rw [count, top, List.forall_mem_map]
    simp only [length_above queries db given, record_page]
    constructor
    · intro outranked
      exact ⟨fun few => absurd asked (by omega), outranked⟩
    · intro both
      exact both.2
  · have count : (min request.limit 50).toNat = 0 := by omega
    have one : request.count = 0 + 1 := by
      unfold Request.count
      omega
    have perm := (rankBy_perm SearchHit.order _).trans (keptHits_perm queries db given).symm
    rw [count, List.take_zero, one, List.take_eq_nil_iff]
    constructor
    · intro none
      rw [none.resolve_left (by omega)] at perm
      exact ⟨fun _ => List.map_eq_nil_iff.1 perm.nil_eq.symm, fun page _ _ => Nat.zero_le _⟩
    · intro both
      right
      rw [both.1 (by omega), List.map_nil] at perm
      exact perm.eq_nil

/-- Nothing is cut where there are no more than two hundred pages. -/
theorem isCandidate_of_few (given : Text.strip request.query ≠ "") (few : db.pages.rows.length ≤ 200) {page : WikiPage}
    (member : page ∈ found queries db request) : isCandidate queries db request page = true := by
  obtain ⟨indexed, wanted⟩ := List.mem_filter.1 member
  obtain ⟨⟨under, matched⟩, counted⟩ := by simpa only [TopResults.wanted, Bool.and_eq_true] using wanted
  apply decide_eq_true
  apply List.mem_map_of_mem
  apply List.mem_filter.2 ⟨?_, counted⟩
  have looked := nodup_listing queries db (ftsHits queries request.text request.count).keys (max (request.count * 8) 200)
  have within : ((listing queries db (ftsHits queries request.text request.count).keys
      (max (request.count * 8) 200))).length ≤ db.pages.rows.length :=
    (looked.of_map _).length_le_of_subset fun other => mem_listing queries db
  rw [candidatePages, if_neg (strip_text given), List.take_of_length_le]
  · exact List.mem_filter.2 ⟨List.mem_filter.2 ⟨mem_listing_of_few queries db (by omega) indexed, under⟩, matched⟩
  · calc
      _ ≤ (listing queries db (ftsHits queries request.text request.count).keys (max (request.count * 8) 200)).length :=
        (List.filter_sublist.trans List.filter_sublist).length_le
      _ ≤ max (request.count * 8) 200 := by omega

omit [WordData] in
/-- The key of a page does not count where the query does not occur in it. -/
theorem scorePage_key {page : WikiPage} {key text : String} {tokens : List String} {rank : ℚ} {counts : Nat × Nat}
    (other : ∀ name ∈ [page.pageKey, key], name ≠ normalizePageKey text)
    (apart : ∀ name ∈ [page.pageKey, key], fieldContains name text tokens = false) :
    scorePage { page with pageKey := key } text tokens rank counts = scorePage page text tokens rank counts := by
  simp only [List.forall_mem_cons, List.not_mem_nil, false_imp_iff, implies_true, and_true] at other apart
  have exact : exactMatches { page with pageKey := key } text = exactMatches page text := by
    simp only [exactMatches, other.1, other.2, and_false, if_false]
  have fields : (fieldValues { page with pageKey := key }).filter (fun field => fieldContains field.2.2 text tokens) =
      (fieldValues page).filter fun field => fieldContains field.2.2 text tokens := by
    simp only [fieldValues, List.filter_cons, apart.1, apart.2, Bool.false_eq_true, if_false]
  rw [scorePage, scorePage, exact, fields]

end Top

section Notes
attribute [local instance] CharData.ascii WordData.ascii

private def numbered (n : Nat) : String :=
  String.ofList [(n / 100).digitChar, (n / 10 % 10).digitChar, (n % 10).digitChar]

private def note (n : Nat) : WikiPage := { pageKey := numbered n, title := "Note", path := "", body := "x" }

private theorem numbered_injective {first second : Nat} (left : first < 1000) (right : second < 1000)
    (same : numbered first = numbered second) : first = second := by
  have digits := String.ofList_injective same
  simp only [List.cons.injEq, and_true] at digits
  have unique : ∀ {one other : Nat}, one < 10 → other < 10 → one.digitChar = other.digitChar → one = other := by
    intro one other small short equal
    have values := congrArg Loads.hexValue equal
    rw [Text.hexValue_digitChar (by omega), Text.hexValue_digitChar (by omega)] at values
    exact Option.some.inj values
  have hundreds := unique (by omega) (by omega) digits.1
  have tens := unique (by omega) (by omega) digits.2.1
  have ones := unique (by omega) (by omega) digits.2.2
  omega

/-- As many notes as are given, and one that has the query as its title. -/
private def notes (count : Nat) : List WikiPage := (List.range count).map note ++ [{ note count with title := "x" }]

private theorem notes_unique {count : Nat} (few : count < 1000) : ((notes count).map WikiPage.pageKey).Nodup := by
  have keys : (notes count).map WikiPage.pageKey = (List.range (count + 1)).map numbered := by
    rw [notes, List.map_append, List.map_map, List.range_succ, List.map_append]
    rfl
  rw [keys]
  refine List.Nodup.map_on ?_ List.nodup_range
  intro first left second right same
  rw [List.mem_range] at left right
  exact numbered_injective (by omega) (by omega) same

private def wiki : WikiDb where
  pages := ⟨notes 200, notes_unique (by omega)⟩
  sources := Keyed.empty
  links := []
  errors := Table.empty

private def asking : Request := { query := "x", limit := 1 }

private def unindexed : Queries := Queries.plain fun _ _ => []

private def better : WikiPage := { note 200 with title := "x" }

private theorem note_of_mem {page : WikiPage} (member : page ∈ notes 200) : page = better ∨ ∃ n < 200, page = note n := by
  rcases List.mem_append.1 member with plain | last
  · obtain ⟨n, within, rfl⟩ := List.mem_map.1 plain
    exact .inr ⟨n, List.mem_range.1 within, rfl⟩
  · exact .inl (List.mem_singleton.1 last)

private theorem body_of_mem {page : WikiPage} (member : page ∈ notes 200) : page.body = "x" := by
  rcases note_of_mem member with rfl | ⟨n, _, rfl⟩ <;> rfl

private theorem listing_notes : listing unindexed wiki [] 200 = notes 200 := by
  have chain : ((notes 200).map WikiPage.pageKey).IsChain (· ≤ ·) := by decide +kernel
  have sorted : (notes 200).Pairwise fun first second => first.pageKey ≤ second.pageKey :=
    List.pairwise_map.1 (List.isChain_iff_pairwise.1 chain)
  have pages : listPages wiki 1000 = notes 200 := by
    rw [listPages, show wiki.pages.rows = notes 200 from rfl, List.Pairwise.insertionSort_eq sorted,
      List.take_of_length_le (by simp [notes])]
  rw [listing, show max 200 1000 = 1000 from rfl, pages]
  simp [unindexed, Queries.plain]

/-- The candidates are the notes that come first by their keys. -/
private theorem note_of_candidate {page : WikiPage} (member : page ∈ candidates unindexed wiki asking) :
    ∃ n < 200, page = note n := by
  have text : asking.text = "x" := by decide
  have width : max (asking.count * 8) 200 = 200 := by decide
  have keys : (ftsHits unindexed "x" asking.count).keys = [] := rfl
  rw [candidates, scoredCandidates, text, width, keys] at member
  have candidate : page ∈ candidatePages unindexed wiki "x" "" [] 200 := List.mem_of_mem_filter member
  have under : (notes 200).filter (underPrefix "") = notes 200 := by
    have blank : trim (· = '/') (Text.strip "").toList = [] := by decide
    refine List.filter_eq_self.2 fun page _ => ?_
    rw [underPrefix, blank, decide_eq_true rfl, Bool.true_or, Bool.true_or]
  have all : (notes 200).filter (fun page => decide (page.pageKey ∈ []) || pageHasTextMatch page "x" (queryTokens "x")) =
      notes 200 := by
    refine List.filter_eq_self.2 fun page listed => ?_
    have found : pageHasTextMatch page "x" (queryTokens "x") = true := by
      refine List.any_eq_true.2 ⟨("body", 8 / 10, page.body), by simp [fieldValues], ?_⟩
      rw [body_of_mem listed]
      decide +kernel
    rw [found, Bool.or_true]
  have size : ((List.range 200).map note).length = 200 := by rw [List.length_map, List.length_range]
  have first : (notes 200).take 200 = (List.range 200).map note := by
    rw [notes, List.take_append_of_le_length size.ge, List.take_of_length_le size.le]
  rw [candidatePages, if_neg (by decide), listing_notes, under, all, first] at candidate
  obtain ⟨n, within, rfl⟩ := List.mem_map.1 candidate
  exact ⟨n, List.mem_range.1 within, rfl⟩

private theorem apart_numbered {n : Nat} (within : n < 200) : numbered n ≠ normalizePageKey "x" ∧
    fieldContains (numbered n) "x" (queryTokens "x") = false := by
  have all : ((List.range 200).all fun n => decide (numbered n ≠ normalizePageKey "x") &&
      !fieldContains (numbered n) "x" (queryTokens "x")) = true := by decide +kernel
  simpa using List.all_eq_true.1 all n (List.mem_range.2 within)

/-- The notes have one score, and the last one a better one. -/
private theorem not_outranks {n : Nat} (within : n < 200) : outranks unindexed wiki asking (note n) better = false := by
  have same : (record unindexed wiki asking (note n)).score = (record unindexed wiki asking (note 0)).score := by
    have own := apart_numbered within
    have zero := apart_numbered (show 0 < 200 by omega)
    have others : ∀ name ∈ [(note 0).pageKey, numbered n], name ≠ normalizePageKey "x" := by simpa using ⟨zero.1, own.1⟩
    have apart : ∀ name ∈ [(note 0).pageKey, numbered n], fieldContains name "x" (queryTokens "x") = false := by
      simpa using ⟨zero.2, own.2⟩
    exact congrArg Prod.fst (scorePage_key others apart)
  have below : (record unindexed wiki asking (note 0)).score < (record unindexed wiki asking better).score := by
    decide +kernel
  rw [← same] at below
  apply decide_eq_false
  apply not_lt_of_gt
  exact Prod.Lex.toLex_lt_toLex.2 (.inl below)

/-- The one page that is asked for is not among the candidates of a wiki of two hundred and one pages. -/
theorem search_misses_better :
    Text.strip asking.query ≠ "" ∧
    search unindexed wiki asking ≠ (ranked unindexed wiki asking).take (min asking.limit 50).toNat := by
  have given : Text.strip asking.query ≠ "" := by decide
  refine ⟨given, fun top => ?_⟩
  have wanted : better ∈ found unindexed wiki asking := by
    refine List.mem_filter.2 ⟨List.mem_append_right _ List.mem_cons_self, by decide +kernel⟩
  have out : isCandidate unindexed wiki asking better = false := by
    apply decide_eq_false
    intro member
    obtain ⟨page, candidate, same⟩ := List.mem_map.1 member
    obtain ⟨n, within, rfl⟩ := note_of_candidate candidate
    exact absurd (numbered_injective (by omega) (by omega) same) (by omega)
  have enough := ((search_top_iff unindexed wiki given).1 top).2 better wanted out
  rw [List.filter_eq_nil_iff.2] at enough
  · exact absurd enough (by decide)
  · intro page candidate
    obtain ⟨n, within, rfl⟩ := note_of_candidate candidate
    rw [not_outranks within]
    exact Bool.false_ne_true

private def smallWiki : WikiDb := { wiki with pages := ⟨notes 2, notes_unique (by omega)⟩ }

/-- In a wiki of three pages nothing is cut. -/
theorem search_top_small :
    search unindexed smallWiki asking = (ranked unindexed smallWiki asking).take (min asking.limit 50).toNat :=
  (search_top_iff unindexed smallWiki (by decide)).2 ⟨fun none => absurd none (by decide), fun _ wanted out =>
    absurd (isCandidate_of_few unindexed smallWiki (by decide) (by decide) wanted) (by rw [out]; decide)⟩

end Notes

end SoulClaw.Wiki.TopResults
