import SoulClaw.Wiki.Navigation
import SoulClaw.Wiki.Search
import Mathlib.Algebra.BigOperators.Group.Finset.Basic

/-! The list of all pages that a reader of the wiki browses, and what it says of the files. -/

namespace SoulClaw.Wiki.Browsing
open Foundation Ranking Markdown Compile Image Lint Search Navigation

/-- An item of `browse`. -/
structure BrowsedPage where
  pageKey : String
  title : String
  path : String
  summary : String
  tags : List String
  pageType : String
  confidence : ℚ
  isIndexLinked : Bool
  inboundLinks : Nat
  outboundLinks : Nat
  source : String := "wiki_browse"
  nextActions : List String := ["wiki_read", "wiki_follow_links"]
  deriving DecidableEq

/-- The result of `browse`. -/
structure Listing where
  pathPrefix : String
  pageType : String
  items : List BrowsedPage
  total : Nat
  nextActions : List String := ["wiki_read selected pages", "wiki_sufficiency_check before answering"]
  deriving DecidableEq

/-- `(not item["is_index_linked"], item["path"], item["page_key"])`. -/
def BrowsedPage.order (item : BrowsedPage) : Bool ×ₗ String ×ₗ String :=
  toLex (!item.isIndexLinked, toLex (item.path, item.pageKey))

/-- `pages.sort(key=...)`: the least first. -/
def sorted (items : List BrowsedPage) : List BrowsedPage :=
  rankBy (fun item => OrderDual.toDual item.order) items

def browsed (counts : Nat × Nat) (indexed : List String) (page : WikiPage) : BrowsedPage where
  pageKey := page.pageKey
  title := page.title
  path := page.path
  summary := page.summary
  tags := page.tags
  pageType := page.pageType
  confidence := confidence page.confidence
  isIndexLinked := page.pageKey ∈ indexed || page.pageKey = "index"
  inboundLinks := counts.1
  outboundLinks := counts.2

section Browse
variable [CharData]

/-- The page is below the prefix and of the type, where these are given. -/
def wanted (pathPrefix pageType : String) (page : WikiPage) : Bool :=
  underPrefix pathPrefix page && (Text.strip pageType = "" || page.pageType = Text.strip pageType)

def listingOf (pathPrefix pageType : String) (limit : Nat) (items : List BrowsedPage) : Listing where
  pathPrefix := String.ofList (trim (· = '/') (Text.strip pathPrefix).toList)
  pageType := Text.strip pageType
  items := (sorted items).take (max 1 (min limit 500))
  total := items.length

/-- `browse`. -/
def browse (tree : WikiTree) (db : WikiDb) (pathPrefix pageType : String) (limit : Nat) : Except PyException Listing := do
  let indexed ← indexedPageKeys tree
  return listingOf pathPrefix pageType limit (((listPages db 1000).filter (wanted pathPrefix pageType)).map fun page =>
    browsed (linkCounts db page.pageKey) indexed page)

/-- Without a prefix and a type every page is listed. -/
theorem wanted_all : wanted "" "" = fun _ : WikiPage => true := by
  have blank : Text.strip "" = "" := by rw [Text.strip]; rfl
  have bare : trim (· = '/') (Text.strip "").toList = [] := by rw [blank]; rfl
  funext page
  rw [wanted, underPrefix, bare, blank]
  rfl

/-! What the files say. -/

/-- How many occurrences of a wikilink lead to the page, and how many of its own lead to a page. -/
def hopCounts (pages : List ParsedWikiPage) (page : ParsedWikiPage) : Nat × Nat :=
  ((hops pages).countP fun hop => hop.dst.pageKey = page.pageKey,
    (hops pages).countP fun hop => hop.src.pageKey = page.pageKey)

/-- The list of the pages that the files hold, without the tables. -/
def browseFiles (pages : List ParsedWikiPage) (tree : WikiTree) (pathPrefix pageType : String) (limit : Nat) :
    Except PyException Listing := do
  let indexed ← indexedPageKeys tree
  return listingOf pathPrefix pageType limit ((pages.filter fun page => wanted pathPrefix pageType (pageImage page)).map
    fun page => browsed (hopCounts pages page) indexed (pageImage page))

end Browse

/-! The order of the items. -/

theorem length_sorted (items : List BrowsedPage) : (sorted items).length = items.length := (rankBy_perm _ items).length_eq

/-- Items with distinct keys are sorted in one way. -/
theorem sorted_eq_of_perm {first second : List BrowsedPage} (distinct : (second.map BrowsedPage.pageKey).Nodup)
    (perm : first.Perm second) : sorted first = sorted second := by
  apply rankBy_eq_of_perm _ perm
  apply List.Nodup.of_map fun place => (ofLex (ofLex (OrderDual.ofDual place)).2).2
  rw [List.map_map]
  exact distinct

/-- A list with as many items as it has counted lists all of them. -/
theorem perm_of_uncut [CharData] {pathPrefix pageType : String} {limit : Nat} {items : List BrowsedPage}
    (whole : (listingOf pathPrefix pageType limit items).items.length = items.length) :
    (listingOf pathPrefix pageType limit items).items.Perm items := by
  have short : items.length ≤ max 1 (min limit 500) := by
    rw [listingOf, List.length_take, length_sorted] at whole
    omega
  have uncut : (sorted items).take (max 1 (min limit 500)) = sorted items :=
    List.take_of_length_le ((length_sorted items).symm ▸ short)
  rw [listingOf, uncut]
  exact rankBy_perm _ items

/-- Distinct keys share out the items that point to them. -/
theorem sum_countP {Item Key : Type*} [DecidableEq Key] {keys : List Key} (distinct : keys.Nodup) (items : List Item)
    (key : Item → Key) (known : ∀ item ∈ items, key item ∈ keys) :
    (keys.map fun own => items.countP fun item => key item = own).sum = items.length := by
  have counted : ∀ own, (items.countP fun item => key item = own) = (items.map key).count own := by
    intro own
    rw [List.count, List.countP_map]
    rfl
  have within : ∀ own ∈ ((items.map key : List Key) : Multiset Key), own ∈ keys.toFinset := by
    intro own member
    obtain ⟨item, listed, rfl⟩ := List.mem_map.1 (Multiset.mem_coe.1 member)
    exact List.mem_toFinset.2 (known item listed)
  calc (keys.map fun own => items.countP fun item => key item = own).sum
      = (keys.map fun own => (items.map key).count own).sum := by simp only [counted]
    _ = ∑ own ∈ keys.toFinset, (items.map key).count own := (List.sum_toFinset _ distinct).symm
    _ = Multiset.card ((items.map key : List Key) : Multiset Key) := by
        rw [← Multiset.sum_count_eq_card within]
        simp only [Multiset.coe_count]
    _ = items.length := by rw [Multiset.coe_card, List.length_map]

/-! After a compile. -/

section Compiled
variable [CharData] [FloatData] [DateData] {service : WikiService} {tree : WikiTree} {now : Int} {db after : WikiDb}
  {report : CompileReport}

theorem linkCounts_compiled (page : ParsedWikiPage) :
    linkCounts (compiled service tree now db) page.pageKey = hopCounts (indexedPages service tree) page := by
  rw [linkCounts, hopCounts, resolved_links]
  apply Prod.ext
  · show List.countP _ (List.map _ _) = _
    rw [List.countP_map]
    apply List.countP_congr
    intro hop member
    rw [Function.comp_apply, dst_row member]
  · show List.countP _ (List.map _ _) = _
    rw [List.countP_map]
    rfl

/-- As long as there are at most a thousand pages, all of them are listed. -/
theorem listPages_compiled (clean : (scanFiles service tree.markdownPaths).errors = [])
    (few : (indexedPages service tree).length ≤ 1000) :
    (listPages (compiled service tree now db) 1000).Perm ((indexedPages service tree).map pageImage) := by
  have stored : (compiled service tree now db).pages.rows.Perm ((indexedPages service tree).map pageImage) :=
    compiled_pages clean
  have whole := (List.perm_insertionSort (fun first second : WikiPage => first.pageKey ≤ second.pageKey)
    (compiled service tree now db).pages.rows).trans stored
  rw [listPages, List.take_of_length_le]
  · exact whole
  · rw [whole.length_eq, List.length_map]
    exact few

theorem distinct_pages : ((indexedPages service tree).map ParsedWikiPage.pageKey).Nodup := scanFiles_distinct _

/-- The items of the tables and of the files are the same, in some order. -/
theorem items_perm (clean : (scanFiles service tree.markdownPaths).errors = [])
    (few : (indexedPages service tree).length ≤ 1000) (keep : WikiPage → Bool) (indexed : List String) :
    (((listPages (compiled service tree now db) 1000).filter keep).map fun page =>
        browsed (linkCounts (compiled service tree now db) page.pageKey) indexed page).Perm
      (((indexedPages service tree).filter fun page => keep (pageImage page)).map fun page =>
        browsed (hopCounts (indexedPages service tree) page) indexed (pageImage page)) := by
  have whole : (listPages (compiled service tree now db) 1000).Perm ((indexedPages service tree).map pageImage) :=
    listPages_compiled clean few
  have listed := (whole.filter keep).map
    fun page => browsed (linkCounts (compiled service tree now db) page.pageKey) indexed page
  rw [List.filter_map, List.map_map] at listed
  apply listed.trans
  apply List.Perm.of_eq
  apply List.map_congr_left
  intro page _
  exact congrArg (fun counts => browsed counts indexed (pageImage page)) (linkCounts_compiled page)

theorem distinct_items (keep : ParsedWikiPage → Bool) (indexed : List String) :
    ((((indexedPages service tree).filter keep).map fun page =>
      browsed (hopCounts (indexedPages service tree) page) indexed (pageImage page)).map BrowsedPage.pageKey).Nodup := by
  rw [List.map_map]
  exact distinct_pages.sublist (List.filter_sublist.map _)

omit [FloatData] [DateData] in
theorem listingOf_eq_of_perm {first second : List BrowsedPage} (distinct : (second.map BrowsedPage.pageKey).Nodup)
    (perm : first.Perm second) (pathPrefix pageType : String) (limit : Nat) :
    listingOf pathPrefix pageType limit first = listingOf pathPrefix pageType limit second := by
  rw [listingOf, listingOf, sorted_eq_of_perm distinct perm, perm.length_eq]

/-- Where every file parses, the tables of a compile list what the files do. -/
theorem browse_compiled (clean : (scanFiles service tree.markdownPaths).errors = [])
    (few : (indexedPages service tree).length ≤ 1000) (pathPrefix pageType : String) (limit : Nat) :
    browse tree (compiled service tree now db) pathPrefix pageType limit =
      browseFiles (indexedPages service tree) tree pathPrefix pageType limit := by
  rw [browse, browseFiles]
  cases indexedPageKeys tree with
  | error raised => rfl
  | ok indexed =>
    apply congrArg Except.ok
    exact listingOf_eq_of_perm (distinct_items _ _) (items_perm clean few _ _) _ _ _

/-- After a compile without errors, the list of the pages that the tables give is the one that the files give, with each
occurrence of a link counted at its page and at the page that it leads to. -/
theorem browse_of_files (service : WikiService) (tree : WikiTree) (now : Int) (db after : WikiDb)
    (report : CompileReport) (returned : compile service tree now db = .ok (report, after)) (ok : report.status = "ok")
    (few : (indexedPages service tree).length ≤ 1000) (pathPrefix pageType : String) (limit : Nat) :
    browse tree after pathPrefix pageType limit =
      browseFiles (indexedPages service tree) tree pathPrefix pageType limit := by
  have clean := clean_of_ok returned ok
  obtain ⟨_, rfl⟩ := compile_ok returned
  exact browse_compiled clean few pathPrefix pageType limit

/-- In a list of the whole wiki, the links into the pages are as many as those out of them: each of both counts the
occurrences in the files that lead to a page. -/
theorem links_balance (service : WikiService) (tree : WikiTree) (now : Int) (db after : WikiDb)
    (report : CompileReport) (returned : compile service tree now db = .ok (report, after)) (ok : report.status = "ok")
    (few : (indexedPages service tree).length ≤ 1000) (limit : Nat) (listing : Listing)
    (listed : browse tree after "" "" limit = .ok listing) (whole : listing.items.length = listing.total) :
    (listing.items.map BrowsedPage.inboundLinks).sum = (hops (indexedPages service tree)).length ∧
      (listing.items.map BrowsedPage.outboundLinks).sum = (hops (indexedPages service tree)).length := by
  have clean := clean_of_ok returned ok
  obtain ⟨_, rfl⟩ := compile_ok returned
  rw [browse_compiled clean few, browseFiles, wanted_all] at listed
  cases known : indexedPageKeys tree with
  | error raised =>
    rw [known] at listed
    cases listed
  | ok indexed =>
    rw [known] at listed
    obtain rfl := Except.ok.inj listed
    have all : ((indexedPages service tree).filter fun _ => true) = indexedPages service tree :=
      List.filter_eq_self.2 fun _ _ => rfl
    rw [all] at whole ⊢
    have items := perm_of_uncut whole
    have into := (items.map BrowsedPage.inboundLinks).sum_eq
    have out := (items.map BrowsedPage.outboundLinks).sum_eq
    rw [List.map_map] at into out
    rw [into, out]
    have reached := sum_countP distinct_pages (hops (indexedPages service tree)) (fun hop => hop.dst.pageKey)
      fun hop member => List.mem_map_of_mem (dst_of_mem_hops member)
    have left := sum_countP distinct_pages (hops (indexedPages service tree)) (fun hop => hop.src.pageKey)
      fun hop member => List.mem_map_of_mem (mem_hops_iff.1 member).1
    rw [List.map_map] at reached left
    exact ⟨reached, left⟩

end Compiled

section Demo
attribute [local instance] CharData.ascii FloatData.decimal DateData.undated

theorem linked_pages_browsed : browse linkedPages (compiled plainService linkedPages 0 noRows) "" "" 100 =
    browseFiles (indexedPages plainService linkedPages) linkedPages "" "" 100 :=
  browse_of_files _ _ _ _ _ _ linked_returned (by decide +kernel) (by decide +kernel) _ _ _

theorem linked_pages_balanced : ∃ listing : Listing,
    browse linkedPages (compiled plainService linkedPages 0 noRows) "" "" 100 = .ok listing ∧
    (listing.items.map BrowsedPage.inboundLinks).sum = (hops (indexedPages plainService linkedPages)).length ∧
    (listing.items.map BrowsedPage.outboundLinks).sum = (hops (indexedPages plainService linkedPages)).length := by
  have few : (indexedPages plainService linkedPages).length ≤ 100 := by decide +kernel
  have clean : (scanFiles plainService linkedPages.markdownPaths).errors = [] := by decide +kernel
  have bare : indexedPageKeys linkedPages = .ok [] := rfl
  have listed : browse linkedPages (compiled plainService linkedPages 0 noRows) "" "" 100 = _ :=
    browse_compiled clean (by omega) "" "" 100
  rw [browseFiles, bare] at listed
  refine ⟨_, listed, links_balance _ _ _ _ _ _ linked_returned (by decide +kernel) (by omega) 100 _ listed ?_⟩
  have kept := List.length_filter_le (fun page => wanted "" "" (pageImage page)) (indexedPages plainService linkedPages)
  simp only [listingOf, List.length_take, length_sorted, List.length_map]
  omega

end Demo

end SoulClaw.Wiki.Browsing
