import SoulClaw.Wiki.Image
import SoulClaw.Wiki.Keys

/-! The links that a reader of the wiki follows, from the rows of the links, and the links of the files that they stand
for. -/

namespace SoulClaw.Wiki.Navigation
open Foundation Markdown Compile Image

/-- `_page_summary`. -/
structure PageSummary where
  pageKey : String
  title : String
  pageType : String
  path : String
  summary : String
  deriving DecidableEq, Repr

/-- An item of `follow_links`. -/
structure FollowedLink where
  srcPageKey : String
  dstPageKey : String
  anchorText : String
  direction : String
  page : Option PageSummary
  deriving DecidableEq, Repr

/-- The rows in the order of `created_at`, the newest first. Those of one compile have one time, and come in any
order. -/
structure Newest where
  arrange : List WikiLink → List WikiLink
  arrange_perm : ∀ rows, (arrange rows).Perm rows

/-- The result of `read_with_graph`. -/
structure PageGraph where
  page : WikiPage
  outlinks : List FollowedLink
  backlinks : List FollowedLink

def pageSummary (page : WikiPage) : PageSummary :=
  ⟨page.pageKey, page.title, page.pageType, page.path, page.summary⟩

/-- The key at the end of a link that is not the given one; a link from a page to itself has the page at both ends. -/
def otherEnd (key : String) (link : WikiLink) : String :=
  if link.srcPageKey = key then link.dstPageKey else link.srcPageKey

/-- One of the clauses of a direction holds of the link. -/
def meets (direction key : String) (link : WikiLink) : Bool :=
  (direction ∈ ["out", "both"] && link.srcPageKey = key) || (direction ∈ ["in", "both"] && link.dstPageKey = key)

/-- What `follow_links` tells of a link, with the page that it has looked up at the other end. -/
def followed (key : String) (pages : List WikiPage) (link : WikiLink) : FollowedLink where
  srcPageKey := link.srcPageKey
  dstPageKey := link.dstPageKey
  anchorText := link.anchorText
  direction := if link.srcPageKey = key then "out" else "in"
  page := (pages.find? fun page => page.pageKey = otherEnd key link).map pageSummary

def unknownDirection : PyException := ⟨.valueError, "direction must be out, in, or both"⟩

section Follow
variable [CharData] (newest : Newest) (db : WikiDb)

/-- `follow_links`. -/
def followLinks (pageKey direction : String) (limit : Nat) : Except PyException (List FollowedLink) :=
  let key := normalizePageKey pageKey
  if direction ∉ ["out", "in", "both"] then .error unknownDirection
  else
    let rows := db.links.filter fun link => meets direction key link && link.status = "resolved"
    let links := (newest.arrange rows).take (max 1 (min limit 200))
    let pages := db.pages.rows.filter fun page => page.pageKey ∈ links.map (otherEnd key)
    .ok (links.map (followed key pages))

/-- `read`. -/
def read (pageKey : String) : Option WikiPage := db.pages.find? (normalizePageKey pageKey)

/-- `read_with_graph`. -/
def readWithGraph (pageKey : String) : Except PyException (Option PageGraph) :=
  match read db pageKey with
  | none => .ok none
  | some page => do
      let outlinks ← followLinks newest db page.pageKey "out" 50
      let backlinks ← followLinks newest db page.pageKey "in" 50
      return some ⟨page, outlinks, backlinks⟩

end Follow

/-! The links of the files. -/

/-- An occurrence of a wikilink that leads from a page to a page. -/
structure Hop where
  src : ParsedWikiPage
  link : Wikilink
  dst : ParsedWikiPage

section Hops
variable [CharData]

/-- The page that an occurrence leads to; the page under the empty key does not count. -/
def target (pages : List ParsedWikiPage) (link : Wikilink) : Option ParsedWikiPage :=
  (owner pages link.key).filter fun page => page.pageKey ≠ ""

def hopsOf (pages : List ParsedWikiPage) (page : ParsedWikiPage) : List Hop :=
  (keyedLinks page).filterMap fun link => (target pages link).map fun dst => ⟨page, link, dst⟩

/-- The graph of the files. -/
def hops (pages : List ParsedWikiPage) : List Hop := pages.flatMap (hopsOf pages)

/-- A hop leaves, reaches or touches the page under a key. -/
def Hop.touches (direction key : String) (hop : Hop) : Bool :=
  (direction ∈ ["out", "both"] && hop.src.pageKey = key) || (direction ∈ ["in", "both"] && hop.dst.pageKey = key)

/-- The page at the end of a hop that a reader at a key is led to. -/
def Hop.other (key : String) (hop : Hop) : ParsedWikiPage := if hop.src.pageKey = key then hop.dst else hop.src

def Hop.shown (key : String) (hop : Hop) : FollowedLink where
  srcPageKey := hop.src.pageKey
  dstPageKey := hop.dst.pageKey
  anchorText := hop.link.anchor
  direction := if hop.src.pageKey = key then "out" else "in"
  page := some (pageSummary (pageImage (hop.other key)))

/-- The row of a hop. -/
def Hop.row (pages : List ParsedWikiPage) (hop : Hop) : WikiLink :=
  wikiLink (knownNames pages) hop.src (hop.link.key, hop.link.anchor)

/-! The rows of the hops. -/

section Rows
variable {pages : List ParsedWikiPage} {hop : Hop} {key : String}

theorem mem_hops_iff : hop ∈ hops pages ↔
    hop.src ∈ pages ∧ hop.link ∈ keyedLinks hop.src ∧ target pages hop.link = some hop.dst := by
  rw [hops, List.mem_flatMap]
  constructor
  · intro known
    obtain ⟨page, member, inside⟩ := known
    obtain ⟨link, occurs, made⟩ := List.mem_filterMap.1 inside
    obtain ⟨dst, leads, rfl⟩ := Option.map_eq_some_iff.1 made
    exact ⟨member, occurs, leads⟩
  · intro known
    obtain ⟨member, occurs, leads⟩ := known
    exact ⟨hop.src, member, List.mem_filterMap.2 ⟨hop.link, occurs, by rw [leads]; rfl⟩⟩

theorem dst_of_mem_hops (member : hop ∈ hops pages) : hop.dst ∈ pages := by
  obtain ⟨_, _, leads⟩ := mem_hops_iff.1 member
  exact Declarations.mem_of_owner (Option.filter_eq_some_iff.1 leads).1

theorem resolve_eq_target (pages : List ParsedWikiPage) (link : Wikilink) :
    resolve (knownNames pages) link.key = (target pages link).map ParsedWikiPage.pageKey := by
  rw [resolve, knownNames_apply, target]
  cases owner pages link.key with
  | none => rfl
  | some page =>
    by_cases blank : page.pageKey = "" <;> simp [Option.filter, blank]

theorem dst_row (member : hop ∈ hops pages) : (hop.row pages).dstPageKey = hop.dst.pageKey := by
  obtain ⟨_, _, leads⟩ := mem_hops_iff.1 member
  show (resolve (knownNames pages) hop.link.key).getD hop.link.key = _
  rw [resolve_eq_target, leads]
  rfl

/-- The resolved rows of the links of a page are those of its hops. -/
theorem resolved_linkImage (pages : List ParsedWikiPage) (page : ParsedWikiPage) :
    ((linkImage pages page).filter fun link => link.status = "resolved") =
      (hopsOf pages page).map (Hop.row pages) := by
  rw [linkImage, hopsOf]
  induction keyedLinks page with
  | nil => rfl
  | cons link rest ih =>
    rw [List.map_cons, List.filter_cons, ih, List.filterMap_cons]
    have status : (wikiLink (knownNames pages) page (link.key, link.anchor)).status =
        if (target pages link).isSome then "resolved" else "unresolved" := by
      show (if (resolve (knownNames pages) link.key).isSome then "resolved" else "unresolved") = _
      rw [resolve_eq_target, Option.isSome_map]
    cases leads : target pages link with
    | none =>
      rw [status, leads]
      rfl
    | some dst =>
      rw [status, leads]
      rfl

theorem touches_row (direction : String) (member : hop ∈ hops pages) :
    meets direction key (hop.row pages) = hop.touches direction key := by
  rw [meets, Hop.touches, dst_row member]
  rfl

theorem otherEnd_row (member : hop ∈ hops pages) : otherEnd key (hop.row pages) = (hop.other key).pageKey := by
  rw [otherEnd, Hop.other, dst_row member]
  show (if hop.src.pageKey = key then _ else _) = _
  split_ifs <;> rfl

end Rows

omit [CharData] in
theorem out_known : "out" ∈ ["out", "in", "both"] := List.mem_cons_self

omit [CharData] in
theorem in_known : "in" ∈ ["out", "in", "both"] := List.mem_cons_of_mem _ List.mem_cons_self

omit [CharData] in
theorem touches_out (key : String) : Hop.touches "out" key = fun hop => decide (hop.src.pageKey = key) := by
  funext hop
  simp [Hop.touches]

omit [CharData] in
theorem touches_in (key : String) : Hop.touches "in" key = fun hop => decide (hop.dst.pageKey = key) := by
  funext hop
  simp [Hop.touches]

/-- The anchors of the shown hops that meet a test. -/
theorem anchors_shown (all : List Hop) (key : String) (touches : Hop → Bool) (test : FollowedLink → Bool) :
    ((((all.filter touches).map (Hop.shown key)).filter test).map FollowedLink.anchorText) =
      (all.filter fun hop => touches hop && test (hop.shown key)).map fun hop => hop.link.anchor := by
  rw [List.filter_map, List.map_map, List.filter_filter]
  congr 1
  apply List.filter_congr
  intro hop _
  exact Bool.and_comm _ _

omit [CharData] in
theorem take_short {items : List FollowedLink} (short : (items.take (max 1 (min 200 200))).length < 200) :
    items.take (max 1 (min 200 200)) = items := by
  rw [List.length_take] at short
  apply List.take_of_length_le
  omega

end Hops

/-! What the tables hold after a compile. -/

section Compiled
variable [CharData] [FloatData] [DateData] {service : WikiService} {tree : WikiTree} {now : Int} {db after : WikiDb}
  {report : CompileReport}

theorem resolved_links : ((compiled service tree now db).links.filter fun link => link.status = "resolved") =
    (hops (indexedPages service tree)).map (Hop.row (indexedPages service tree)) := by
  rw [compiled_links, List.filter_flatMap, hops, List.map_flatMap]
  apply List.flatMap_congr
  intro page _
  exact resolved_linkImage _ page

/-- The row of an indexed page is its image, also where other files do not parse. -/
theorem find?_compiled {page : ParsedWikiPage} (member : page ∈ indexedPages service tree) :
    (compiled service tree now db).pages.find? page.pageKey = some (pageImage page) := by
  rw [Keyed.find?_eq_some_iff]
  refine ⟨?_, rfl⟩
  have settles : ∀ (item : ParsedWikiPage) (row : WikiPage), row.pageKey = (newPage item).pageKey →
      (pageChange item).apply row = pageImage item := fun item row same => refresh_eq_pageImage same
  rw [compiled, compilePages_pages, Keyed.mem_upsertAll settles (scanFiles_distinct _)]
  exact .inr ⟨page, member, rfl⟩

/-- The rows that touch a key are those of the hops that do. -/
theorem touching_links (direction key : String) :
    ((compiled service tree now db).links.filter fun link => meets direction key link && link.status = "resolved") =
      ((hops (indexedPages service tree)).filter (Hop.touches direction key)).map
        (Hop.row (indexedPages service tree)) := by
  calc ((compiled service tree now db).links.filter fun link => meets direction key link && link.status = "resolved")
      = ((compiled service tree now db).links.filter fun link => link.status = "resolved").filter
          (meets direction key) := by rw [List.filter_filter]
    _ = ((hops (indexedPages service tree)).filter (meets direction key ∘ Hop.row (indexedPages service tree))).map
          (Hop.row (indexedPages service tree)) := by rw [resolved_links, List.filter_map]
    _ = _ := by
        congr 1
        apply List.filter_congr
        intro hop member
        exact touches_row direction member

omit [CharData] [FloatData] [DateData] in
/-- A page that is looked up among those at the ends of the links is looked up among all. -/
theorem followed_restricted (key : String) (db : WikiDb) {links : List WikiLink} {link : WikiLink}
    (member : link ∈ links) :
    followed key (db.pages.rows.filter fun page => page.pageKey ∈ links.map (otherEnd key)) link =
      followed key db.pages.rows link := by
  have kept : ∀ page : WikiPage, page.pageKey = otherEnd key link → page.pageKey ∈ links.map (otherEnd key) := by
    intro page same
    rw [same]
    exact List.mem_map_of_mem member
  have found : (db.pages.rows.filter fun page => page.pageKey ∈ links.map (otherEnd key)).find?
      (fun page => page.pageKey = otherEnd key link) =
        db.pages.rows.find? fun page => page.pageKey = otherEnd key link := by
    rw [List.find?_filter]
    congr 1
    funext page
    by_cases same : page.pageKey = otherEnd key link
    · have inside := kept page same
      simp [inside]
    · simp [same]
  rw [followed, followed, found]

theorem followed_row (key : String) {hop : Hop} (member : hop ∈ hops (indexedPages service tree)) :
    followed key (compiled service tree now db).pages.rows (hop.row (indexedPages service tree)) = hop.shown key := by
  have there : hop.other key ∈ indexedPages service tree := by
    rw [Hop.other]
    split_ifs
    · exact dst_of_mem_hops member
    · exact (mem_hops_iff.1 member).1
  have found : (compiled service tree now db).pages.rows.find? (fun page =>
      page.pageKey = otherEnd key (hop.row (indexedPages service tree))) = some (pageImage (hop.other key)) := by
    rw [otherEnd_row member]
    exact find?_compiled there
  rw [followed, found, dst_row member]
  rfl

/-- After a compile `follow_links` lists hops of the files, each with the page that it leads to, in some order and up to
the limit: those that leave the page, those that reach it, or both. -/
theorem followLinks_compiled (service : WikiService) (tree : WikiTree) (now : Int) (db : WikiDb) (newest : Newest)
    (pageKey : String) {direction : String} (known : direction ∈ ["out", "in", "both"]) (limit : Nat) :
    ∃ listed : List FollowedLink, listed.Perm (((hops (indexedPages service tree)).filter
        (Hop.touches direction (normalizePageKey pageKey))).map (Hop.shown (normalizePageKey pageKey))) ∧
      followLinks newest (compiled service tree now db) pageKey direction limit =
        .ok (listed.take (max 1 (min limit 200))) := by
  have rows := newest.arrange_perm ((compiled service tree now db).links.filter fun link =>
    meets direction (normalizePageKey pageKey) link && link.status = "resolved")
  refine ⟨(newest.arrange ((compiled service tree now db).links.filter fun link =>
    meets direction (normalizePageKey pageKey) link && link.status = "resolved")).map
      (followed (normalizePageKey pageKey) (compiled service tree now db).pages.rows), ?_, ?_⟩
  · apply (rows.map _).trans
    rw [touching_links, List.map_map]
    apply List.Perm.of_eq
    apply List.map_congr_left
    intro hop member
    exact followed_row _ (List.mem_filter.1 member).1
  · rw [followLinks]
    simp only [if_neg (not_not.2 known)]
    congr 1
    rw [← List.map_take]
    apply List.map_congr_left
    intro link member
    exact followed_restricted _ _ member

theorem normal_key {page : ParsedWikiPage} (member : page ∈ indexedPages service tree) :
    normalizePageKey page.pageKey = page.pageKey := by
  obtain ⟨file, _, parsed⟩ := parsed_of_mem_scanFiles member
  obtain ⟨raw, metadata, body, confidence, _, _, rfl⟩ := parseMarkdownPage_ok parsed
  exact Keys.normalizePageKey_normalizePageKey _

/-- After every compile, whatever the tables held before, an indexed page is read with what its file says; its outlinks
are the hops of the files that leave it and its backlinks those that reach it, each with the page at the other end, up to
fifty of either. -/
theorem readWithGraph_of_files (service : WikiService) (tree : WikiTree) (now : Int) (db after : WikiDb)
    (report : CompileReport) (returned : compile service tree now db = .ok (report, after)) (newest : Newest)
    (page : ParsedWikiPage) (member : page ∈ indexedPages service tree) (pageKey : String)
    (named : normalizePageKey pageKey = page.pageKey) :
    ∃ outlinks backlinks : List FollowedLink,
      outlinks.Perm (((hops (indexedPages service tree)).filter fun hop => hop.src.pageKey = page.pageKey).map
        (Hop.shown page.pageKey)) ∧
      backlinks.Perm (((hops (indexedPages service tree)).filter fun hop => hop.dst.pageKey = page.pageKey).map
        (Hop.shown page.pageKey)) ∧
      readWithGraph newest after pageKey = .ok (some ⟨pageImage page, outlinks.take 50, backlinks.take 50⟩) := by
  obtain ⟨_, rfl⟩ := compile_ok returned
  obtain ⟨outlinks, leaving, followedOut⟩ :=
    followLinks_compiled service tree now db newest page.pageKey out_known 50
  obtain ⟨backlinks, reaching, followedIn⟩ :=
    followLinks_compiled service tree now db newest page.pageKey in_known 50
  rw [normal_key member, touches_out] at leaving
  rw [normal_key member, touches_in] at reaching
  refine ⟨outlinks, backlinks, leaving, reaching, ?_⟩
  have found : read (compiled service tree now db) pageKey = some (pageImage page) := by
    rw [read, named]
    exact find?_compiled member
  have key : (pageImage page).pageKey = page.pageKey := rfl
  rw [readWithGraph, found]
  simp only [key, followedOut, followedIn]
  rfl

/-- As long as no list is cut, a page tells of each link to another one what that one tells of it as a backlink. -/
theorem backlinks_mirror_outlinks (service : WikiService) (tree : WikiTree) (now : Int) (db after : WikiDb)
    (report : CompileReport) (returned : compile service tree now db = .ok (report, after)) (newest : Newest)
    (first second : String) (outlinks backlinks : List FollowedLink)
    (out : followLinks newest after first "out" 200 = .ok outlinks) (few : outlinks.length < 200)
    (into : followLinks newest after second "in" 200 = .ok backlinks) (rare : backlinks.length < 200) :
    ((outlinks.filter fun item => item.dstPageKey = normalizePageKey second).map FollowedLink.anchorText).Perm
      ((backlinks.filter fun item => item.srcPageKey = normalizePageKey first).map FollowedLink.anchorText) := by
  obtain ⟨_, rfl⟩ := compile_ok returned
  obtain ⟨leaving, left, followedOut⟩ := followLinks_compiled service tree now db newest first out_known 200
  obtain ⟨reaching, reached, followedIn⟩ := followLinks_compiled service tree now db newest second in_known 200
  have same := Except.ok.inj (followedOut.symm.trans out)
  have other := Except.ok.inj (followedIn.symm.trans into)
  rw [← same] at few
  rw [← other] at rare
  rw [← same, ← other, take_short few, take_short rare]
  rw [touches_out] at left
  rw [touches_in] at reached
  have told := (left.filter fun item => item.dstPageKey = normalizePageKey second).map FollowedLink.anchorText
  have heard := (reached.filter fun item => item.srcPageKey = normalizePageKey first).map FollowedLink.anchorText
  rw [anchors_shown] at told heard
  have between : ((hops (indexedPages service tree)).filter fun hop => decide (hop.src.pageKey = normalizePageKey first) &&
        decide ((hop.shown (normalizePageKey first)).dstPageKey = normalizePageKey second)) =
      (hops (indexedPages service tree)).filter fun hop => decide (hop.dst.pageKey = normalizePageKey second) &&
        decide ((hop.shown (normalizePageKey second)).srcPageKey = normalizePageKey first) := by
    apply List.filter_congr
    intro hop _
    exact Bool.and_comm _ _
  rw [between] at told
  exact told.trans heard.symm

end Compiled

section Demo
attribute [local instance] CharData.ascii FloatData.decimal DateData.undated

/-- Rows in the order in which they were added. -/
def Newest.plain : Newest := ⟨fun rows => rows, fun rows => List.Perm.refl rows⟩

/-- Two pages, the first of which links to the second one. -/
def linkedPages : WikiTree := twoPages "# A\n\n[[b]]" "# B"

theorem linked_returned : compile plainService linkedPages 0 noRows =
    .ok (compileReport plainService linkedPages, compiled plainService linkedPages 0 noRows) :=
  if_pos (by decide +kernel)

theorem linked_page_read : ∃ page ∈ indexedPages plainService linkedPages, ∃ outlinks backlinks : List FollowedLink,
    outlinks.Perm (((hops (indexedPages plainService linkedPages)).filter fun hop =>
      hop.src.pageKey = page.pageKey).map (Hop.shown page.pageKey)) ∧
    backlinks.Perm (((hops (indexedPages plainService linkedPages)).filter fun hop =>
      hop.dst.pageKey = page.pageKey).map (Hop.shown page.pageKey)) ∧
    readWithGraph Newest.plain (compiled plainService linkedPages 0 noRows) page.pageKey =
      .ok (some ⟨pageImage page, outlinks.take 50, backlinks.take 50⟩) := by
  have pages : 0 < (indexedPages plainService linkedPages).length := by decide +kernel
  obtain ⟨page, member⟩ := List.exists_mem_of_length_pos pages
  exact ⟨page, member, readWithGraph_of_files _ _ _ _ _ _ linked_returned Newest.plain page member page.pageKey
    (normal_key member)⟩

theorem linked_pages_mirrored : ∃ outlinks backlinks : List FollowedLink,
    followLinks Newest.plain (compiled plainService linkedPages 0 noRows) "a" "out" 200 = .ok outlinks ∧
    followLinks Newest.plain (compiled plainService linkedPages 0 noRows) "b" "in" 200 = .ok backlinks ∧
    ((outlinks.filter fun item => item.dstPageKey = normalizePageKey "b").map FollowedLink.anchorText).Perm
      ((backlinks.filter fun item => item.srcPageKey = normalizePageKey "a").map FollowedLink.anchorText) := by
  have few : (hops (indexedPages plainService linkedPages)).length < 200 := by decide +kernel
  obtain ⟨leaving, left, out⟩ := followLinks_compiled plainService linkedPages 0 noRows Newest.plain "a" out_known 200
  obtain ⟨reaching, reached, into⟩ := followLinks_compiled plainService linkedPages 0 noRows Newest.plain "b" in_known 200
  have short : ∀ (items : List FollowedLink) (direction key : String),
      items.Perm (((hops (indexedPages plainService linkedPages)).filter (Hop.touches direction key)).map
        (Hop.shown key)) → (items.take (max 1 (min 200 200))).length < 200 := by
    intro items direction key same
    have total := same.length_eq
    have kept := List.length_filter_le (Hop.touches direction key) (hops (indexedPages plainService linkedPages))
    rw [List.length_map] at total
    rw [List.length_take]
    omega
  exact ⟨_, _, out, into, backlinks_mirror_outlinks _ _ _ _ _ _ linked_returned Newest.plain "a" "b" _ _ out
    (short _ _ _ left) into (short _ _ _ reached)⟩

end Demo

end SoulClaw.Wiki.Navigation
