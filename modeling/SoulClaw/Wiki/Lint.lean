import SoulClaw.Wiki.Compile

/-! `WikiService.lint`: the checks of the pages against each other, the index, their sources and
the clock, each with the entry of the Error Book that it makes. -/

namespace SoulClaw.Wiki.Lint
open Foundation Markdown Compile

def canonicalWikiFiles : List String := ["SCHEMA.md", "index.md", "log.md"]

/-- `stale_types`: what the pass closes before it starts again. -/
def lintTypes : List String :=
  ["broken_link", "orphan_page", "missing_index_entry", "low_confidence", "contested_claim",
    "claim_low_confidence", "claim_contradiction", "claim_missing_evidence", "missing_canonical_file",
    "stale_page", "source_drift"]

/-- The float literal `0.35`. -/
def threshold : PyFloat := .finite (3152519739159347 / 9007199254740992)

def pageName (page : ParsedWikiPage) : String :=
  String.ofList ((page.relativePath.toList.splitOn '/').getLastD [])

def isArchived (page : ParsedWikiPage) : Bool := "_archive/".toList.isPrefixOf page.relativePath.toList

/-- `max(0.0, min(1.0, value))`. -/
def clamp (value : PyFloat) : PyFloat := PyFloat.max (.finite 0) (PyFloat.min (.finite 1) value)

/-- `[entry] if test else []`. -/
def entryIf (test : Prop) [Decidable test] (entry : WikiErrorBook) : List WikiErrorBook :=
  if test then [entry] else []

theorem emits_entryIf {types : List String} {test : Prop} [Decidable test] {entry : WikiErrorBook}
    (owned : entry.errorType ∈ types) (opened : entry.status = "open") : Emits types (entryIf test entry) := by
  unfold entryIf
  split
  · intro made member
    rw [List.mem_singleton.1 member]
    exact ⟨owned, opened⟩
  · exact Emits.nil

section Claims
variable [CharData] [FloatData] [DateData]

/-- `_confidence(value)`. -/
def confidence : Yaml → Except PyException PyFloat
  | .null => .ok (clamp (.finite 0))
  | value => (floatOr (.finite 0) value).map clamp

/-- `_confidence(claim.get("confidence", page.confidence))`. -/
def claimConfidence (page : ParsedWikiPage) (claim : Mapping) : Except PyException PyFloat :=
  match claim.lookup "confidence" with
  | some value => confidence value
  | none => .ok (clamp page.confidence)

def claimText (claim : Mapping) : String :=
  Text.strip ((claim.get "text").or ((claim.get "claim").or (.str ""))).toStr

def claimId (index : Nat) (claim : Mapping) : String :=
  ((claim.get "id").or (.str ("claim-" ++ toString (index + 1)))).toStr

/-- `not evidence`; a text in its place counts as a list of one text. -/
def hasEvidence (claim : Mapping) : Bool := ((claim.get "evidence").or (claim.get "source_refs")).truthy

def hasPageSources (page : ParsedWikiPage) : Bool :=
  page.sourceRefs ≠ [] ∨ listify (page.metadata.get "sources") ≠ []

def polarity (claim : Mapping) : String :=
  Text.lower ((claim.get "polarity").or ((claim.get "status").or (.str "asserted"))).toStr

def normalizedClaim (claim : Mapping) : String :=
  String.ofList (subRuns CharData.isSpace ' ' false (Text.lower (claimText claim)).toList)

/-- Two claims of one text of which exactly one holds. -/
def contradicts (claim previous : Mapping) : Bool :=
  (["contested", "false", "negated"].any fun word => polarity claim = word ∨ polarity previous = word) ∧
    polarity claim ≠ polarity previous

/-- The entries of one claim, after the claims in `seen`. -/
def claimErrors (page : ParsedWikiPage) (seen : List (String × Mapping)) (index : Nat) (claim : Mapping)
    (confidence : PyFloat) : List WikiErrorBook :=
  let id := claimId index claim
  let text := claimText claim
  entryIf (PyFloat.lt confidence threshold)
    (error "claim_low_confidence" page.pageKey
      ("Claim `" ++ id ++ "` confidence is low: " ++ FloatData.fixed2 confidence)
      "Verify the claim with explicit evidence or mark it contested."
      [("claim_id", .str id), ("confidence", .float (FloatData.repr confidence)), ("claim", .str text)]) ++
  entryIf (¬hasEvidence claim ∧ ¬hasPageSources page)
    (error "claim_missing_evidence" page.pageKey ("Claim `" ++ id ++ "` has no evidence reference.")
      "Attach source_refs/evidence at the claim or page level." [("claim_id", .str id), ("claim", .str text)]) ++
  entryIf (normalizedClaim claim ≠ "" ∧ (seen.lookup (normalizedClaim claim)).any (contradicts claim))
    (error "claim_contradiction" page.pageKey ("Claim `" ++ id ++ "` contradicts another claim on the same page.")
      "Resolve the contradiction or split contested claims with evidence."
      [("claim_id", .str id), ("claim", .str text)])

def claimTypes : List String := ["claim_low_confidence", "claim_missing_evidence", "claim_contradiction"]

theorem emits_claimErrors (page : ParsedWikiPage) (seen : List (String × Mapping)) (index : Nat) (claim : Mapping)
    (confidence : PyFloat) : Emits claimTypes (claimErrors page seen index claim confidence) := by
  refine ((emits_entryIf ?_ rfl).append (emits_entryIf ?_ rfl)).append (emits_entryIf ?_ rfl) <;>
    simp [error, claimTypes]

/-- The loop of `_claim_quality_errors`; the claim seen last under a text comes first. -/
def claimsErrors (page : ParsedWikiPage) :
    (seen : List (String × Mapping)) → (index : Nat) → List Mapping → Except PyException (List WikiErrorBook)
  | _, _, [] => .ok []
  | seen, index, claim :: rest =>
      match claimConfidence page claim with
      | .error raised => .error raised
      | .ok confidence =>
          let seen' := if normalizedClaim claim = "" then seen else (normalizedClaim claim, claim) :: seen
          (claimsErrors page seen' (index + 1) rest).map (claimErrors page seen index claim confidence ++ ·)

/-- `_claim_quality_errors`. -/
def claimQualityErrors (page : ParsedWikiPage) : Except PyException (List WikiErrorBook) :=
  claimsErrors page [] 0 page.claims

variable {page : ParsedWikiPage} {entries : List WikiErrorBook}

theorem emits_claimsErrors {seen : List (String × Mapping)} {index : Nat} {claims : List Mapping}
    (made : claimsErrors page seen index claims = .ok entries) : Emits claimTypes entries := by
  induction claims generalizing seen index entries with
  | nil =>
    cases made
    exact Emits.nil
  | cons claim rest ih =>
    rw [claimsErrors] at made
    split at made
    next => cases made
    next confidence _ =>
      obtain ⟨later, known, rfl⟩ := map_eq_ok.1 made
      exact (emits_claimErrors page seen index claim confidence).append (ih known)

theorem emits_claimQualityErrors (made : claimQualityErrors page = .ok entries) : Emits claimTypes entries :=
  emits_claimsErrors made

end Claims

section Pages
variable [CharData] [FloatData] [DateData]

def brokenLink (page : ParsedWikiPage) (link : String × String) : WikiErrorBook :=
  error "broken_link" page.pageKey ("Unresolved wiki link: " ++ link.1)
    "Create the target page or fix the wikilink." [("target", .str link.1), ("anchor", .str link.2)]

def missingCanonical (filename : String) : WikiErrorBook :=
  error "missing_canonical_file" filename ("Missing " ++ filename ++ ".")
    "Create the canonical LLM-Wiki control file." [("path", .str filename)]

/-- What the checks of one page read beside the page. -/
structure LintView where
  /-- `known`: the keys of all pages. -/
  keys : List String
  indexed : List String
  linked : List String
  now : Int
  present : String → Bool

variable (view : LintView) (page : ParsedWikiPage)

def brokenLinks : List WikiErrorBook := (page.links.filter fun link => link.1 ∉ view.keys).map (brokenLink page)

/-- The checks between the links and the claims. -/
def recordErrors : List WikiErrorBook :=
  entryIf (page.pageKey ∉ view.indexed ∧ pageName page ∉ canonicalWikiFiles)
    (error "missing_index_entry" page.pageKey "Page is not referenced in index.md."
      "Add this page to index.md with a one-line summary." [("path", .str page.relativePath)]) ++
  entryIf (PyFloat.lt (clamp page.confidence) threshold)
    (error "low_confidence" page.pageKey ("Page confidence is low: " ++ FloatData.fixed2 (clamp page.confidence))
      "Verify sources or mark the claim as contested."
      [("confidence", .float (FloatData.repr (clamp page.confidence)))]) ++
  entryIf ((page.metadata.get "contested").truthy)
    (error "contested_claim" page.pageKey "Page is marked contested."
      "Resolve the contested claim or keep explicit evidence in the page." [("path", .str page.relativePath)]) ++
  match page.staleAfter with
  | none => []
  | some staleAfter =>
      entryIf (staleAfter.orUtc.instant < view.now)
        (error "stale_page" page.pageKey "Page stale_after has passed."
          "Review the page and refresh its evidence or stale_after metadata."
          [("stale_after", .str (DateData.isoformat staleAfter.orUtc)), ("path", .str page.relativePath)])

def sourceDrift (source : String) : WikiErrorBook :=
  error "source_drift" page.pageKey ("Declared source is missing: " ++ source)
    "Restore the raw source or update frontmatter sources." [("source", .str source)]

/-- The checks after the claims. -/
def originErrors : List WikiErrorBook :=
  entryIf (page.pageKey ∉ view.linked ∧ page.pageKey ∉ ["index", "schema", "log"] ∧
      pageName page ∉ canonicalWikiFiles)
    (error "orphan_page" page.pageKey "Page has no inbound wikilinks."
      "Link it from index.md or a relevant entity/concept page." [("path", .str page.relativePath)]) ++
  ((listify (page.metadata.get "sources")).filter fun source =>
    "raw/".toList.isPrefixOf source.toList && !view.present source).map (sourceDrift page)

/-- The body of the loop over the pages. -/
def lintPage : Except PyException (List WikiErrorBook) :=
  if isArchived page then .ok []
  else (claimQualityErrors page).map fun claims =>
    brokenLinks view page ++ (recordErrors view page ++ claims ++ originErrors view page)

def lintPages : List ParsedWikiPage → Except PyException (List WikiErrorBook)
  | [] => .ok []
  | page :: rest =>
      match lintPage view page with
      | .error raised => .error raised
      | .ok entries => (lintPages rest).map (entries ++ ·)

/-- The links of the page that the pass reports. -/
def reportedLinks : List WikiErrorBook := if isArchived page then [] else brokenLinks view page

def recordTypes : List String := ["missing_index_entry", "low_confidence", "contested_claim", "stale_page"]

omit [CharData] in
theorem emits_recordErrors : Emits recordTypes (recordErrors view page) := by
  refine (((emits_entryIf ?_ rfl).append (emits_entryIf ?_ rfl)).append (emits_entryIf ?_ rfl)).append ?_
  · simp [error, recordTypes]
  · simp [error, recordTypes]
  · simp [error, recordTypes]
  · split
    · exact Emits.nil
    · exact emits_entryIf (by simp [error, recordTypes]) rfl

def originTypes : List String := ["orphan_page", "source_drift"]

omit [FloatData] in
theorem emits_originErrors : Emits originTypes (originErrors view page) := by
  apply (emits_entryIf _ rfl).append
  · apply Emits.map
    intro source
    exact ⟨by simp [sourceDrift, error, originTypes], rfl⟩
  · simp [error, originTypes]

omit [CharData] [FloatData] [DateData] in
theorem emits_brokenLinks : Emits ["broken_link"] (brokenLinks view page) := by
  apply Emits.map
  intro link
  exact ⟨List.mem_singleton.2 rfl, rfl⟩

variable {view page} {entries : List WikiErrorBook}

/-- A pass over a page makes entries of its own types, and those of broken links only for links. -/
theorem lintPage_ok (made : lintPage view page = .ok entries) : Emits lintTypes entries ∧
    entries.filter (fun entry => entry.errorType = "broken_link") = reportedLinks view page := by
  rw [lintPage] at made
  rw [reportedLinks]
  split at made
  next archived =>
    obtain rfl := Except.ok.inj made
    exact ⟨Emits.nil, (if_pos archived).symm⟩
  next kept =>
    obtain ⟨claims, known, rfl⟩ := map_eq_ok.1 made
    have broken := emits_brokenLinks view page
    have records := emits_recordErrors view page
    have quality := emits_claimQualityErrors known
    have origins := emits_originErrors view page
    have rest : Emits (recordTypes ++ claimTypes ++ originTypes)
        (recordErrors view page ++ claims ++ originErrors view page) :=
      ((records.mono (by decide)).append (quality.mono (by decide))).append (origins.mono (by decide))
    rw [if_neg kept]
    constructor
    · exact (broken.mono (by decide)).append (rest.mono (by decide))
    · rw [List.filter_append, rest.filter_eq_nil (by decide), List.append_nil, List.filter_eq_self]
      intro entry member
      exact decide_eq_true (List.mem_singleton.1 (broken entry member).1)

theorem lintPages_ok {pages : List ParsedWikiPage} (made : lintPages view pages = .ok entries) :
    Emits lintTypes entries ∧
      entries.filter (fun entry => entry.errorType = "broken_link") = pages.flatMap (reportedLinks view) := by
  induction pages generalizing entries with
  | nil =>
    cases made
    exact ⟨Emits.nil, rfl⟩
  | cons page rest ih =>
    rw [lintPages] at made
    split at made
    next => cases made
    next first known =>
      obtain ⟨later, after, rfl⟩ := map_eq_ok.1 made
      obtain ⟨emits, broken⟩ := lintPage_ok known
      obtain ⟨emitsLater, brokenLater⟩ := ih after
      refine ⟨emits.append emitsLater, ?_⟩
      rw [List.filter_append, broken, brokenLater, List.flatMap_cons]

end Pages

section Lint
variable [CharData] [FloatData] [DateData] (service : WikiService)

/-- The loop of `scan`. -/
def scanPages : List WikiFile → Except PyException (List ParsedWikiPage)
  | [] => .ok []
  | file :: rest =>
      match service.parseMarkdownPage file with
      | .error raised => .error raised
      | .ok page => (scanPages rest).map (page :: ·)

/-- `scan`. -/
def scan (tree : WikiTree) : Except PyException (List ParsedWikiPage) := scanPages service tree.markdownPaths

/-- `_indexed_page_keys`. -/
def indexedPageKeys (tree : WikiTree) : Except PyException (List String) :=
  (tree.readOptionalFile "index.md").map fun text => (wikilinks text).map Wikilink.key

def canonicalMissing (tree : WikiTree) : List String :=
  canonicalWikiFiles.filter fun filename => !tree.present filename

def linkedTargets (pages : List ParsedWikiPage) : List String :=
  (pages.flatMap fun page => page.links.map Prod.fst).filter fun target =>
    target ∈ pages.map ParsedWikiPage.pageKey

def lintView (tree : WikiTree) (now : Int) (pages : List ParsedWikiPage) (indexed : List String) : LintView where
  keys := pages.map ParsedWikiPage.pageKey
  indexed
  linked := linkedTargets pages
  now
  present := tree.present

/-- The entries that a pass over the tree makes. -/
def lintErrors (tree : WikiTree) (now : Int) : Except PyException (List WikiErrorBook) :=
  match scan service tree, indexedPageKeys tree with
  | .error raised, _ => .error raised
  | .ok _, .error raised => .error raised
  | .ok pages, .ok indexed =>
      (lintPages (lintView tree now pages indexed) pages).map
        ((canonicalMissing tree).map missingCanonical ++ ·)

/-- `lint`, with the entries that it reports. -/
def lint (tree : WikiTree) (now : Int) (db : WikiDb) : Except PyException (List WikiErrorBook × WikiDb) :=
  (lintErrors service tree now).map fun entries =>
    (entries, { db with errors := addErrors (closeErrors lintTypes now db.errors) entries })

variable {service} {tree : WikiTree} {now : Int} {entries : List WikiErrorBook}

theorem scanPages_ok {files : List WikiFile} {pages : List ParsedWikiPage} :
    scanPages service files = .ok pages ↔ Parses service files pages := by
  induction files generalizing pages with
  | nil =>
    rw [scanPages, Parses, Except.ok.injEq, List.forall₂_nil_left_iff, eq_comm]
  | cons file rest ih =>
    rw [scanPages, Parses, List.forall₂_cons_left_iff]
    cases parsed : service.parseMarkdownPage file with
    | error raised => simp
    | ok page =>
      show (scanPages service rest).map (page :: ·) = .ok pages ↔ _
      rw [map_eq_ok]
      constructor
      · rintro ⟨later, scanned, rfl⟩
        exact ⟨page, later, rfl, ih.1 scanned, rfl⟩
      · rintro ⟨_, later, same, parses, rfl⟩
        obtain rfl := Except.ok.inj same
        exact ⟨later, ih.2 parses, rfl⟩

omit [CharData] [FloatData] [DateData] in
theorem emits_missing (filenames : List String) : Emits ["missing_canonical_file"] (filenames.map missingCanonical) := by
  apply Emits.map
  intro filename
  exact ⟨List.mem_singleton.2 rfl, rfl⟩

/-- The pass parses every page, makes entries of its own types, and those of broken links for links. -/
theorem lintErrors_ok (made : lintErrors service tree now = .ok entries) :
    Emits lintTypes entries ∧ ∃ pages indexed, Parses service tree.markdownPaths pages ∧
      entries.filter (fun entry => entry.errorType = "broken_link") =
        pages.flatMap (reportedLinks (lintView tree now pages indexed)) := by
  rw [lintErrors] at made
  split at made
  next => cases made
  next => cases made
  next pages indexed scanned _ =>
    obtain ⟨found, known, rfl⟩ := map_eq_ok.1 made
    obtain ⟨emits, broken⟩ := lintPages_ok known
    have missing := emits_missing (canonicalMissing tree)
    refine ⟨(missing.mono (by decide)).append emits, pages, indexed, scanPages_ok.1 scanned, ?_⟩
    rw [List.filter_append, missing.filter_eq_nil (by decide), List.nil_append, broken]

end Lint

end SoulClaw.Wiki.Lint
