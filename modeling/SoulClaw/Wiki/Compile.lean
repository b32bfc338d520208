import SoulClaw.Foundation.Declarations
import SoulClaw.Foundation.Keyed
import SoulClaw.Foundation.Table
import SoulClaw.Wiki.Markdown
import Mathlib.Data.List.Sort

/-! `WikiService.compile`: the files of the wiki become rows of pages, sources and links, and the
problems become entries of the Error Book. -/

namespace SoulClaw.Wiki.Compile
open Foundation Markdown

/-! The files under the root. -/

structure WikiTree where
  files : List WikiFile
  distinct : (files.map WikiFile.path).Nodup
  /-- `(root / path).exists()`. -/
  present : String → Bool

/-- `rglob("*.md")` lists the file. -/
def isMarkdown (file : WikiFile) : Bool := ".md".toList.isSuffixOf file.name

/-- Some part of the path starts with a dot. -/
def isHidden (file : WikiFile) : Bool := file.parts.any fun part => part.head? = some '.'

namespace WikiTree

/-- `_markdown_paths`. -/
def markdownPaths (tree : WikiTree) : List WikiFile :=
  ((tree.files.filter isMarkdown).insertionSort fun first second => first.parts ≤ second.parts).filter
    fun file => !isHidden file

/-- `_read_optional_file`. -/
def readOptionalFile (tree : WikiTree) (path : String) : Except PyException String :=
  match tree.files.find? fun file => file.path = path with
  | some file => if tree.present path && file.isFile then file.text else .ok ""
  | none => .ok ""

theorem markdownPaths_distinct (tree : WikiTree) : (tree.markdownPaths.map WikiFile.path).Nodup := by
  have sorted := List.perm_insertionSort (fun first second : WikiFile => first.parts ≤ second.parts)
    (tree.files.filter isMarkdown)
  have listed : ((tree.files.filter isMarkdown).map WikiFile.path).Nodup :=
    tree.distinct.sublist (List.filter_sublist.map _)
  have ordered := (sorted.map WikiFile.path).nodup_iff.2 listed
  exact ordered.sublist (List.filter_sublist.map _)

end WikiTree

/-! The rows. -/

structure WikiSource where
  sourceKey : String
  kind : String := "markdown"
  uri : String := ""
  checksum : String := ""
  metadata : Dict := []
  deriving DecidableEq, Repr

structure WikiPage where
  pageKey : String
  title : String
  pageType : String := "note"
  path : String
  summary : String := ""
  body : String := ""
  aliases : List String := []
  tags : List String := []
  confidence : PyFloat := .finite (1 / 2)
  claims : List Mapping := []
  sourceRefs : List Mapping := []
  staleAfter : Option DateTime := none
  checksum : String := ""
  metadata : Mapping := []

structure WikiLink where
  srcPageKey : String
  dstPageKey : String
  linkType : String := "wikilink"
  status : String := "unresolved"
  anchorText : String := ""
  metadata : Dict := []
  deriving DecidableEq, Repr

def WikiLink.rawTarget (link : WikiLink) : Json := Dict.get link.metadata "raw_target"

structure WikiErrorBook where
  errorType : String
  pageKey : String := ""
  rootCause : String := ""
  constraint : String := ""
  constraintRule : Json := .str ""
  verificationMethod : Json := .str ""
  sourceRefs : List Json := []
  lifecycleStatus : String := "open"
  status : String := "open"
  payload : Dict := []
  fixedAt : Option Int := none
  deriving DecidableEq, Repr

structure WikiDb where
  pages : Keyed WikiPage.pageKey
  sources : Keyed WikiSource.sourceKey
  links : List WikiLink
  errors : Table WikiErrorBook

/-! The Error Book. -/

/-- `_error`. -/
def error (errorType pageKey rootCause constraint : String) (payload : Dict) : WikiErrorBook where
  errorType
  pageKey
  rootCause
  constraint
  constraintRule := (payload.get "constraint_rule").or (.str constraint)
  verificationMethod := (payload.get "verification_method").or
    (.str "Run wiki lint/compile and answer the associated retrieval probe.")
  sourceRefs := (payload.get "source_refs").list
  payload

/-- The entries are open and of the given types. -/
def Emits (types : List String) (entries : List WikiErrorBook) : Prop :=
  ∀ entry ∈ entries, entry.errorType ∈ types ∧ entry.status = "open"

namespace Emits
variable {types : List String} {first second : List WikiErrorBook}

theorem nil : Emits types [] := fun _ member => absurd member List.not_mem_nil

theorem append (left : Emits types first) (right : Emits types second) : Emits types (first ++ second) :=
  fun entry member => (List.mem_append.1 member).elim (left entry) (right entry)

theorem map {Item : Type*} {entry : Item → WikiErrorBook} (items : List Item)
    (emits : ∀ item, (entry item).errorType ∈ types ∧ (entry item).status = "open") :
    Emits types (items.map entry) := by
  intro made member
  obtain ⟨item, _, rfl⟩ := List.mem_map.1 member
  exact emits item

theorem flatMap {Item : Type*} {entries : Item → List WikiErrorBook} (items : List Item)
    (emits : ∀ item, Emits types (entries item)) : Emits types (items.flatMap entries) := by
  intro made member
  obtain ⟨item, _, made⟩ := List.mem_flatMap.1 member
  exact emits item _ made

theorem mono {more : List String} (emits : Emits types first) (within : types ⊆ more) : Emits more first :=
  fun entry member => ⟨within (emits entry member).1, (emits entry member).2⟩

/-- No entry is of a type that is not given. -/
theorem filter_eq_nil {errorType : String} (emits : Emits types first) (other : errorType ∉ types) :
    first.filter (fun entry => entry.errorType = errorType) = [] := by
  rw [List.filter_eq_nil_iff]
  intro entry member same
  exact other (of_decide_eq_true same ▸ (emits entry member).1)

end Emits

/-- The entries of a pass that are still open when it starts again are fixed at once. -/
def WikiErrorBook.close (types : List String) (now : Int) (entry : WikiErrorBook) : WikiErrorBook :=
  if entry.errorType ∈ types ∧ entry.status = "open" then
    { entry with status := "fixed", lifecycleStatus := "fixed", fixedAt := some now }
  else entry

def closeErrors (types : List String) (now : Int) (book : Table WikiErrorBook) : Table WikiErrorBook :=
  ⟨book.rows.map (WikiErrorBook.close types now)⟩

def addErrors (book : Table WikiErrorBook) (entries : List WikiErrorBook) : Table WikiErrorBook :=
  entries.foldl Table.insert book

@[simp] theorem rows_addErrors (book : Table WikiErrorBook) (entries : List WikiErrorBook) :
    (addErrors book entries).rows = book.rows ++ entries := by
  induction entries generalizing book with
  | nil => exact (List.append_nil _).symm
  | cons entry rest ih =>
    rw [addErrors, List.foldl_cons]
    exact (ih (book.insert entry)).trans (List.append_assoc ..)

def compileTypes : List String := ["dangling_link", "compile_error", "duplicate_page_key"]

/-! The pages that parse. -/

/-- What the loop over the paths has collected; the keys that it has seen are those of its pages. -/
structure Scanned where
  pages : List ParsedWikiPage := []
  errors : List Dict := []
  newErrors : List WikiErrorBook := []

def Scanned.keys (scanned : Scanned) : List String := scanned.pages.map ParsedWikiPage.pageKey

section Names
variable [CharData]

/-- The names that a page declares beside its key, in the order in which they are entered. -/
def otherNames (page : ParsedWikiPage) : List String :=
  page.aliases.map normalizePageKey ++ [normalizePageKey page.title]

/-- The entries of one page in the dictionary `known`. -/
def declareNames (known : String → Option String) (page : ParsedWikiPage) : String → Option String :=
  let known := Function.update known page.pageKey (some page.pageKey)
  (otherNames page).foldl (fun known name => Function.update known name (some page.pageKey)) known

/-- `known`: a later entry overrides an earlier one under the same name. -/
def knownNames (pages : List ParsedWikiPage) : String → Option String :=
  pages.foldl declareNames fun _ => none

def names (page : ParsedWikiPage) : List String := page.pageKey :: otherNames page

theorem knownNames_eq (pages : List ParsedWikiPage) :
    knownNames pages = Declarations.table names ParsedWikiPage.pageKey pages := rfl

/-- The page that a name stands for: the last one that has it as key, alias or title. -/
def owner (pages : List ParsedWikiPage) (name : String) : Option ParsedWikiPage :=
  Declarations.owner names pages name

theorem knownNames_apply (pages : List ParsedWikiPage) (name : String) :
    knownNames pages name = (owner pages name).map ParsedWikiPage.pageKey := by
  rw [knownNames_eq, Declarations.table_apply, owner]

end Names

/-! The rows of a page. -/

def WikiSource.refresh (page : ParsedWikiPage) (source : WikiSource) : WikiSource :=
  { source with
    kind := "markdown"
    uri := page.absolutePath
    checksum := page.checksum
    metadata := [("page_key", .str page.pageKey)] }

def WikiPage.refresh (page : ParsedWikiPage) (record : WikiPage) : WikiPage :=
  { record with
    title := page.title
    pageType := page.pageType
    path := page.relativePath
    summary := page.summary
    body := page.body
    aliases := page.aliases
    tags := page.tags
    confidence := page.confidence
    claims := page.claims
    sourceRefs := page.sourceRefs
    staleAfter := page.staleAfter
    checksum := page.checksum
    metadata := page.metadata }

def newSource (page : ParsedWikiPage) : WikiSource := { sourceKey := page.relativePath }

def newPage (page : ParsedWikiPage) : WikiPage :=
  { pageKey := page.pageKey, path := page.relativePath, title := page.title }

def sourceChange (page : ParsedWikiPage) : KeptChange WikiSource.sourceKey :=
  ⟨WikiSource.refresh page, fun _ => rfl⟩

def pageChange (page : ParsedWikiPage) : KeptChange WikiPage.pageKey := ⟨WikiPage.refresh page, fun _ => rfl⟩

/-- `resolved or target`: the empty key of a page does not count. -/
def resolve (known : String → Option String) (target : String) : Option String :=
  (known target).filter fun key => key ≠ ""

theorem resolve_eq_some {known : String → Option String} {target key : String} :
    resolve known target = some key ↔ known target = some key ∧ key ≠ "" := by
  rw [resolve, Option.filter_eq_some_iff, decide_eq_true_eq]

def wikiLink (known : String → Option String) (page : ParsedWikiPage) (link : String × String) : WikiLink where
  srcPageKey := page.pageKey
  dstPageKey := (resolve known link.1).getD link.1
  linkType := "wikilink"
  status := if (resolve known link.1).isSome then "resolved" else "unresolved"
  anchorText := link.2
  metadata := [("raw_target", .str link.1)]

@[simp] theorem rawTarget_wikiLink (known : String → Option String) (page : ParsedWikiPage)
    (link : String × String) : (wikiLink known page link).rawTarget = .str link.1 := by
  rw [WikiLink.rawTarget, wikiLink, Dict.get_cons, if_pos rfl]

def danglingError (page : ParsedWikiPage) (link : String × String) : WikiErrorBook :=
  error "dangling_link" page.pageKey ("Unresolved wiki link: " ++ link.1)
    "Create the target page or add an alias/page_key matching the link."
    [("target", .str link.1), ("anchor", .str link.2)]

def danglingErrors (known : String → Option String) (page : ParsedWikiPage) : List WikiErrorBook :=
  (page.links.filter fun link => (resolve known link.1).isNone).map (danglingError page)

/-- The body of the loop over the parsed pages. -/
def compilePage (known : String → Option String) (db : WikiDb) (page : ParsedWikiPage) : WikiDb where
  sources := db.sources.upsert (newSource page) (sourceChange page)
  pages := db.pages.upsert (newPage page) (pageChange page)
  links := db.links ++ page.links.map (wikiLink known page)
  errors := addErrors db.errors (danglingErrors known page)

section Loop
variable (known : String → Option String) (db : WikiDb) (pages : List ParsedWikiPage)

theorem compilePages_pages : (pages.foldl (compilePage known) db).pages =
    db.pages.upsertAll newPage pageChange pages := by
  induction pages generalizing db with
  | nil => rfl
  | cons page rest ih => rw [List.foldl_cons, ih, Keyed.upsertAll_cons, compilePage]

theorem compilePages_sources : (pages.foldl (compilePage known) db).sources =
    db.sources.upsertAll newSource sourceChange pages := by
  induction pages generalizing db with
  | nil => rfl
  | cons page rest ih => rw [List.foldl_cons, ih, Keyed.upsertAll_cons, compilePage]

theorem compilePages_links : (pages.foldl (compilePage known) db).links =
    db.links ++ pages.flatMap fun page => page.links.map (wikiLink known page) := by
  induction pages generalizing db with
  | nil => simp
  | cons page rest ih => rw [List.foldl_cons, ih, compilePage, List.flatMap_cons, List.append_assoc]

theorem compilePages_errors : (pages.foldl (compilePage known) db).errors =
    addErrors db.errors (pages.flatMap (danglingErrors known)) := by
  induction pages generalizing db with
  | nil => rfl
  | cons page rest ih =>
    rw [List.foldl_cons, ih, compilePage, List.flatMap_cons, addErrors, addErrors, addErrors, List.foldl_append]

end Loop

structure CompileReport where
  status : String
  pagesSeen : Nat
  pagesIndexed : Nat
  errors : Nat
  deriving DecidableEq, Repr

section Compile
variable [CharData] [FloatData] [DateData] (service : WikiService)

def parseError (file : WikiFile) (raised : PyException) : WikiErrorBook :=
  error "compile_error" file.path raised.str
    "Fix Markdown frontmatter/body so the compiler can parse this source." [("path", .str file.path)]

def duplicateError (file : WikiFile) (page : ParsedWikiPage) : WikiErrorBook :=
  error "duplicate_page_key" page.pageKey ("Duplicate page_key declared by " ++ file.path)
    "Give each Markdown Wiki page a unique page_key." [("path", .str file.path)]

/-- The body of the loop over the paths. -/
def scanFile (scanned : Scanned) (file : WikiFile) : Scanned :=
  match service.parseMarkdownPage file with
  | .error raised =>
      { scanned with
        errors := scanned.errors ++ [[("type", .str "parse_error"), ("path", .str file.path),
          ("message", .str raised.str)]]
        newErrors := scanned.newErrors ++ [parseError file raised] }
  | .ok page =>
      if page.pageKey ∈ scanned.keys then
        { scanned with
          errors := scanned.errors ++ [[("type", .str "duplicate_page_key"), ("path", .str file.path),
            ("page_key", .str page.pageKey)]]
          newErrors := scanned.newErrors ++ [duplicateError file page] }
      else { scanned with pages := scanned.pages ++ [page] }

def scanFiles (files : List WikiFile) : Scanned := files.foldl (scanFile service) {}

/-- A file adds a page with a new key, or an error. -/
theorem scanFile_cases (scanned : Scanned) (file : WikiFile) :
    (∃ page, service.parseMarkdownPage file = .ok page ∧ page.pageKey ∉ scanned.keys ∧
      scanFile service scanned file = { scanned with pages := scanned.pages ++ [page] }) ∨
    ∃ found entry, entry.errorType ∈ compileTypes ∧ entry.status = "open" ∧
      scanFile service scanned file = { scanned with
        errors := scanned.errors ++ [found]
        newErrors := scanned.newErrors ++ [entry] } := by
  rw [scanFile]
  split
  next raised _ => exact .inr ⟨_, parseError file raised, by simp [parseError, error, compileTypes], rfl, rfl⟩
  next page parsed =>
    by_cases seen : page.pageKey ∈ scanned.keys
    · rw [if_pos seen]
      exact .inr ⟨_, duplicateError file page, by simp [duplicateError, error, compileTypes], rfl, rfl⟩
    · rw [if_neg seen]
      exact .inl ⟨page, parsed, seen, rfl⟩

variable {service}

/-- What every file preserves holds of what the loop collects. -/
theorem scanFiles_invariant (files : List WikiFile) (invariant : Scanned → Prop) (start : invariant {})
    (preserved : ∀ scanned, invariant scanned → ∀ file ∈ files, invariant (scanFile service scanned file)) :
    invariant (scanFiles service files) :=
  List.foldlRecOn files _ start preserved

theorem scanFiles_distinct (files : List WikiFile) : (scanFiles service files).keys.Nodup := by
  apply scanFiles_invariant files fun scanned => scanned.keys.Nodup
  · exact List.nodup_nil
  · intro scanned distinct file _
    rcases scanFile_cases service scanned file with ⟨page, _, fresh, next⟩ | ⟨found, entry, _, _, next⟩
    · rw [next]
      show ((scanned.pages ++ [page]).map ParsedWikiPage.pageKey).Nodup
      rw [List.map_append, List.map_singleton]
      exact List.nodup_append.2 ⟨distinct, List.nodup_singleton _, fun key known other added same =>
        fresh (List.mem_singleton.1 added ▸ same ▸ known)⟩
    · rw [next]
      exact distinct

theorem parsed_of_mem_scanFiles {files : List WikiFile} {page : ParsedWikiPage}
    (member : page ∈ (scanFiles service files).pages) :
    ∃ file ∈ files, service.parseMarkdownPage file = .ok page := by
  revert page
  apply scanFiles_invariant files fun scanned => ∀ {page}, page ∈ scanned.pages →
    ∃ file ∈ files, service.parseMarkdownPage file = .ok page
  · intro page member
    cases member
  · intro scanned known file listed page member
    rcases scanFile_cases service scanned file with ⟨added, parsed, _, next⟩ | ⟨found, entry, _, _, next⟩
    · rw [next] at member
      rcases List.mem_append.1 member with old | new
      · exact known old
      · rw [List.mem_singleton.1 new]
        exact ⟨file, listed, parsed⟩
    · rw [next] at member
      exact known member

/-- The entries that the loop over the paths makes are of the types of the pass. -/
theorem newErrors_emits (files : List WikiFile) : Emits compileTypes (scanFiles service files).newErrors := by
  apply scanFiles_invariant files fun scanned => Emits compileTypes scanned.newErrors
  · exact Emits.nil
  · intro scanned known file _
    rcases scanFile_cases service scanned file with ⟨page, _, _, next⟩ | ⟨found, added, owned, opened, next⟩
    · rw [next]
      exact known
    · rw [next]
      apply known.append
      intro entry member
      rw [List.mem_singleton.1 member]
      exact ⟨owned, opened⟩

/-- The page of each of the files, in their order. -/
abbrev Parses (service : WikiService) : List WikiFile → List ParsedWikiPage → Prop :=
  List.Forall₂ fun file page => service.parseMarkdownPage file = .ok page

/-- Without an error each file has added its page. -/
theorem parses_of_foldl {files : List WikiFile} {scanned : Scanned}
    (clean : (files.foldl (scanFile service) scanned).errors = []) :
    scanned.errors = [] ∧ ∃ pages, Parses service files pages ∧
      (files.foldl (scanFile service) scanned).pages = scanned.pages ++ pages := by
  induction files generalizing scanned with
  | nil => exact ⟨clean, [], .nil, (List.append_nil _).symm⟩
  | cons file rest ih =>
    rw [List.foldl_cons] at clean
    obtain ⟨before, pages, parses, collected⟩ := ih clean
    rcases scanFile_cases service scanned file with ⟨page, parsed, _, next⟩ | ⟨found, entry, _, _, next⟩
    · rw [next] at before
      refine ⟨before, page :: pages, .cons parsed parses, ?_⟩
      rw [List.foldl_cons, collected, next, List.append_assoc, List.singleton_append]
    · rw [next] at before
      exact absurd before (by simp)

theorem parses_of_clean {files : List WikiFile} (clean : (scanFiles service files).errors = []) :
    Parses service files (scanFiles service files).pages := by
  obtain ⟨_, pages, parses, collected⟩ := parses_of_foldl clean
  rw [scanFiles, collected]
  exact parses

/-- Pages that parse under distinct keys are collected without an error. -/
theorem foldl_of_parses {files : List WikiFile} {pages : List ParsedWikiPage} (parses : Parses service files pages)
    (scanned : Scanned) (distinct : ((scanned.pages ++ pages).map ParsedWikiPage.pageKey).Nodup) :
    files.foldl (scanFile service) scanned = { scanned with pages := scanned.pages ++ pages } := by
  induction parses generalizing scanned with
  | nil => rw [List.append_nil, List.foldl_nil]
  | @cons file page files pages parsed _ ih =>
    have fresh : page.pageKey ∉ scanned.keys := by
      intro known
      rw [List.map_append, List.nodup_append] at distinct
      exact distinct.2.2 _ known _ List.mem_cons_self rfl
    have next : scanFile service scanned file = { scanned with pages := scanned.pages ++ [page] } := by
      rw [scanFile, parsed]
      exact if_neg fresh
    rw [List.foldl_cons, next, ih _ (by simpa using distinct), List.append_assoc, List.singleton_append]

theorem scanFiles_of_parses {files : List WikiFile} {pages : List ParsedWikiPage} (parses : Parses service files pages)
    (distinct : (pages.map ParsedWikiPage.pageKey).Nodup) : scanFiles service files = { pages } := by
  have collected := foldl_of_parses parses {} distinct
  rw [List.nil_append] at collected
  exact collected

variable (service)

/-- The rows before the loop over the parsed pages. -/
def cleared (scanned : Scanned) (paths : List String) (now : Int) (db : WikiDb) : WikiDb where
  pages := if scanned.errors = [] then db.pages.restrict scanned.keys else db.pages
  sources := if scanned.errors = [] then db.sources.restrict paths else db.sources
  links := []
  errors := addErrors (closeErrors compileTypes now db.errors) scanned.newErrors

/-- The rows after the loop over the parsed pages. -/
def compiled (tree : WikiTree) (now : Int) (db : WikiDb) : WikiDb :=
  let scanned := scanFiles service tree.markdownPaths
  scanned.pages.foldl (compilePage (knownNames scanned.pages))
    (cleared scanned (tree.markdownPaths.map WikiFile.path) now db)

def compileReport (tree : WikiTree) : CompileReport :=
  let scanned := scanFiles service tree.markdownPaths
  { status := if scanned.errors = [] then "ok" else "error"
    pagesSeen := tree.markdownPaths.length
    pagesIndexed := scanned.pages.length
    errors := scanned.errors.length }

/-- `compile`, with the report that it returns. The flush writes the metadata of the pages as JSON. -/
def compile (tree : WikiTree) (now : Int) (db : WikiDb) : Except PyException (CompileReport × WikiDb) :=
  if (scanFiles service tree.markdownPaths).pages.all fun page => Yaml.jsonable (.map page.metadata) then
    .ok (compileReport service tree, compiled service tree now db)
  else .error ⟨.typeError, "Object of type datetime is not JSON serializable"⟩

/-- The pages that a compile indexes. -/
abbrev indexedPages (tree : WikiTree) : List ParsedWikiPage := (scanFiles service tree.markdownPaths).pages

variable {service}

theorem links_compiled {tree : WikiTree} {now : Int} {db : WikiDb} : (compiled service tree now db).links =
    (indexedPages service tree).flatMap fun page =>
      page.links.map (wikiLink (knownNames (indexedPages service tree)) page) := by
  rw [compiled, compilePages_links, cleared, List.nil_append]

theorem compile_ok {tree : WikiTree} {now : Int} {db after : WikiDb} {report : CompileReport}
    (returned : compile service tree now db = .ok (report, after)) :
    report = compileReport service tree ∧ after = compiled service tree now db := by
  rw [compile] at returned
  split at returned
  next =>
    obtain ⟨rfl, rfl⟩ := Prod.mk.inj (Except.ok.inj returned)
    exact ⟨rfl, rfl⟩
  next => cases returned

end Compile

end SoulClaw.Wiki.Compile
