import SoulClaw.Foundation.Patterns
import SoulClaw.Foundation.Ranking
import SoulClaw.Wiki.Lint
import Mathlib.Data.Prod.Lex
import Mathlib.Data.String.Basic

/-! The search of the wiki: the candidates, which are cut to a number of pages before they are scored, the score of a
page, and the hits in the order of their scores. The scores are exact numbers, and the hits of the full-text index are
given. -/

namespace SoulClaw.Wiki.Search
open Foundation Patterns Ranking Markdown Compile

def stopwords : List String :=
  ["a", "an", "and", "are", "as", "for", "how", "in", "is", "of", "or", "the", "to", "what", "with"]

/-- An item of `_fts_search`. -/
structure FtsHit where
  pageKey : String
  rank : ℚ
  snippet : String := ""

/-- What the database answers to the queries of a search. -/
structure Queries where
  /-- `_fts_search`. -/
  fts : String → Nat → List FtsHit
  /-- The rows of a query that names no order. -/
  arrange : List WikiPage → List WikiPage
  arrange_perm : ∀ rows, (arrange rows).Perm rows
  /-- The entries of the Error Book, the newest first. Those of one transaction have one time, and come in any order. -/
  newest : Table WikiErrorBook → List Nat
  newest_perm : ∀ book, (newest book).Perm (List.range book.size)

/-- Rows in the order in which they were added, and entries in the opposite one. -/
def Queries.plain (fts : String → Nat → List FtsHit) : Queries where
  fts
  arrange rows := rows
  arrange_perm _ := List.Perm.refl _
  newest book := (List.range book.size).reverse
  newest_perm _ := List.reverse_perm _

/-- `_confidence`, which is a number between 0 and 1. -/
def confidence (value : PyFloat) : ℚ :=
  match Lint.clamp value with
  | .finite value => value
  | _ => 0

/-- `sorted(set(items))`. -/
def sortedSet (items : List String) : List String := items.dedup.insertionSort (· ≤ ·)

/-- `list_pages`. -/
def listPages (db : WikiDb) (limit : Nat) : List WikiPage :=
  (db.pages.rows.insertionSort fun first second => first.pageKey ≤ second.pageKey).take (max 1 (min limit 1000))

/-- The inbound and outbound links that `_link_counts` has for a page. -/
def linkCounts (db : WikiDb) (pageKey : String) : Nat × Nat :=
  let links := db.links.filter fun link => link.status = "resolved"
  (links.countP fun link => link.dstPageKey = pageKey, links.countP fun link => link.srcPageKey = pageKey)

/-! The Error Book. -/

section Book
variable (queries : Queries)

/-- `error_book(status="open", limit=limit)`, with the ids of the entries. -/
def errorBook (book : Table WikiErrorBook) (limit : Nat) : List (Nat × WikiErrorBook) :=
  (((queries.newest book).filterMap fun id => (book.get? id).map fun entry => (id, entry)).filter
    fun item => item.2.status = "open").take (max 1 (min limit 500))

/-- `_constraints_for_pages`. -/
def constraintsForPages [CharData] (book : Table WikiErrorBook) (pageKeys : List String) : List (Nat × WikiErrorBook) :=
  let keys := (pageKeys.filter fun key => Text.strip key ≠ "").map normalizePageKey
  if keys = [] then [] else (errorBook queries book 200).filter fun item => normalizePageKey item.2.pageKey ∈ keys

end Book

section Texts
variable [CharData] [WordData]

/-! The words of a query. -/

/-- A character of a word, a hyphen or a slash. -/
def queryChar (c : Char) : Bool := WordData.isWord c || c = '-' || c = '/'

/-- `[\u4e00-\u9fff]`. -/
def ideograph (c : Char) : Bool := '\u4e00' ≤ c && c ≤ '\u9fff'

/-- The match at the start of a text, which is empty where there is none. -/
def matchWord (text : List Char) : List Char :=
  if text.takeWhile queryChar ≠ [] then text.takeWhile queryChar else text.takeWhile ideograph

/-- `re.findall`, with the characters that the last match still covers. -/
def wordsFrom : (covered : Nat) → List Char → List (List Char)
  | _, [] => []
  | covered + 1, _ :: rest => wordsFrom covered rest
  | 0, c :: rest =>
      if matchWord (c :: rest) = [] then wordsFrom 0 rest
      else matchWord (c :: rest) :: wordsFrom ((matchWord (c :: rest)).length - 1) rest

/-- `_query_tokens`. -/
def queryTokens (value : String) : List String :=
  let tokens := wordsFrom 0 (Text.lower value).toList
  let tokens := tokens.filter fun token =>
    1 < (trim (· ∈ ['-', '_', '/']) token).length ∧ String.ofList token ∉ stopwords
  tokens.map fun token => String.ofList (trim (· ∈ ['-', '_', '/']) token)

/-- `_field_contains`. -/
def fieldContains (field query : String) (tokens : List String) : Bool :=
  (query ≠ "" && Text.contains (Text.lower field) (Text.lower query)) ||
    tokens.any fun token => Text.contains (Text.lower field) token

/-- `_snippet`. -/
def snippet (value query : String) : String :=
  let compact := strip (subRuns CharData.isSpace ' ' false value.toList)
  if compact = [] then ""
  else
    let lowered := compact.flatMap CharData.lower
    let needles := (Text.lower query :: queryTokens query).filter fun needle => needle ≠ ""
    let start := ((needles.findSome? fun needle => findText lowered needle.toList).getD 0) - 70
    (if start = 0 then "" else "...") ++ String.ofList (strip ((compact.drop start).take 260)) ++
      (if start + 260 < compact.length then "..." else "")

/-! A page and a query. -/

/-- The fields of a page that are searched, with what a match in one of them counts. -/
def fieldValues (page : WikiPage) : List (String × ℚ × String) :=
  [("page_key", 4, page.pageKey), ("title", 32 / 10, page.title), ("summary", 14 / 10, page.summary),
    ("body", 8 / 10, page.body), ("path", 16 / 10, page.path), ("page_type", 1, page.pageType),
    ("aliases", 28 / 10, Text.joinWith " " page.aliases), ("tags", 24 / 10, Text.joinWith " " page.tags)]

/-- `_page_has_text_match`. -/
def pageHasTextMatch (page : WikiPage) (query : String) (tokens : List String) : Bool :=
  (fieldValues page).any fun field => fieldContains field.2.2 query tokens

/-- What is added for a name of the page that is the query: the field, the number and the reason. -/
def exactMatches (page : WikiPage) (query : String) : List (String × ℚ × String) :=
  let normalizedQuery := normalizePageKey query
  let lowerQuery := Text.lower query
  (if normalizedQuery ≠ "" ∧ page.pageKey = normalizedQuery then [("page_key", 9, "exact_page_key")] else []) ++
  (if lowerQuery ≠ "" ∧ Text.lower page.title = lowerQuery then [("title", 8, "exact_title")] else []) ++
  (if page.aliases.any fun item => normalizePageKey item = normalizedQuery then [("aliases", 7, "exact_alias")]
    else []) ++
  (if page.tags.any fun tag => Text.lower tag = lowerQuery then [("tags", 55 / 10, "exact_tag")] else [])

/-- `_score_page`: the score, the matched fields and the reasons. -/
def scorePage (page : WikiPage) (query : String) (tokens : List String) (ftsRank : ℚ) (counts : Nat × Nat) :
    ℚ × List String × List String :=
  if Text.strip query = "" then (confidence page.confidence, [], ["recent_or_index_listing"])
  else
    let exact := exactMatches page query
    let fields := (fieldValues page).filter fun field => fieldContains field.2.2 query tokens
    let fts : ℚ := if ftsRank = 0 then 0 else min 3 (ftsRank * 3)
    (round4 ((exact.map fun found => found.2.1).sum + (fields.map fun field => field.2.1).sum + fts +
        min 1 (counts.1 * (2 / 10)) + min (5 / 10) (counts.2 * (1 / 10)) + confidence page.confidence),
      sortedSet (exact.map Prod.fst ++ fields.map Prod.fst),
      sortedSet ((exact.map fun found => found.2.2) ++ (fields.map fun field => field.1 ++ "_match") ++
        (if ftsRank = 0 then [] else ["fts_match"]) ++ (if counts.1 = 0 then [] else ["backlinked"])))

/-- `_page_snippet`. -/
def pageSnippet (page : WikiPage) (query : String) : String :=
  if snippet page.summary query ≠ "" then snippet page.summary query
  else if snippet page.body query ≠ "" then snippet page.body query
  else String.ofList (page.summary.toList.take 260)

/-- `_next_actions_for_search_hit`. -/
def nextActions (page : WikiPage) (strategy : String) (constraints : List (Nat × WikiErrorBook)) : List String :=
  ["wiki_read"] ++ (if strategy = "bridge" ∨ constraints ≠ [] then ["wiki_follow_links"] else []) ++
    (if confidence page.confidence < 1 / 2 ∨ constraints ≠ [] then ["wiki_sufficiency_check"] else [])

/-- The path or the key of a page starts with a prefix. -/
def underPrefix (pathPrefix : String) (page : WikiPage) : Bool :=
  let normalized := trim (· = '/') (Text.strip pathPrefix).toList
  normalized = [] || normalized.isPrefixOf (trim (· = '/') page.path.toList) ||
    normalized.isPrefixOf page.pageKey.toList

/-! The search. -/

variable (queries : Queries) (db : WikiDb)

/-- The pages that a search looks at: the first ones by their keys, and those that the full-text index names. -/
def listing (pageKeys : List String) (limit : Nat) : List WikiPage :=
  let pages := listPages db (max limit 1000)
  let missing := pageKeys.filter fun key => key ≠ "" ∧ key ∉ pages.map WikiPage.pageKey
  pages ++ queries.arrange (db.pages.rows.filter fun page => page.pageKey ∈ missing)

/-- `_candidate_pages`. -/
def candidatePages (query pathPrefix : String) (pageKeys : List String) (limit : Nat) : List WikiPage :=
  let pages := (listing queries db pageKeys limit).filter (underPrefix pathPrefix)
  if Text.strip query = "" then pages.take limit
  else
    (pages.filter fun page => page.pageKey ∈ pageKeys || pageHasTextMatch page query (queryTokens query)).take limit

structure SearchHit where
  score : ℚ
  source : String
  page : WikiPage
  confidence : ℚ
  matchReasons : List String
  matchedFields : List String
  snippet : String
  nextActions : List String
  constraints : List (Nat × WikiErrorBook)

/-- `(item["score"], _confidence(item.get("confidence")), item["page_key"])`. -/
def SearchHit.order (hit : SearchHit) : ℚ ×ₗ ℚ ×ₗ String := toLex (hit.score, toLex (hit.confidence, hit.page.pageKey))

/-- The hits of the full-text index under their pages. -/
def ftsHits (query : String) (limit : Nat) : Keyed FtsHit.pageKey := Keyed.empty.putAll (queries.fts query (max (limit * 4) 20))

section Hits
variable (query strategy : String) (includeConstraints : Bool) (hits : Keyed FtsHit.pageKey)

/-- The score of a page, with its fields and reasons. -/
def scoring (page : WikiPage) : ℚ × List String × List String :=
  scorePage page query (queryTokens query) ((hits.find? page.pageKey).elim 0 FtsHit.rank) (linkCounts db page.pageKey)

/-- The page has a score or a hit of the full-text index. -/
def scored (page : WikiPage) : Bool :=
  query = "" || decide (0 < (scoring db query hits page).1) || (hits.find? page.pageKey).isSome

/-- The record of a page. -/
def hitOf (page : WikiPage) : SearchHit :=
  let ftsHit := hits.find? page.pageKey
  let found := scoring db query hits page
  let constraints := if includeConstraints then constraintsForPages queries db.errors [page.pageKey] else []
  { score := found.1
    source := if ftsHit.isSome then "wiki_fts" else "page_index"
    page
    confidence := confidence page.confidence
    matchReasons := found.2.2
    matchedFields := found.2.1
    snippet := ((ftsHit.map FtsHit.snippet).filter (· ≠ "")).getD (pageSnippet page query)
    nextActions := nextActions page strategy constraints
    constraints }

end Hits

/-- The candidates of a search that have a score or a hit of the full-text index. -/
def scoredCandidates (query pathPrefix : String) (limit : Nat) : List WikiPage :=
  let hits := ftsHits queries query limit
  (candidatePages queries db query pathPrefix hits.keys (max (limit * 8) 200)).filter (scored db query hits)

/-- The arguments of `search`. -/
structure Request where
  query : String
  limit : Int := 10
  strategy : String := ""
  pathPrefix : String := ""
  includeConstraints : Bool := false

/-- The query that is searched for. -/
def Request.text (request : Request) : String := Text.strip request.query

/-- `max(1, min(limit, 50))`. -/
def Request.count (request : Request) : Nat := (max 1 (min request.limit 50)).toNat

variable (request : Request)

def candidates : List WikiPage := scoredCandidates queries db request.text request.pathPrefix request.count

/-- The record of a page in the result. -/
def record (page : WikiPage) : SearchHit :=
  hitOf queries db request.text request.strategy request.includeConstraints (ftsHits queries request.text request.count) page

/-- `search`. -/
def search : List SearchHit :=
  (rankBy SearchHit.order ((candidates queries db request).map (record queries db request))).take request.count

end Texts

end SoulClaw.Wiki.Search
