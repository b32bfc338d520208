import SoulClaw.Foundation.Keyed
import SoulClaw.Foundation.Ranking
import SoulClaw.Memories.Index
import SoulClaw.Wiki.Markdown

/-! The search of the memories: two sources of candidates, a score for each of them, and the selection that leaves out
what is nearly the same as a better one. The scores are exact numbers. -/

namespace SoulClaw.Memories.Search
open Foundation Ranking

/-- The columns of a memory that a search reads. -/
structure Memory where
  id : Uuid
  kind : String := "agent_note"
  content : String
  status : String := "active"
  pinned : Bool := false
  archived : Bool := false
  importance : ℚ := 1 / 2
  confidence : ℚ := 1 / 2
  stability : ℚ := 1 / 2
  validTo : Option DateTime := none
  createdAt : Option DateTime := none
  updatedAt : Option DateTime := none
  deriving DecidableEq

/-- `_is_inactive`. -/
def isInactive (memory : Memory) (now : Int) : Bool :=
  Index.inactive ⟨memory.archived, memory.status⟩ memory.validTo now

/-- An item of `_fts_search`. -/
structure FtsHit where
  memoryId : String
  rank : ℚ
  snippet : String := ""

/-- The queries of a search. They select from the rows of the database and give the objects of the session, which may
have changed since; so nothing is known about the memories that they give. -/
structure Queries where
  fts : String → Nat → List FtsHit
  /-- `select(Memory).where(Memory.id.in_(ids))`, where it does not raise. -/
  byIds : List Uuid → Option (List Memory)
  /-- `_structured_candidates`. -/
  structuredCandidates : String → Nat → List Memory

/-- An item of the result. -/
structure Hit where
  score : ℚ
  source : String
  memory : Memory
  matchReasons : List String
  snippet : String
  deriving DecidableEq

def l1Kinds : List String := ["control_axiom", "pinned_fact"]

def tokenChar (c : Char) : Bool := c.isAlphanum || c = '_' || ('\u4e00' ≤ c && c ≤ '\u9fff')

/-- `_jaccard`. -/
def jaccard (left right : Finset String) : ℚ :=
  if left = ∅ ∨ right = ∅ then 0 else (left ∩ right).card / (left ∪ right).card

theorem jaccard_comm (left right : Finset String) : jaccard left right = jaccard right left := by
  rw [jaccard, jaccard, Finset.inter_comm, Finset.union_comm]
  exact if_congr or_comm rfl rfl

/-- What the search finds near: at this similarity a memory is left out. -/
def nearly : ℚ := 82 / 100

section Texts
variable [CharData]

/-- The words that `_tokens` finds, in their order. -/
def words (text : String) : List String :=
  (((Text.lower text).toList.splitOnP fun c => !tokenChar c).filter fun word => 1 < word.length).map String.ofList

/-- `_tokens`. -/
def tokens (text : String) : Finset String := (words text).toFinset

/-- The similarity of two memories. -/
def similarity (first second : Memory) : ℚ := jaccard (tokens first.content) (tokens second.content)

theorem similarity_comm (first second : Memory) : similarity first second = similarity second first :=
  jaccard_comm _ _

/-- `_snippet`. -/
def snippet (value query : String) : String :=
  let compact := Wiki.Markdown.strip (Wiki.Markdown.subRuns CharData.isSpace ' ' false value.toList)
  if query = "" then String.ofList (compact.take 240)
  else
    let lowered := compact.flatMap CharData.lower
    let needles := Text.lower query :: ((words query).dedup.insertionSort (· ≤ ·))
    let start := ((needles.findSome? fun needle => Wiki.Markdown.findText lowered needle.toList).getD 0) - 60
    (if start = 0 then "" else "...") ++ String.ofList ((compact.drop start).take 240)

/-- `_recency_score`, with the moments in microseconds. -/
def recencyScore (memory : Memory) (now : Int) : ℚ :=
  match memory.updatedAt.or memory.createdAt with
  | none => 0
  | some updated =>
      let ageDays : ℚ := max 0 ((now - updated.orUtc.instant : Int) / 1000000 / 86400)
      max 0 (45 / 100 * (1 - min ageDays 90 / 90))

/-- `_score_memory`. -/
def scoreMemory (memory : Memory) (query : String) (ftsHit : Option FtsHit) (now : Int) : ℚ × List String :=
  let bm25 : ℚ := (ftsHit.map fun hit => min 3 (hit.rank * 3)).getD 0
  let exact := query ≠ "" && Text.contains (Text.lower memory.content) (Text.lower query)
  let overlap := if tokens query = ∅ then 0 else jaccard (tokens query) (tokens memory.content)
  let l1 := decide (memory.kind ∈ l1Kinds)
  let quality := memory.importance * (45 / 100) + memory.confidence * (25 / 100) + memory.stability * (2 / 10)
  (bm25 + (if exact then 1 else 0) + (if overlap = 0 then 0 else min 1 (overlap * 2)) +
      (if memory.pinned then 8 / 10 else 0) + (if l1 then 45 / 100 else 0) + quality + recencyScore memory now,
    (if ftsHit.isSome then ["bm25"] else []) ++ (if exact then ["exact_content"] else []) ++
      (if overlap = 0 then [] else ["token_overlap"]) ++ (if memory.pinned then ["pinned"] else []) ++
      (if l1 then ["l1"] else []) ++ ["quality"])

/-- The item of a candidate that is selected at a similarity to the selected ones. -/
def Hit.selected (item : Hit) (similarity : ℚ) : Hit :=
  { item with
    score := round4 (item.score - similarity * (35 / 100))
    matchReasons := item.matchReasons ++ (if similarity = 0 then [] else ["dedup_penalty"]) }

/-- The loop of `_mmr_dedup`. -/
def selectLoop (limit : Nat) : (selected : List Hit) → (selectedTokens : List (Finset String)) → List Hit → List Hit
  | selected, _, [] => selected
  | selected, selectedTokens, item :: rest =>
      let tokens := tokens item.memory.content
      let similarity := greatest (selectedTokens.map (jaccard tokens))
      if nearly ≤ similarity then selectLoop limit selected selectedTokens rest
      else
        let selected := selected ++ [item.selected similarity]
        if limit ≤ selected.length then selected else selectLoop limit selected (selectedTokens ++ [tokens]) rest

/-- `_mmr_dedup`. -/
def mmrDedup (ranked : List Hit) (limit : Nat) : List Hit := (rankBy Hit.score (selectLoop limit [] [] ranked)).take limit

/-- `max(1, min(limit, 50))`. -/
def clampLimit (limit : Int) : Nat := (max 1 (min limit 50)).toNat

variable [UuidData] (queries : Queries)

/-- The hits of `_fts_search` under their memories. -/
def ftsHits (query : String) (limit : Nat) : Keyed FtsHit.memoryId :=
  Keyed.empty.putAll (if query = "" then [] else queries.fts query (max (limit * 4) 20))

/-- The memories of the hits; an error of the query, or an id that is none, leaves them all out. -/
def hitMemories (hits : Keyed FtsHit.memoryId) : List Memory :=
  if hits.rows = [] then []
  else ((hits.rows.mapM fun hit => Uuid.ofText hit.memoryId).bind queries.byIds).getD []

/-- The candidates, under their ids. -/
def candidates (query : String) (limit : Nat) : Keyed fun memory : Memory => memory.id.str :=
  (Keyed.empty.putAll (hitMemories queries (ftsHits queries query limit))).putAll
    (queries.structuredCandidates query (max (limit * 4) 20))

/-- A candidate is active and has a score. -/
def scored (query : String) (hits : Keyed FtsHit.memoryId) (now : Int) (memory : Memory) : Bool :=
  !isInactive memory now &&
    (query = "" || decide (0 < (scoreMemory memory query (hits.find? memory.id.str) now).1))

/-- The item of a scored candidate. -/
def hitOf (query : String) (hits : Keyed FtsHit.memoryId) (now : Int) (memory : Memory) : Hit :=
  let ftsHit := hits.find? memory.id.str
  let scoring := scoreMemory memory query ftsHit now
  { score := round4 scoring.1
    source := if ftsHit.isSome then "memory_fts" else "memory_index"
    memory := memory
    matchReasons := scoring.2
    snippet := ((ftsHit.map FtsHit.snippet).filter (· ≠ "")).getD (snippet memory.content query) }

/-- The scored candidates, the best first. -/
def ranking (query : String) (limit : Nat) (now : Int) : List Hit :=
  let hits := ftsHits queries query limit
  rankBy Hit.score (((candidates queries query limit).rows.filter (scored query hits now)).map (hitOf query hits now))

/-- `search`. -/
def search (query : String) (limit : Int) (now : Int) : List Hit :=
  mmrDedup (ranking queries (Text.strip query) (clampLimit limit) now) (clampLimit limit)

end Texts

end SoulClaw.Memories.Search
