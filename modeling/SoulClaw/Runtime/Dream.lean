import SoulClaw.Foundation.Calendar
import SoulClaw.Foundation.Keyed
import SoulClaw.Foundation.Ranking
import SoulClaw.Foundation.Uuid
import SoulClaw.Skills.Service
import Mathlib.Data.Prod.Lex

/-! `DreamRuntime`: a review groups the error signals and the failed tool runs of a time window, proposes a skill, a
memory and a log entry for each group, and proposes to verify the memories that are unstable. -/

namespace SoulClaw.Runtime.Dream
open Foundation Files Wiki.Storage
open Wiki.Proposals (EvolutionProposal)
open Wiki.Markdown (trim subRuns)
open Skills.Package (SkillService)
open Skills.Service (ProposalRequest createProposal)

/-! The rows that a review reads. The times are microseconds. -/

structure MemoryRow where
  id : Uuid
  kind : String
  content : String
  archived : Bool := false
  importance : PyFloat
  confidence : PyFloat
  stability : PyFloat
  sourceTurnId : String := ""
  createdAt : Int
  updatedAt : Int

structure ToolRun where
  id : Uuid
  turnId : String
  toolName : String
  status : String
  arguments : Dict
  result : Dict
  startedAt : Nat

/-- The place of a float in the order of a column. -/
def floatRank : PyFloat → ℕ ×ₗ ℚ
  | .infinite true => toLex (0, 0)
  | .finite value => toLex (1, value)
  | .infinite false => toLex (2, 0)
  | .nan => toLex (3, 0)

def createdKey (row : MemoryRow) : (ℕ ×ₗ ℚ) ×ₗ ℤ := toLex (floatRank row.importance, row.createdAt)

def updatedKey (row : MemoryRow) : (ℕ ×ₗ ℚ) ×ₗ ℤ := toLex (floatRank row.importance, row.updatedAt)

/-- `ORDER BY`, the greatest key first. Rows with equal keys come in any order. -/
structure RowOrder {Row Key : Type} [LinearOrder Key] (key : Row → Key) where
  sort : List Row → List Row
  ranks : ∀ rows, Ranking.Ranks key rows (sort rows)

def RowOrder.stable {Row Key : Type} [LinearOrder Key] (key : Row → Key) : RowOrder key :=
  ⟨Ranking.rankBy key, Ranking.ranks_rankBy⟩

structure DreamRuntime where
  skills : SkillService
  created : RowOrder createdKey
  updated : RowOrder updatedKey
  started : RowOrder ToolRun.startedAt

/-- What a review finds in the database, beside the proposals. -/
structure Evidence where
  memories : Keyed MemoryRow.id
  toolRuns : List ToolRun

/-! What a review reads of it. -/

section Queries
variable (runtime : DreamRuntime) (since limit : Int)

/-- `_recent_error_memories`. -/
def recentErrorMemories (rows : List MemoryRow) : List MemoryRow :=
  (runtime.created.sort (rows.filter fun row =>
    !row.archived ∧ since ≤ row.createdAt ∧ row.kind ∈ ["error_signal", "skill_trace"])).take (max 1 (min limit 500)).toNat

/-- `_recent_failed_tool_runs`. -/
def recentFailedToolRuns (rows : List ToolRun) : List ToolRun :=
  (runtime.started.sort (rows.filter fun row => row.status = "failed" ∧ since ≤ row.startedAt)).take
    (max 1 (min limit 500)).toNat

/-- The float `0.35`. -/
def lowStability : PyFloat := .finite (3152519739159347 / 9007199254740992)

/-- The rows that the query of `_low_stability_memories` returns. -/
def unstableMemories (rows : List MemoryRow) : List MemoryRow :=
  (runtime.updated.sort (rows.filter fun row =>
    !row.archived ∧ since ≤ row.updatedAt ∧ row.stability.lt lowStability)).take (max 1 (min limit 100)).toNat

/-- `float(stability or 1.0)`. -/
def stabilityOrOne (stability : PyFloat) : PyFloat := if stability = .finite 0 then .finite 1 else stability

/-- `_low_stability_memories`. -/
def lowStabilityMemories (rows : List MemoryRow) : List MemoryRow :=
  (unstableMemories runtime since limit rows).filter fun row => (stabilityOrOne row.stability).lt lowStability

end Queries

/-! Groups. -/

structure Group where
  memories : List MemoryRow := []
  failedToolRuns : List ToolRun := []

/-- The group with this key is changed; a new one stands behind the others. -/
def changeGroup (change : Group → Group) (key : String) : List (String × Group) → List (String × Group)
  | [] => [(key, change {})]
  | (known, group) :: rest =>
      if known = key then (known, change group) :: rest else (known, group) :: changeGroup change key rest

def wordChar (c : Char) : Bool := c.isAlphanum || c = '_'

def slugChar (c : Char) : Bool := ('a' ≤ c ∧ c ≤ 'z') ∨ ('0' ≤ c ∧ c ≤ '9') ∨ c ∈ ['_', '-']

def stopWords : List String :=
  ["the", "and", "for", "with", "that", "this", "from", "error", "failed", "failure"]

section Grouping
variable [CharData]

/-- `_group_key`. -/
def groupKey (text fallback : String) : String :=
  let words := ((Text.lower text).toList.splitOnP fun c => !wordChar c).filter (· ≠ [])
  let useful := (words.filter fun word => 2 < word.length ∧ String.ofList word ∉ stopWords).take 6
  let joined := ['-'].intercalate useful
  let raw := if joined = [] then fallback.toList else joined
  let slug := trim (· = '-') (subRuns (fun c => !slugChar c) '-' false (raw.flatMap CharData.lower))
  if slug.take 80 = [] then "general-review" else String.ofList (slug.take 80)

/-- The text of a failed run that its group is named after. -/
def runText (run : ToolRun) : String := ((run.result.get "error").or (.str run.toolName)).toStr

/-- `_group_evidence`. -/
def groupEvidence (memories : List MemoryRow) (failedRuns : List ToolRun) : List (String × Group) :=
  let groups := memories.foldl (fun groups row =>
    changeGroup (fun group => { group with memories := group.memories ++ [row] }) (groupKey row.content row.kind) groups) []
  let groups := failedRuns.foldl (fun groups run =>
    changeGroup (fun group => { group with failedToolRuns := group.failedToolRuns ++ [run] })
      (groupKey (runText run) run.toolName) groups) groups
  groups.filter fun group => !group.2.memories.isEmpty || !group.2.failedToolRuns.isEmpty

end Grouping

/-! What is proposed. -/

/-- `text[:count]`. -/
def cut (count : Nat) (text : String) : String := String.ofList (text.toList.take count)

section Payloads
variable [CharData] [FloatData]

def memoryEvidence (row : MemoryRow) : Json :=
  .obj [("id", .str row.id.str), ("kind", .str row.kind), ("content", .str (cut 1000 row.content)),
    ("importance", .float (FloatData.repr row.importance)), ("confidence", .float (FloatData.repr row.confidence)),
    ("source_turn_id", .str row.sourceTurnId)]

omit [CharData] [FloatData] in
def runEvidence (run : ToolRun) : Json :=
  .obj [("id", .str run.id.str), ("turn_id", .str run.turnId), ("tool_name", .str run.toolName),
    ("arguments", .obj run.arguments), ("result", .obj run.result),
    ("started_at", .str (String.ofList (Calendar.isoformat (run.startedAt / 1000000) (run.startedAt % 1000000))))]

omit [CharData] in
def Group.evidence (group : Group) (key : String) : Dict :=
  [("dream_group_key", .str key), ("memories", .arr (group.memories.map memoryEvidence)),
    ("failed_tool_runs", .arr (group.failedToolRuns.map runEvidence))]

/-- `error or result`. -/
def runError (run : ToolRun) : String := ((run.result.get "error").or (.obj run.result)).toStr

/-- `text or fallback`. -/
def orElse (text fallback : String) : String := if text = "" then fallback else text

/-- `_summary`. -/
def summary (group : Group) : String :=
  let memories := (group.memories.take 5).map fun row =>
    "- Memory " ++ "\x60" ++ row.id.str ++ "\x60 (" ++ row.kind ++ "): " ++ cut 1000 row.content
  let runs := (group.failedToolRuns.take 5).map fun run =>
    "- ToolRun " ++ "\x60" ++ run.id.str ++ "\x60 \x60" ++ run.toolName ++ "\x60 failed: " ++ runError run
  orElse (Text.joinWith "\n" (memories ++ runs)) "- No evidence captured."

/-- `_plain_summary`. -/
def plainSummary (group : Group) : String :=
  let memories := (group.memories.take 5).map fun row => row.kind ++ ": " ++ cut 1000 row.content
  let runs := (group.failedToolRuns.take 5).map fun run => run.toolName ++ " failed: " ++ runError run
  orElse (Text.joinWith " | " (memories ++ runs)) "No evidence captured."

/-- `text.title()` of ASCII characters, of which the last one was a letter or not. -/
def titled : (letter : Bool) → List Char → List Char
  | _, [] => []
  | letter, c :: rest => (if letter then c.toLower else c.toUpper) :: titled c.isAlpha rest

def titleOf (key : String) : String :=
  String.ofList (titled false (key.toList.map fun c => if c = '-' then ' ' else c))

/-- The draft of the SKILL.md. -/
def skillDraft (key : String) (group : Group) : String :=
  "---\n" ++ "name: Dream Review - " ++ titleOf key ++ "\n" ++
  "description: Proposed skill distilled from recent memory error signals and failed tool runs.\n" ++
  "required_tools:\n  - wiki_search\n  - wiki_read\n  - memory_search\n  - memory_get\n" ++
  "test_cases:\n  - name: manifest-lint\n    kind: lint\n" ++
  "  - name: required retrieval tools\n    kind: mock_tool\n    required_tools:\n" ++
  "      - wiki_search\n      - wiki_read\n      - memory_search\n      - memory_get\n" ++
  "  - name: regression unsafe commands absent\n    kind: regression\n    must_not_contain:\n" ++
  "      - git reset --hard\n      - rm -rf /\n" ++ "---\n\n" ++ "# Dream Review - " ++ titleOf key ++ "\n\n" ++
  "## Trigger Evidence\n\n" ++ summary group ++ "\n\n" ++ "## Operating Guidance\n\n" ++
  "- Reproduce the failure or uncertainty from the evidence before changing project state.\n" ++
  "- Prefer Wiki and Memory retrieval before inventing a new workflow.\n" ++
  "- If the issue involves tools, check availability, scope, approval requirements, and recent ToolRun errors.\n" ++
  "- Record any durable lesson as L2 memory first; promote to stable skill instructions only after repeated success.\n"

/-- `_proposal_payload`. -/
def proposalPayload (key : String) (group : Group) : Dict :=
  [("skill_key", .str ("dream/" ++ key)), ("files", .obj [("SKILL.md", .str (skillDraft key group))]),
    ("dream_group_key", .str key),
    ("required_checks", .arr [.str "frontmatter", .str "required_tools", .str "static_safety_scan",
      .str "safe_manifest_test_cases", .str "human_review_before_apply"])]

/-- `_memory_proposal_payload`. -/
def memoryProposalPayload (key : String) (group : Group) : Dict :=
  [("kind", .str "semantic"), ("content", .str ("Dream review lesson: " ++ cut 1800 (plainSummary group))),
    ("source", .str "dream"), ("importance", .float "0.62"), ("confidence", .float "0.55"), ("stability", .float "0.45"),
    ("metadata", .obj [("dream_group_key", .str key)]), ("dream_group_key", .str key)]

def skillRequest (key : String) (group : Group) : ProposalRequest where
  targetType := "skill"
  action := "upsert"
  riskLevel := "medium"
  payload := proposalPayload key group
  evidence := group.evidence key

def memoryRequest (key : String) (group : Group) : ProposalRequest where
  targetType := "memory"
  action := "create"
  riskLevel := "low"
  payload := memoryProposalPayload key group
  evidence := group.evidence key

omit [CharData] in
def wikiRequest (key : String) (group : Group) : ProposalRequest where
  targetType := "wiki"
  action := "append_log"
  riskLevel := "low"
  payload :=
    [("entry", .str ("Dream review found improvement opportunity \x60" ++ key ++
        "\x60. Review proposal evidence before updating Wiki pages.")),
      ("dream_group_key", .str key)]
  evidence := group.evidence key

def verifyKey (row : MemoryRow) : String := "verify-memory-" ++ row.id.str

omit [CharData] in
def verifyRequest (row : MemoryRow) : ProposalRequest where
  targetType := "memory"
  action := "verify"
  riskLevel := "low"
  payload :=
    [("memory_id", .str row.id.str), ("confidence_delta", .float "0.03"), ("dream_group_key", .str (verifyKey row))]
  evidence :=
    [("dream_group_key", .str (verifyKey row)),
      ("memories", .arr [.obj [("id", .str row.id.str), ("kind", .str row.kind), ("content", .str (cut 1000 row.content)),
        ("confidence", .float (FloatData.repr row.confidence)), ("stability", .float (FloatData.repr row.stability))]]),
      ("failed_tool_runs", .arr [])]

end Payloads

/-! The review. -/

/-- The statuses of the proposals that exist for a review. -/
def liveStatuses : List String := ["pending", "approved", "applied"]

/-- The proposal is about this group, and it has not been turned down. -/
def liveFor (targetType key : String) (proposal : EvolutionProposal) : Bool :=
  proposal.targetType = targetType ∧ proposal.status ∈ liveStatuses ∧
    proposal.payload.lookup "dream_group_key" = some (.str key)

/-- `_proposal_exists`. -/
def proposalExists (proposals : Table EvolutionProposal) (key targetType : String) : Bool :=
  (proposals.find? (liveFor targetType key)).isSome

structure DreamReviewResult where
  scannedMemories : Nat
  failedToolRuns : Nat
  proposalsCreated : Nat
  proposalIds : List Nat

section Review
variable [CharData] [FloatData] (runtime : DreamRuntime)

abbrev Made := List Nat × Skills.Service.State

/-- The body of the loop over the groups. -/
def reviewGroup (made : Made) (group : String × Group) : FileM Raw Made := do
  if proposalExists made.2.proposals group.1 "skill" then return made
  else
    let (skill, state) ← createProposal runtime.skills made.2 (skillRequest group.1 group.2)
    let (memory, state) ← createProposal runtime.skills state (memoryRequest group.1 group.2)
    let (wiki, state) ← createProposal runtime.skills state (wikiRequest group.1 group.2)
    return (made.1 ++ [skill, memory, wiki], state)

/-- The body of the loop over the unstable memories. -/
def reviewMemory (made : Made) (row : MemoryRow) : FileM Raw Made := do
  if proposalExists made.2.proposals (verifyKey row) "memory" then return made
  else
    let (id, state) ← createProposal runtime.skills made.2 (verifyRequest row)
    return (made.1 ++ [id], state)

/-- The time from which on the rows are read. -/
def windowStart (now windowHours : Int) : Int := now - max 1 (min windowHours (24 * 30)) * 3600000000

/-- `run_review`. -/
def runReview (now windowHours limit : Int) (found : Evidence) (state : Skills.Service.State) :
    FileM Raw (DreamReviewResult × Skills.Service.State) := do
  let since := windowStart now windowHours
  let memories := recentErrorMemories runtime since limit found.memories.rows
  let failedRuns := recentFailedToolRuns runtime since limit found.toolRuns
  let made ← (groupEvidence memories failedRuns).foldlM (reviewGroup runtime) ([], state)
  let made ← (lowStabilityMemories runtime since limit found.memories.rows).foldlM (reviewMemory runtime) made
  return (⟨memories.length, failedRuns.length, made.1.length, made.1⟩, made.2)

end Review

/-- A runtime whose queries keep the order of the rows with equal keys. -/
def plainDream : DreamRuntime :=
  ⟨Skills.Service.plainSkills, RowOrder.stable createdKey, RowOrder.stable updatedKey, RowOrder.stable ToolRun.startedAt⟩

end SoulClaw.Runtime.Dream
