import SoulClaw.Wiki.Lint
import SoulClaw.Wiki.Proposals

/-! `WikiService.repair(apply_safe=False)`: a lint, and proposals for the open entries of the Error Book that no live
proposal names yet. -/

namespace SoulClaw.Wiki.Repairs
open Foundation Files Markdown Compile Lint Storage Proposals

/-- `LOW_RISK_REPAIR_TYPES`. -/
def lowRiskRepairTypes : List String := ["missing_canonical_file", "missing_index_entry", "orphan_page"]

/-- `DEFAULT_CANONICAL_CONTENT`. -/
def defaultCanonicalContent : List (String × String) :=
  [("SCHEMA.md", "---\ntitle: Wiki Schema\npage_key: schema\ntype: schema\ntags:\n  - llm-wiki\nconfidence: 0.6\n" ++
      "summary: Control rules for the local LLM-Wiki.\n---\n\n# Wiki Schema\n\n" ++
      "Use Markdown frontmatter, stable page keys, summaries, wikilinks, and explicit sources so agents can browse, " ++
      "search, verify, and repair this Wiki.\n"),
    ("index.md", "---\ntitle: Wiki Index\npage_key: index\ntype: index\ntags:\n  - llm-wiki\nconfidence: 0.6\n" ++
      "summary: Root map for the local LLM-Wiki.\n---\n\n# Wiki Index\n\n" ++
      "Use this page as the browse-first map for durable Wiki knowledge.\n"),
    ("log.md", "# Wiki Log\n")]

def defaultIndex : String := (defaultCanonicalContent.lookup "index.md").getD ""

/-! The index with one more link. -/

/-- `str.title()` of ASCII text; the flag says that a letter stands in front. -/
def titled : Bool → List Char → List Char
  | _, [] => []
  | inWord, c :: rest =>
      if c.isAlpha then (if inWord then c.toLower else c.toUpper) :: titled true rest else c :: titled false rest

/-- `page_key.split("/")[-1].replace("-", " ").title()`. -/
def indexLabel (pageKey : String) : List Char :=
  titled false (((pageKey.toList.splitOn '/').getLastD []).map fun c => if c = '-' then ' ' else c)

def bracketed (pageKey : String) : String := "[[" ++ pageKey ++ "]]"

/-- What is written behind the index. -/
def linkLine (pageKey : String) : List Char := "\n\n- ".toList ++ (bracketed pageKey).toList ++ ' ' :: indexLabel pageKey ++ ['\n']

section Index
variable [CharData]

/-- The text that gets the link. -/
def indexBase (text : String) : String := if Text.strip text = "" then defaultIndex else text

def withLink (text pageKey : String) : String :=
  if Text.contains (indexBase text) (bracketed pageKey) then indexBase text
  else String.ofList (Lines.rstrip (indexBase text).toList ++ linkLine pageKey)

/-- `_index_content_with_link`. -/
def indexContentWithLink (tree : WikiTree) (pageKey : String) : Except PyException String :=
  (tree.readOptionalFile "index.md").map fun text => withLink text pageKey

end Index

/-! Proposals for entries. -/

section Drafts
variable [CharData]

/-- What a proposal does. -/
structure Draft where
  action : String
  payload : Dict
  deriving DecidableEq, Repr

/-- `_low_risk_repair_proposal`. -/
def lowRiskRepairProposal (tree : WikiTree) (id : Nat) (entry : WikiErrorBook) : Except PyException (Option Draft) :=
  if entry.errorType = "missing_canonical_file" then
    let path := ((entry.payload.get "path").or (.str entry.pageKey)).toStr
    match defaultCanonicalContent.lookup path with
    | none => .ok none
    | some content => .ok (some
        { action := "create_page"
          payload := [("path", .str path), ("content", .str content), ("repair_kind", .str "create_canonical_file"),
            ("error_id", .str (toString id))] })
  else if entry.errorType ∈ ["missing_index_entry", "orphan_page"] then
    let pageKey := normalizePageKey entry.pageKey
    if pageKey = "" then .ok none
    else (indexContentWithLink tree pageKey).map fun content => some
      { action := "update_index"
        payload := [("path", .str "index.md"), ("page_key", .str pageKey), ("content", .str content),
          ("repair_kind", .str "index_link"), ("error_id", .str (toString id))] }
  else .ok none

/-- The key under which a run proposes a low-risk repair once. -/
def Draft.target (draft : Draft) : String × String :=
  (draft.action, ((draft.payload.get "page_key").or ((draft.payload.get "path").or (.str ""))).toStr)

omit [CharData] in
/-- `_error_summary`. -/
def errorSummary (id : Nat) (entry : WikiErrorBook) : Dict :=
  [("id", .str (toString id)), ("error_type", .str entry.errorType), ("page_key", .str entry.pageKey),
    ("root_cause", .str entry.rootCause), ("constraint", .str entry.constraint),
    ("constraint_rule", entry.constraintRule.or (.str "")), ("verification_method", entry.verificationMethod.or (.str "")),
    ("source_refs", .arr entry.sourceRefs), ("payload", .obj entry.payload)]

omit [CharData] in
/-- The record of `_create_repair_proposal`. -/
def repairRecord (id : Nat) (entry : WikiErrorBook) (draft : Draft) (riskLevel : String) (extraEvidence : Dict) :
    EvolutionProposal where
  targetType := "wiki"
  action := draft.action
  riskLevel
  payload := draft.payload
  evidence := [("source", .str "wiki_repair"), ("error", .obj (errorSummary id entry))] ++ extraEvidence

/-- The model that diagnoses an entry: what its answer reads as, or what asking for it or reading it raises. -/
abbrev Diagnostician := WikiErrorBook → Except String Json

omit [CharData] in
/-- `_diagnose_high_risk_error`. -/
def diagnoseHighRiskError (llm : Option Diagnostician) (entry : WikiErrorBook) : Dict :=
  let fallback : Dict :=
    [("root_cause", .str entry.rootCause), ("constraint_rule", entry.constraintRule.or (.str entry.constraint)),
      ("verification_method", entry.verificationMethod.or
        (.str "Run wiki lint/compile and answer a retrieval probe before trusting this page.")),
      ("source_refs", .arr entry.sourceRefs), ("proposed_action", .str "review_before_apply")]
  match llm with
  | none => fallback
  | some complete =>
      match complete entry with
      | .ok (.obj parsed) => parsed.foldl (fun dict field => Dict.set dict field.1 field.2) fallback
      | .ok _ => fallback
      | .error raised => fallback.set "llm_error" (.str raised)

/-- The review that is proposed for an entry without a deterministic repair. -/
def reviewDraft (id : Nat) (entry : WikiErrorBook) (diagnosis : Dict) : Draft where
  action := "append_log"
  payload := [("page_key", .str (normalizePageKey entry.pageKey)), ("error_id", .str (toString id)),
    ("entry", .str ("Review Wiki Error Book item `" ++ entry.errorType ++ "` for `" ++ entry.pageKey ++ "`: " ++
      ((diagnosis.get "root_cause").or (.str entry.rootCause)).toStr)),
    ("repair_kind", .str "semantic_review"), ("diagnosis", .obj diagnosis)]

end Drafts

/-! Proposals that exist. -/

section Existing
variable [CharData]

omit [CharData] in
/-- A proposal for the wiki that is neither rejected nor failed. -/
def isLive (proposal : EvolutionProposal) : Bool :=
  proposal.targetType = "wiki" ∧ proposal.status ∈ ["pending", "approved", "applied"]

omit [CharData] in
def evidenceError (proposal : EvolutionProposal) : Dict := (proposal.evidence.get "error").dict

def namesError (proposal : EvolutionProposal) (errorId : String) : Bool :=
  ((proposal.payload.get "error_id").or (.str "")).toStr = errorId ∨
    (((evidenceError proposal).get "id").or (.str "")).toStr = errorId

/-- `_find_existing_repair_proposal`. -/
def findExistingRepairProposal (proposals : Table EvolutionProposal) (id : Nat) : Option Nat :=
  proposals.find? fun proposal => isLive proposal && namesError proposal (toString id)

end Existing

/-! The loop. -/

structure Created where
  proposalId : Nat
  errorId : Nat
  riskLevel : String
  deriving DecidableEq, Repr

structure Skipped where
  errorId : Nat
  errorType : String
  reason : String
  proposalId : Option Nat
  deriving DecidableEq, Repr

structure Repairing where
  proposals : Table EvolutionProposal
  seen : List (String × String) := []
  created : List Created := []
  skipped : List Skipped := []

def Repairing.skip (repairing : Repairing) (id : Nat) (entry : WikiErrorBook) (reason : String)
    (proposalId : Option Nat) : Repairing :=
  { repairing with skipped := repairing.skipped ++ [⟨id, entry.errorType, reason, proposalId⟩] }

def Repairing.create (repairing : Repairing) (id : Nat) (record : EvolutionProposal) : Repairing :=
  { repairing with
    proposals := repairing.proposals.insert record
    created := repairing.created ++ [⟨repairing.proposals.size, id, record.riskLevel⟩] }

/-- `error_book(status="open", limit=500)`. The rows of one transaction have one time, so that they come in any order. -/
structure ErrorOrder where
  newest : Table WikiErrorBook → List Nat
  distinct : ∀ book, (newest book).Nodup
  listed : ∀ {book id}, id ∈ newest book → id ∈ book.select fun entry => entry.status = "open"
  limited : ∀ book, (newest book).length ≤ 500
  complete : ∀ book, (book.select fun entry => entry.status = "open").length ≤ 500 →
    ∀ id ∈ book.select fun entry => entry.status = "open", id ∈ newest book

/-- The later row first. -/
def ErrorOrder.latest : ErrorOrder where
  newest book := ((book.select fun entry => entry.status = "open").reverse).take 500
  distinct book := (List.nodup_reverse.2 (Table.select_nodup _ _)).sublist (List.take_sublist _ _)
  listed member := List.mem_reverse.1 (List.mem_of_mem_take member)
  limited book := List.length_take_le 500 _
  complete book few id member := by
    rw [List.take_of_length_le (by rw [List.length_reverse]; exact few)]
    exact List.mem_reverse.2 member

section Loop
variable [CharData] (tree : WikiTree) (llm : Option Diagnostician)

/-- The search for a live proposal, and a new one where there is none. -/
def Repairing.propose (repairing : Repairing) (id : Nat) (entry : WikiErrorBook) (record : EvolutionProposal) : Repairing :=
  match findExistingRepairProposal repairing.proposals id with
  | some existing => repairing.skip id entry "existing repair proposal" (some existing)
  | none => repairing.create id record

/-- The review of an entry. -/
def reviewRecord (id : Nat) (entry : WikiErrorBook) : EvolutionProposal :=
  let diagnosis := diagnoseHighRiskError llm entry
  repairRecord id entry (reviewDraft id entry diagnosis) "medium" [("diagnosis", .obj diagnosis)]

/-- The body of the loop. -/
def repairError (repairing : Repairing) (id : Nat) (entry : WikiErrorBook) : Except PyException Repairing :=
  if entry.status ≠ "open" then .ok repairing
  else if entry.errorType ∈ lowRiskRepairTypes then
    (lowRiskRepairProposal tree id entry).map fun
      | none => repairing.skip id entry "no deterministic repair" none
      | some draft =>
          if draft.target ∈ repairing.seen then repairing.skip id entry "duplicate safe repair" none
          else
            Repairing.propose { repairing with seen := draft.target :: repairing.seen } id entry
              (repairRecord id entry draft "low" [])
  else if entry.errorType = "" then .ok repairing
  else .ok (repairing.propose id entry (reviewRecord llm id entry))

def repairErrors (book : Table WikiErrorBook) (repairing : Repairing) : List Nat → Except PyException Repairing
  | [] => .ok repairing
  | id :: rest =>
      match book.get? id with
      | none => repairErrors book repairing rest
      | some entry => (repairError tree llm repairing id entry).bind fun next => repairErrors book next rest

structure RepairReport where
  errorsSeen : Nat
  lintErrors : List WikiErrorBook
  created : List Created
  skipped : List Skipped

variable [FloatData] [DateData] (service : WikiService) (order : ErrorOrder)

/-- `repair`, which leaves the proposals that it creates pending. -/
def repair (errorIds : List String) (now : Int) (state : State) : Except PyException (RepairReport × State) :=
  (lint service tree now state.db).bind fun (lintErrors, db) =>
    let selected := errorIds.filter fun id => Text.strip id ≠ ""
    let open_ := (order.newest db.errors).filter fun id => selected = [] ∨ toString id ∈ selected
    (repairErrors tree llm db.errors { proposals := state.proposals } open_).map fun repairing =>
      ({ errorsSeen := open_.length, lintErrors, created := repairing.created, skipped := repairing.skipped },
        { db, proposals := repairing.proposals })

end Loop

/-! What a run creates. -/

section Runs
variable [CharData] (tree : WikiTree) (llm : Option Diagnostician)

/-- What is proposed for an entry, with the key under which it is proposed once. -/
def offerOf (id : Nat) (entry : WikiErrorBook) : Option (Option (String × String) × EvolutionProposal) :=
  if entry.status ≠ "open" then none
  else if entry.errorType ∈ lowRiskRepairTypes then
    match lowRiskRepairProposal tree id entry with
    | .ok (some draft) => some (some draft.target, repairRecord id entry draft "low" [])
    | _ => none
  else if entry.errorType = "" then none
  else some (none, reviewRecord llm id entry)

/-- The entries for which a live proposal is searched, with what is proposed where there is none. -/
def candidates (book : Table WikiErrorBook) : List (String × String) → List Nat → List (Nat × EvolutionProposal)
  | _, [] => []
  | seen, id :: rest =>
      match (book.get? id).bind (offerOf tree llm id) with
      | none => candidates book seen rest
      | some (target, record) =>
          if target.any fun target => target ∈ seen then candidates book seen rest
          else (id, record) :: candidates book (target.toList ++ seen) rest

/-- The candidates that no live proposal names. -/
def unnamed (proposals : Table EvolutionProposal) (found : List (Nat × EvolutionProposal)) : List (Nat × EvolutionProposal) :=
  found.filter fun candidate => (findExistingRepairProposal proposals candidate.1).isNone

/-- The report of proposals that get the identifiers from a number on. -/
def createdFrom : Nat → List (Nat × EvolutionProposal) → List Created
  | _, [] => []
  | next, (id, record) :: rest => ⟨next, id, record.riskLevel⟩ :: createdFrom (next + 1) rest

variable {tree llm} {repairing next : Repairing} {id : Nat} {entry : WikiErrorBook}

/-- A draft names its entry in its payload. -/
theorem errorId_of_draft {draft : Draft} (made : lowRiskRepairProposal tree id entry = .ok (some draft)) :
    Dict.get draft.payload "error_id" = .str (toString id) := by
  unfold lowRiskRepairProposal at made
  dsimp only at made
  split at made
  · split at made
    · cases made
    · obtain rfl := Option.some.inj (Except.ok.inj made)
      rfl
  · split at made
    · split at made
      · cases made
      · obtain ⟨content, _, same⟩ := map_eq_ok.1 made
        obtain rfl := Option.some.inj same
        rfl
    · cases made

/-- A record of an entry names it in its evidence, too. -/
theorem namesError_repairRecord {draft : Draft} {riskLevel text : String} {extraEvidence : Dict}
    (named : Dict.get draft.payload "error_id" = .str (toString id)) :
    namesError (repairRecord id entry draft riskLevel extraEvidence) text = true ↔ toString id = text := by
  have whole : ∀ text : String, ((Json.str text).or (.str "")).toStr = text := by
    intro text
    rw [Json.or_str]
    rfl
  have evidence : (evidenceError (repairRecord id entry draft riskLevel extraEvidence)).get "id" = .str (toString id) := rfl
  have payload : (repairRecord id entry draft riskLevel extraEvidence).payload = draft.payload := rfl
  unfold namesError
  rw [evidence, payload, named, whole, decide_eq_true_eq, or_self]

theorem namesError_of_offer {target : Option (String × String)} {record : EvolutionProposal}
    (offer : offerOf tree llm id entry = some (target, record)) (text : String) :
    namesError record text = true ↔ toString id = text := by
  unfold offerOf at offer
  split at offer
  · cases offer
  · split at offer
    · split at offer
      next draft made =>
        obtain ⟨_, rfl⟩ := Prod.mk.inj (Option.some.inj offer)
        exact namesError_repairRecord (errorId_of_draft made)
      next => cases offer
    · split at offer
      · cases offer
      · obtain ⟨_, rfl⟩ := Prod.mk.inj (Option.some.inj offer)
        exact namesError_repairRecord rfl

/-- What the search for a live proposal leads to: one is found, or the record is proposed. -/
inductive Proposed (id : Nat) (record : EvolutionProposal) (before after : Repairing) : Prop
  | named (existing : findExistingRepairProposal before.proposals id ≠ none) (proposals : after.proposals = before.proposals)
      (created : after.created = before.created)
  | free (existing : findExistingRepairProposal before.proposals id = none)
      (proposals : after.proposals = before.proposals.insert record)
      (created : after.created = before.created ++ [⟨before.proposals.size, id, record.riskLevel⟩])

theorem proposed (repairing : Repairing) (id : Nat) (entry : WikiErrorBook) (record : EvolutionProposal) :
    Proposed id record repairing (repairing.propose id entry record) := by
  unfold Repairing.propose
  cases existing : findExistingRepairProposal repairing.proposals id with
  | none => exact .free existing rfl rfl
  | some other => exact .named (by rw [existing]; exact Option.some_ne_none other) rfl rfl

@[simp] theorem seen_propose (repairing : Repairing) (id : Nat) (entry : WikiErrorBook) (record : EvolutionProposal) :
    (repairing.propose id entry record).seen = repairing.seen := by
  unfold Repairing.propose
  cases findExistingRepairProposal repairing.proposals id with
  | none => rfl
  | some other => rfl

/-- The entry is passed over, as nothing is offered for it or what is offered has been seen before. -/
structure Passed (tree : WikiTree) (llm : Option Diagnostician) (id : Nat) (entry : WikiErrorBook)
    (before after : Repairing) : Prop where
  proposals : after.proposals = before.proposals
  created : after.created = before.created
  seen : after.seen = before.seen
  offers : ∀ target record, offerOf tree llm id entry = some (target, record) → target.any (· ∈ before.seen) = true

theorem repairError_cases (ran : repairError tree llm repairing id entry = .ok next) :
    Passed tree llm id entry repairing next ∨
      ∃ target record, offerOf tree llm id entry = some (target, record) ∧ target.any (· ∈ repairing.seen) = false ∧
        next.seen = target.toList ++ repairing.seen ∧ Proposed id record repairing next := by
  rw [repairError] at ran
  by_cases closed : entry.status ≠ "open"
  · rw [if_pos closed] at ran
    cases ran
    have offer : offerOf tree llm id entry = none := by rw [offerOf, if_pos closed]
    exact .inl ⟨rfl, rfl, rfl, fun _ _ known => by rw [offer] at known; cases known⟩
  rw [if_neg closed] at ran
  by_cases low : entry.errorType ∈ lowRiskRepairTypes
  · rw [if_pos low] at ran
    obtain ⟨drafted, made, rfl⟩ := map_eq_ok.1 ran
    have offer : offerOf tree llm id entry =
        drafted.map fun draft => (some draft.target, repairRecord id entry draft "low" []) := by
      rw [offerOf, if_neg closed, if_pos low, made]
      cases drafted <;> rfl
    cases drafted with
    | none => exact .inl ⟨rfl, rfl, rfl, fun _ _ known => by rw [offer] at known; cases known⟩
    | some draft =>
      dsimp only
      by_cases seen : draft.target ∈ repairing.seen
      · rw [if_pos seen]
        refine .inl ⟨rfl, rfl, rfl, fun target record known => ?_⟩
        rw [offer, Option.map_some] at known
        obtain ⟨rfl, _⟩ := Prod.mk.inj (Option.some.inj known)
        exact decide_eq_true seen
      · rw [if_neg seen]
        right
        refine ⟨_, _, offer, decide_eq_false seen, seen_propose _ _ _ _, ?_⟩
        cases proposed { repairing with seen := draft.target :: repairing.seen } id entry
            (repairRecord id entry draft "low" []) with
        | named existing proposals created => exact .named existing proposals created
        | free existing proposals created => exact .free existing proposals created
  rw [if_neg low] at ran
  by_cases untyped : entry.errorType = ""
  · rw [if_pos untyped] at ran
    cases ran
    have offer : offerOf tree llm id entry = none := by rw [offerOf, if_neg closed, if_neg low, if_pos untyped]
    exact .inl ⟨rfl, rfl, rfl, fun _ _ known => by rw [offer] at known; cases known⟩
  · rw [if_neg untyped] at ran
    cases ran
    have offer : offerOf tree llm id entry = some (none, reviewRecord llm id entry) := by
      rw [offerOf, if_neg closed, if_neg low, if_neg untyped]
    exact .inr ⟨_, _, offer, rfl, seen_propose _ _ _ _, proposed _ _ _ _⟩

theorem findExisting_insert {record : EvolutionProposal} {other : Nat} (apart : namesError record (toString other) = false)
    (proposals : Table EvolutionProposal) :
    findExistingRepairProposal (proposals.insert record) other = findExistingRepairProposal proposals other :=
  Table.find?_insert_of_false (by rw [apart, Bool.and_false]) proposals

variable {book : Table WikiErrorBook}

/-- A candidate is one of the entries, with what is proposed for it. -/
theorem offer_of_candidate {seen : List (String × String)} {ids : List Nat} {candidate : Nat × EvolutionProposal}
    (member : candidate ∈ candidates tree llm book seen ids) : candidate.1 ∈ ids ∧
      ∃ entry target, book.get? candidate.1 = some entry ∧ offerOf tree llm candidate.1 entry = some (target, candidate.2) := by
  induction ids generalizing seen with
  | nil => cases member
  | cons id rest ih =>
    have later : ∀ seen, candidate ∈ candidates tree llm book seen rest → candidate.1 ∈ id :: rest ∧
        ∃ entry target, book.get? candidate.1 = some entry ∧
          offerOf tree llm candidate.1 entry = some (target, candidate.2) :=
      fun seen member => (ih member).imp_left (List.mem_cons_of_mem id)
    rw [candidates] at member
    split at member
    · exact later _ member
    next target record offered =>
      split at member
      · exact later _ member
      · rcases List.mem_cons.1 member with rfl | member
        · obtain ⟨entry, found, offer⟩ := Option.bind_eq_some_iff.1 offered
          exact ⟨List.mem_cons_self, entry, target, found, offer⟩
        · exact later _ member

theorem unnamed_cons_of_named {proposals : Table EvolutionProposal} {record : EvolutionProposal}
    (existing : findExistingRepairProposal proposals id ≠ none) (found : List (Nat × EvolutionProposal)) :
    unnamed proposals ((id, record) :: found) = unnamed proposals found :=
  List.filter_cons_of_neg (by simpa using existing)

theorem unnamed_cons_of_free {proposals : Table EvolutionProposal} {record : EvolutionProposal}
    (existing : findExistingRepairProposal proposals id = none) (found : List (Nat × EvolutionProposal)) :
    unnamed proposals ((id, record) :: found) = (id, record) :: unnamed proposals found :=
  List.filter_cons_of_pos (by simpa using existing)

/-- The record of an entry names none of the other entries. -/
theorem unnamed_insert {target : Option (String × String)} {record : EvolutionProposal} {seen : List (String × String)}
    {ids : List Nat} (offer : offerOf tree llm id entry = some (target, record)) (alone : id ∉ ids)
    (proposals : Table EvolutionProposal) :
    unnamed (proposals.insert record) (candidates tree llm book seen ids) =
      unnamed proposals (candidates tree llm book seen ids) := by
  apply List.filter_congr
  intro candidate member
  have apart : namesError record (toString candidate.1) = false := by
    rw [Bool.eq_false_iff]
    intro names
    have same : id = candidate.1 := Text.toString_nat_injective ((namesError_of_offer offer _).1 names)
    exact alone (same ▸ (offer_of_candidate member).1)
  rw [findExisting_insert apart]

/-- A run creates the proposals of the candidates that no live proposal names. -/
theorem repairErrors_ok {ids : List Nat} (distinct : ids.Nodup)
    (ran : repairErrors tree llm book repairing ids = .ok next) :
    next.proposals.rows = repairing.proposals.rows ++
        (unnamed repairing.proposals (candidates tree llm book repairing.seen ids)).map Prod.snd ∧
      next.created = repairing.created ++ createdFrom repairing.proposals.size
        (unnamed repairing.proposals (candidates tree llm book repairing.seen ids)) := by
  induction ids generalizing repairing with
  | nil =>
    cases ran
    exact ⟨(List.append_nil _).symm, (List.append_nil _).symm⟩
  | cons id rest ih =>
    obtain ⟨alone, distinctRest⟩ := List.nodup_cons.1 distinct
    rw [repairErrors] at ran
    rw [candidates]
    cases found : book.get? id with
    | none =>
      rw [found] at ran
      exact ih distinctRest ran
    | some entry =>
      rw [found] at ran
      obtain ⟨step, stepped, later⟩ := bind_eq_ok.1 ran
      obtain ⟨rows, report⟩ := ih distinctRest later
      rw [Option.bind_some]
      rcases repairError_cases stepped with passed | ⟨target, record, offer, fresh, seen, outcome⟩
      · rw [passed.proposals, passed.seen] at rows report
        rw [passed.created] at report
        cases offer : offerOf tree llm id entry with
        | none => exact ⟨rows, report⟩
        | some offered =>
          dsimp only
          rw [if_pos (passed.offers _ _ offer)]
          exact ⟨rows, report⟩
      · rw [seen] at rows report
        rw [offer]
        dsimp only
        rw [if_neg (by rw [fresh]; exact Bool.false_ne_true)]
        cases outcome with
        | named existing proposals created =>
          rw [proposals] at rows report
          rw [created] at report
          rw [unnamed_cons_of_named existing]
          exact ⟨rows, report⟩
        | free existing proposals created =>
          rw [proposals, unnamed_insert offer alone] at rows report
          rw [created] at report
          rw [unnamed_cons_of_free existing]
          constructor
          · rw [rows, Table.insert, List.map_cons, List.append_assoc]
            rfl
          · rw [report, Table.size_insert, createdFrom, List.append_assoc]
            rfl

variable [FloatData] [DateData] {service : WikiService} {order : ErrorOrder}

/-- A repair lints, and creates the proposals of the candidates among the rows that it goes through. -/
theorem repair_returned {errorIds : List String} {now : Int} {state after : State} {report : RepairReport}
    (ran : repair tree llm service order errorIds now state = .ok (report, after)) :
    ∃ entries ids, lint service tree now state.db = .ok (entries, after.db) ∧ ids.Nodup ∧
      (errorIds = [] → ids = order.newest after.db.errors) ∧
      after.proposals.rows = state.proposals.rows ++
        (unnamed state.proposals (candidates tree llm after.db.errors [] ids)).map Prod.snd ∧
      report.created = createdFrom state.proposals.size
        (unnamed state.proposals (candidates tree llm after.db.errors [] ids)) := by
  rw [repair] at ran
  obtain ⟨⟨entries, db⟩, linted, rest⟩ := bind_eq_ok.1 ran
  obtain ⟨repairing, made, same⟩ := map_eq_ok.1 rest
  obtain ⟨rfl, rfl⟩ := Prod.mk.inj same
  obtain ⟨rows, created⟩ := repairErrors_ok ((order.distinct db.errors).filter _) made
  refine ⟨entries, _, linted, (order.distinct db.errors).filter _, ?_, rows, created⟩
  rintro rfl
  rw [List.filter_eq_self]
  intro id _
  simp

end Runs

end SoulClaw.Wiki.Repairs
