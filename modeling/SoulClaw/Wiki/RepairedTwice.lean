import SoulClaw.Wiki.Image
import SoulClaw.Wiki.Repairs

/-! Two repairs in a row. The second one knows the proposals of the first by the row of their entry, and the lint in front of
it replaces the rows of the problems that it finds again. -/

namespace SoulClaw.Wiki.RepairedTwice
open Foundation Markdown Compile Lint Proposals Repairs

/-! Problems and proposals. -/

/-- The entries are about one problem. -/
structure SameProblem (first second : WikiErrorBook) : Prop where
  errorType : first.errorType = second.errorType
  pageKey : first.pageKey = second.pageKey
  payload : first.payload = second.payload

/-- The proposal is a live one of a repair, for the problem of the entry. -/
structure Answers (proposal : EvolutionProposal) (entry : WikiErrorBook) : Prop where
  live : isLive proposal = true
  source : proposal.evidence.get "source" = .str "wiki_repair"
  errorType : (evidenceError proposal).get "error_type" = .str entry.errorType
  pageKey : (evidenceError proposal).get "page_key" = .str entry.pageKey
  payload : (evidenceError proposal).get "payload" = .obj entry.payload

instance (proposal : EvolutionProposal) (entry : WikiErrorBook) : Decidable (Answers proposal entry) :=
  decidable_of_iff (isLive proposal = true ∧ proposal.evidence.get "source" = .str "wiki_repair" ∧
      (evidenceError proposal).get "error_type" = .str entry.errorType ∧
      (evidenceError proposal).get "page_key" = .str entry.pageKey ∧
      (evidenceError proposal).get "payload" = .obj entry.payload)
    ⟨fun ⟨live, source, errorType, pageKey, payload⟩ => ⟨live, source, errorType, pageKey, payload⟩,
      fun ⟨live, source, errorType, pageKey, payload⟩ => ⟨live, source, errorType, pageKey, payload⟩⟩

def Answered (proposals : Table EvolutionProposal) (entry : WikiErrorBook) : Prop :=
  ∃ proposal ∈ proposals.rows, Answers proposal entry

theorem findExisting_eq_none [CharData] {proposals : Table EvolutionProposal} {id : Nat} :
    findExistingRepairProposal proposals id = none ↔
      ∀ proposal ∈ proposals.rows, isLive proposal = true → namesError proposal (toString id) = false := by
  rw [findExistingRepairProposal, Table.find?, List.findIdx?_eq_none_iff]
  apply forall₂_congr
  intro proposal _
  cases isLive proposal with
  | false => simp
  | true => simp

section Offers
variable [CharData] {tree : WikiTree} {llm : Option Diagnostician} {id : Nat} {entry : WikiErrorBook}
  {target : Option (String × String)} {record : EvolutionProposal}

omit [CharData] in
theorem answers_repairRecord {draft : Draft} {riskLevel : String} {extraEvidence : Dict} {other : WikiErrorBook} :
    Answers (repairRecord id entry draft riskLevel extraEvidence) other ↔ SameProblem entry other := by
  constructor
  · rintro ⟨_, _, errorType, pageKey, payload⟩
    exact ⟨Json.str.inj errorType, Json.str.inj pageKey, Json.obj.inj payload⟩
  · rintro ⟨errorType, pageKey, payload⟩
    refine ⟨rfl, rfl, ?_, ?_, ?_⟩
    · rw [← errorType]
      rfl
    · rw [← pageKey]
      rfl
    · rw [← payload]
      rfl

/-- What is offered for an entry answers its problem and is live. -/
theorem answers_of_offer (offer : offerOf tree llm id entry = some (target, record)) :
    isLive record = true ∧ ∀ other, Answers record other ↔ SameProblem entry other := by
  unfold offerOf at offer
  split at offer
  · cases offer
  · split at offer
    · split at offer
      · obtain ⟨_, rfl⟩ := Prod.mk.inj (Option.some.inj offer)
        exact ⟨rfl, fun other => answers_repairRecord⟩
      · cases offer
    · split at offer
      · cases offer
      · obtain ⟨_, rfl⟩ := Prod.mk.inj (Option.some.inj offer)
        exact ⟨rfl, fun other => answers_repairRecord⟩

end Offers

/-! What a run leaves. -/

section Run
variable [CharData] (tree : WikiTree) (llm : Option Diagnostician) (order : ErrorOrder)

/-- The rows for which a run looks for a live proposal, with what it offers for them. -/
def upcoming (book : Table WikiErrorBook) : List (Nat × EvolutionProposal) := candidates tree llm book [] (order.newest book)

variable {tree llm order} {proposals next : Table EvolutionProposal} {book : Table WikiErrorBook} {id : Nat}

/-- The proposals after a run: those from before, and the offers for the rows that none of them names. -/
def Repaired (tree : WikiTree) (llm : Option Diagnostician) (order : ErrorOrder) (book : Table WikiErrorBook)
    (proposals next : Table EvolutionProposal) : Prop :=
  next.rows = proposals.rows ++ (unnamed proposals (upcoming tree llm order book)).map Prod.snd

theorem mem_unnamed {found : List (Nat × EvolutionProposal)} {candidate : Nat × EvolutionProposal} :
    candidate ∈ unnamed proposals found ↔
      candidate ∈ found ∧ findExistingRepairProposal proposals candidate.1 = none := by
  rw [unnamed, List.mem_filter, Option.isNone_iff_eq_none]

/-- After a run the rows that have come up are named, beside those that have been named before. -/
theorem named_after (repaired : Repaired tree llm order book proposals next) :
    findExistingRepairProposal next id = none ↔
      findExistingRepairProposal proposals id = none ∧ id ∉ (upcoming tree llm order book).map Prod.fst := by
  have offers : ∀ candidate ∈ upcoming tree llm order book, isLive candidate.2 = true ∧
      (namesError candidate.2 (toString id) = true ↔ candidate.1 = id) := by
    intro candidate member
    obtain ⟨_, entry, target, _, offer⟩ := offer_of_candidate member
    refine ⟨(answers_of_offer offer).1, (namesError_of_offer offer _).trans ?_⟩
    exact ⟨fun same => Text.toString_nat_injective same, fun same => congrArg toString same⟩
  rw [findExisting_eq_none, repaired, List.forall_mem_append, ← findExisting_eq_none]
  apply and_congr_right
  intro free
  constructor
  · intro unnamed' up
    obtain ⟨candidate, member, same⟩ := List.mem_map.1 up
    obtain ⟨live, names⟩ := offers candidate member
    have made : candidate ∈ unnamed proposals (upcoming tree llm order book) := mem_unnamed.2 ⟨member, same ▸ free⟩
    have apart := unnamed' candidate.2 (List.mem_map_of_mem made) live
    rw [names.2 same] at apart
    cases apart
  · intro absent proposal made _
    obtain ⟨candidate, member, rfl⟩ := List.mem_map.1 made
    obtain ⟨_, names⟩ := offers candidate (mem_unnamed.1 member).1
    rw [Bool.eq_false_iff]
    intro named
    exact absent (List.mem_map.2 ⟨candidate, (mem_unnamed.1 member).1, names.1 named⟩)

/-- The problems that have a live proposal after a run. -/
theorem answered_after (repaired : Repaired tree llm order book proposals next) {entry : WikiErrorBook} :
    Answered next entry ↔ Answered proposals entry ∨ ∃ other ∈ (upcoming tree llm order book).map Prod.fst,
      findExistingRepairProposal proposals other = none ∧
        ∃ known, book.get? other = some known ∧ SameProblem known entry := by
  have either : Answered next entry ↔ Answered proposals entry ∨
      ∃ proposal ∈ (unnamed proposals (upcoming tree llm order book)).map Prod.snd, Answers proposal entry := by
    rw [Answered, repaired]
    simp only [List.mem_append, or_and_right, exists_or]
    rfl
  rw [either]
  apply or_congr_right
  constructor
  · rintro ⟨proposal, made, answers⟩
    obtain ⟨candidate, member, rfl⟩ := List.mem_map.1 made
    obtain ⟨up, free⟩ := mem_unnamed.1 member
    obtain ⟨_, known, target, found, offer⟩ := offer_of_candidate up
    exact ⟨candidate.1, List.mem_map_of_mem up, free, known, found, ((answers_of_offer offer).2 entry).1 answers⟩
  · rintro ⟨other, up, free, known, found, same⟩
    obtain ⟨candidate, member, rfl⟩ := List.mem_map.1 up
    obtain ⟨_, entry', target, found', offer⟩ := offer_of_candidate member
    obtain rfl := Option.some.inj (found.symm.trans found')
    exact ⟨candidate.2, List.mem_map_of_mem (mem_unnamed.2 ⟨member, free⟩), ((answers_of_offer offer).2 entry).2 same⟩

omit [CharData] in
theorem errorId_createdFrom (start : Nat) (found : List (Nat × EvolutionProposal)) :
    (createdFrom start found).map Created.errorId = found.map Prod.fst := by
  induction found generalizing start with
  | nil => rfl
  | cons candidate rest ih => rw [createdFrom, List.map_cons, List.map_cons, ih]

variable [FloatData] [DateData] {service : WikiService}

/-- The Error Book after a lint. -/
def relinted (now : Int) (entries : List WikiErrorBook) (book : Table WikiErrorBook) : Table WikiErrorBook :=
  addErrors (closeErrors lintTypes now book) entries

theorem repair_ok {now : Int} {entries : List WikiErrorBook} {state after : State} {report : RepairReport}
    (linted : lintErrors service tree now = .ok entries)
    (ran : repair tree llm service order [] now state = .ok (report, after)) :
    after.db.errors = relinted now entries state.db.errors ∧
      Repaired tree llm order after.db.errors state.proposals after.proposals ∧
      report.created.map Created.errorId =
        (unnamed state.proposals (upcoming tree llm order after.db.errors)).map Prod.fst := by
  obtain ⟨found, ids, made, _, every, rows, created⟩ := repair_returned ran
  rw [lint, linted] at made
  obtain ⟨rfl, same⟩ := Prod.mk.inj (Except.ok.inj made)
  rw [every rfl] at rows created
  refine ⟨by rw [← same]; rfl, rows, ?_⟩
  rw [created, errorId_createdFrom]
  rfl

end Run

/-! The second run. -/

section Second
variable [CharData] (tree : WikiTree)

/-- No row for which a proposal has been created is about a problem that had a live proposal. -/
def NoneRepeated (proposals : Table EvolutionProposal) (created : List Created) (book : Table WikiErrorBook) : Prop :=
  ∀ made ∈ created, ∀ entry, book.get? made.errorId = some entry → ¬Answered proposals entry

/-- A problem that comes up in the second run, and has a live proposal from before or comes up in the first run without
one, comes up again as a row that the first run has seen or that a live proposal names. -/
def KeepsRows (llm : Option Diagnostician) (order : ErrorOrder) (book : Table WikiErrorBook)
    (later : Option Diagnostician) (laterOrder : ErrorOrder) (laterBook : Table WikiErrorBook)
    (proposals : Table EvolutionProposal) : Prop :=
  ∀ id ∈ (upcoming tree later laterOrder laterBook).map Prod.fst, ∀ entry, laterBook.get? id = some entry →
    (Answered proposals entry ∨ ∃ other ∈ (upcoming tree llm order book).map Prod.fst,
      findExistingRepairProposal proposals other = none ∧ ∃ known, book.get? other = some known ∧ SameProblem known entry) →
    id ∈ (upcoming tree llm order book).map Prod.fst ∨ findExistingRepairProposal proposals id ≠ none

variable {tree} [FloatData] [DateData] {service : WikiService}

/-- A second repair repeats no proposal exactly where the problems keep their rows. -/
theorem none_repeated_iff {llm later : Option Diagnostician} {order laterOrder : ErrorOrder} {now then' : Int}
    {entries laterEntries : List WikiErrorBook} {state middle last : State} {report laterReport : RepairReport}
    (linted : lintErrors service tree now = .ok entries) (relints : lintErrors service tree then' = .ok laterEntries)
    (first : repair tree llm service order [] now state = .ok (report, middle))
    (second : repair tree later service laterOrder [] then' middle = .ok (laterReport, last)) :
    NoneRepeated middle.proposals laterReport.created last.db.errors ↔
      KeepsRows tree llm order (relinted now entries state.db.errors) later laterOrder
        (relinted then' laterEntries (relinted now entries state.db.errors)) state.proposals := by
  obtain ⟨book, repaired, _⟩ := repair_ok linted first
  obtain ⟨laterBook, _, created⟩ := repair_ok relints second
  rw [← book, ← laterBook, NoneRepeated, KeepsRows]
  constructor
  · intro none id up entry found known
    by_contra neither
    rw [not_or, not_not] at neither
    have free : findExistingRepairProposal middle.proposals id = Option.none :=
      (named_after repaired).2 ⟨neither.2, neither.1⟩
    obtain ⟨candidate, member, rfl⟩ := List.mem_map.1 up
    have listed : candidate.1 ∈ laterReport.created.map Created.errorId := by
      rw [created]
      exact List.mem_map_of_mem (mem_unnamed.2 ⟨member, free⟩)
    obtain ⟨made, member', same⟩ := List.mem_map.1 listed
    rw [← same] at found
    exact none made member' entry found ((answered_after repaired).2 known)
  · intro keeps made member entry found answered
    have listed := List.mem_map_of_mem (f := Created.errorId) member
    rw [created] at listed
    obtain ⟨candidate, member', same⟩ := List.mem_map.1 listed
    obtain ⟨up, free⟩ := mem_unnamed.1 member'
    rw [← same] at found
    obtain ⟨unnamed', unseen⟩ := (named_after repaired).1 free
    rcases keeps _ (List.mem_map_of_mem up) entry found ((answered_after repaired).1 answered) with seen | named
    · exact unseen seen
    · exact named unnamed'

end Second

section Demo
attribute [local instance] CharData.ascii FloatData.decimal DateData.undated

private def runRepair (tree : WikiTree) (now : Int) (state : State) : Except PyException (RepairReport × State) :=
  repair tree none Image.plainService ErrorOrder.latest [] now state

/-- A root without files. -/
private def emptyRoot : WikiTree := ⟨[], List.nodup_nil, fun _ => false⟩

/-- The missing canonical files are proposed again. -/
theorem repair_repeats_missing_files : ∃ report middle laterReport last,
    runRepair emptyRoot 0 ⟨Image.noRows, Table.empty⟩ = .ok (report, middle) ∧
      runRepair emptyRoot 0 middle = .ok (laterReport, last) ∧
      ¬NoneRepeated middle.proposals laterReport.created last.db.errors := by
  have repeats : ((runRepair emptyRoot 0 ⟨Image.noRows, Table.empty⟩).bind fun first =>
      (runRepair emptyRoot 0 first.2).map fun second => second.1.created.any fun made =>
        (second.2.db.errors.get? made.errorId).any fun entry =>
          first.2.proposals.rows.any fun proposal => Answers proposal entry).toOption = some true := by
    decide +kernel
  obtain ⟨⟨report, middle⟩, first, rest⟩ := bind_eq_ok.1 (toOption_eq_some.1 repeats)
  obtain ⟨⟨laterReport, last⟩, second, any⟩ := map_eq_ok.1 rest
  refine ⟨report, middle, laterReport, last, first, second, ?_⟩
  intro none
  obtain ⟨made, member, again⟩ := List.any_eq_true.1 any
  obtain ⟨entry, found, known⟩ := (Option.any_eq_true _ _).1 again
  obtain ⟨proposal, stored, answers⟩ := List.any_eq_true.1 known
  exact none made member entry found ⟨proposal, stored, of_decide_eq_true answers⟩

/-- A root whose canonical files are there. -/
private def quietRoot : WikiTree := ⟨[], List.nodup_nil, fun _ => true⟩

/-- A dangling link that a compile has found. -/
private def danglingBook : Table WikiErrorBook := ⟨[error "dangling_link" "a" "Unresolved wiki link: b" "" []]⟩

theorem repair_keeps_dangling : ∃ report middle laterReport last,
    runRepair quietRoot 0 ⟨{ Image.noRows with errors := danglingBook }, Table.empty⟩ = .ok (report, middle) ∧
      runRepair quietRoot 1 middle = .ok (laterReport, last) ∧
      NoneRepeated middle.proposals laterReport.created last.db.errors := by
  have returns : ((runRepair quietRoot 0 ⟨{ Image.noRows with errors := danglingBook }, Table.empty⟩).bind fun first =>
      runRepair quietRoot 1 first.2).toOption.isSome = true := by
    decide +kernel
  obtain ⟨⟨laterReport, last⟩, ran⟩ := Option.isSome_iff_exists.1 returns
  obtain ⟨⟨report, middle⟩, first, second⟩ := bind_eq_ok.1 (toOption_eq_some.1 ran)
  have quiet : ∀ now, lintErrors Image.plainService quietRoot now = .ok [] := fun now => rfl
  have same : (upcoming quietRoot none ErrorOrder.latest (relinted 1 [] (relinted 0 [] danglingBook))).map Prod.fst =
      (upcoming quietRoot none ErrorOrder.latest (relinted 0 [] danglingBook)).map Prod.fst := by
    decide +kernel
  refine ⟨report, middle, laterReport, last, first, second, (none_repeated_iff (quiet 0) (quiet 1) first second).2 ?_⟩
  intro id up _ _ _
  exact .inl (same ▸ up)

end Demo

end SoulClaw.Wiki.RepairedTwice
