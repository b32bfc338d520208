import SoulClaw.Wiki.Archive
import SoulClaw.Wiki.IndexLinks
import SoulClaw.Wiki.Malformed

/-! The pending repairs of the index. Each carries the whole index as it was when the repair ran, with one more link, and
writes it when it is applied; so the last one that is applied decides. -/

namespace SoulClaw.Wiki.IndexRepairs
open Foundation Files Markdown Compile Lint Storage Proposals Archive Repairs IndexLinks Scans Keys

/-! One proposal. -/

section Proposal
variable [CharData]

/-- The page for which a proposal has been made. -/
def repairPage (proposal : EvolutionProposal) : String := ((proposal.payload.get "page_key").or (.str "")).toStr

/-- The proposal can be applied, and writes the index of `text` with a link to its page. -/
structure IndexRepair (text : String) (proposal : EvolutionProposal) : Prop where
  ready : applicable proposal = .ok ()
  action : proposal.action = "update_index"
  path : proposalPath proposal.payload "index.md" = .ok [indexName]
  content : ((proposal.payload.get "content").or (.str "")).toStr = withLink text (repairPage proposal)
  normal : ∀ c ∈ (repairPage proposal).toList, keyChar c = true

theorem proposalPath_index {payload : Dict} (path : payload.get "path" = .str "index.md") (default : String) :
    proposalPath payload default = .ok [indexName] := by
  have raw : ((payload.get "path").or (.str default)).toStr = "index.md" := by
    rw [path]
    rfl
  have parsed : PurePath.parse "index.md" = ⟨false, [indexName]⟩ := by decide +kernel
  have some' : "index.md" ≠ "" := by decide
  simp only [proposalPath, raw, if_neg some', parsed]
  exact if_neg (by decide)

theorem indexRepair_of_draft {tree : WikiTree} {id : Nat} {entry : WikiErrorBook} {text : String} {draft : Draft}
    (read : tree.readOptionalFile "index.md" = .ok text)
    (made : lowRiskRepairProposal tree id entry = .ok (some draft)) (updates : draft.action = "update_index") :
    IndexRepair text (repairRecord id entry draft "low" []) := by
  unfold lowRiskRepairProposal at made
  dsimp only at made
  split at made
  · split at made
    · cases made
    · obtain rfl := Option.some.inj (Except.ok.inj made)
      exact absurd updates (by decide : "create_page" ≠ "update_index")
  · split at made
    · split at made
      · cases made
      · rw [indexContentWithLink, read] at made
        obtain rfl := Option.some.inj (Except.ok.inj made)
        have named : ∀ key : String, ((Json.str key).or (.str "")).toStr = key := by
          intro key
          rw [Json.or_str]
          rfl
        refine ⟨rfl, rfl, proposalPath_index rfl _, ?_, ?_⟩
        · exact (named _).trans (congrArg (withLink text) (named _)).symm
        · intro c member
          exact (normal_normalizePageKey entry.pageKey).kept c (named (normalizePageKey entry.pageKey) ▸ member)
    · cases made

/-- A repair that offers to update the index offers this. -/
theorem indexRepair_of_offer {tree : WikiTree} {llm : Option Diagnostician} {id : Nat} {entry : WikiErrorBook} {text : String}
    {target : Option (String × String)} {record : EvolutionProposal} (read : tree.readOptionalFile "index.md" = .ok text)
    (offer : offerOf tree llm id entry = some (target, record)) (updates : record.action = "update_index") :
    IndexRepair text record := by
  unfold offerOf at offer
  split at offer
  · cases offer
  · split at offer
    · split at offer
      next draft made =>
        obtain ⟨_, rfl⟩ := Prod.mk.inj (Option.some.inj offer)
        exact indexRepair_of_draft read made updates
      next => cases offer
    · split at offer
      · cases offer
      · obtain ⟨_, rfl⟩ := Prod.mk.inj (Option.some.inj offer)
        exact absurd updates (by decide : "append_log" ≠ "update_index")

end Proposal

/-! Applying proposals. -/

section Apply
variable [CharData] {places : Places} {disk : Disk} {text : String}

/-- The wiki has its root, and an index that can be read, if any. -/
structure Readable (places : Places) (disk : Disk) : Prop where
  closed : Closed disk
  inside : node disk places.root = some .directory
  index : ∃ before, readPath places.root [indexName] disk = .ok before

omit [CharData] in
theorem apart_root (root : Path) (name : Name) : root ≠ root ++ [name] := by
  intro same
  have lengths := congrArg List.length same
  simp at lengths

omit [CharData] in
theorem readable_of_index {content : String} (closed : Closed disk) (inside : node disk places.root = some .directory)
    (index : node disk (places.root ++ [indexName]) = some (.file (some content))) : Readable places disk := by
  refine ⟨closed, inside, ?_⟩
  rw [readPath, index]
  exact ⟨_, rfl⟩

omit [CharData] in
/-- Writing the index changes nothing else. -/
theorem writePath_index (readable : Readable places disk) (content : String) :
    ∃ acted, writePath places.root [indexName] content disk = .ok acted ∧ Closed acted ∧
      node acted places.root = some .directory ∧
      node acted (places.root ++ [indexName]) = some (.file (some content)) := by
  have leaf : node disk (places.root ++ [indexName]) ≠ some .directory := by
    obtain ⟨before, read⟩ := readable.index
    intro directory
    rw [readPath, directory] at read
    cases read
  have parent : node disk (places.root ++ [indexName]).dropLast = some .directory := by
    rw [List.dropLast_concat]
    exact readable.inside
  obtain ⟨acted, changed, closed, nodes⟩ := change_returns readable.closed (by simp) parent leaf fun _ => some content
  refine ⟨acted, ?_, closed, ?_, ?_⟩
  · rw [writePath, List.dropLast_concat, makeDirectories_existing readable.closed readable.inside]
    exact changed
  · rw [nodes, if_neg (apart_root _ _), readable.inside]
  · rw [nodes, if_pos rfl]

/-- A line in the log, if there is place for it, leaves the index as it is. -/
theorem appendLog_index {entry actor stamp content : String} {logged : Disk} (closed : Closed disk)
    (inside : node disk places.root = some .directory)
    (index : node disk (places.root ++ [indexName]) = some (.file (some content)))
    (appends : appendLog places.root entry actor stamp disk = .ok logged) : Closed logged ∧
      node logged places.root = some .directory ∧
      node logged (places.root ++ [indexName]) = some (.file (some content)) := by
  rw [appendLog] at appends
  split at appends
  · obtain rfl := Except.ok.inj appends
    exact ⟨closed, inside, index⟩
  · rw [makeDirectories_existing closed inside] at appends
    have line := (change_ok (by simp) appends).2
    refine ⟨change_closed closed (by simp) appends, ?_, ?_⟩
    · rw [line, if_neg (apart_root _ _), inside]
    · rw [line, if_neg (by simp [indexName, logName]), index]

variable [FloatData] [DateData] {service : WikiService} {state : State} {proposal : EvolutionProposal}

/-- However the call ends, the index has the content of the proposal, and the other proposals stay. -/
theorem attempt_index (readable : Readable places disk) (request : Request)
    (found : state.proposals.get? request.id = some proposal) (repairs : IndexRepair text proposal) :
    ∃ last next, attempt places request.clock request.actor service disk state request.id = (last, next) ∧
      Closed last ∧ node last places.root = some .directory ∧
      node last (places.root ++ [indexName]) = some (.file (some (withLink text (repairPage proposal)))) ∧
      ∀ other, other ≠ request.id → next.proposals.get? other = state.proposals.get? other := by
  obtain ⟨before, read⟩ := readable.index
  obtain ⟨acted, wrote, closed, inside, index⟩ := writePath_index readable (withLink text (repairPage proposal))
  have action : (applyAction places request.clock request.actor proposal).exec disk =
      (.ok (beforeOf (posix [indexName]) before, posix [indexName]), acted) := by
    have named : (Program.ofExcept (proposalPath proposal.payload "index.md") : FileM Raw Path).exec disk =
        (.ok [indexName], disk) := by
      rw [Program.exec_ofExcept, repairs.path]
    have look : (Program.look (readPath places.root [indexName]) : FileM Raw String).exec disk = (.ok before, disk) := by
      rw [Program.exec_look, read]
    rw [applyAction, repairs.action, if_pos (by decide), if_pos rfl, writePage, Program.exec_bind_of_ok _ named,
      Program.exec_bind_of_ok _ look, repairs.content, Program.exec_bind_of_ok _ (Program.exec_write_of_ok wrote)]
    rfl
  cases entry : appendLog places.root (appliedEntry request.id proposal.action (posix [indexName])) request.actor
      request.clock.stamp acted with
  | error raised =>
    have checked : (Program.ofExcept (applicable proposal) : FileM Raw Unit).exec disk = (.ok (), disk) := by
      rw [Program.exec_ofExcept, repairs.ready]
    have fails : (Program.write (appendLog places.root (appliedEntry request.id proposal.action (posix [indexName]))
        request.actor request.clock.stamp)).exec acted = (.error raised, acted) := by
      rw [Program.exec_write, entry]
    have ran : (applyProposal places request.clock request.actor service state request.id).exec disk =
        (.error raised, acted) := by
      rw [applyProposal, found]
      dsimp only
      rw [Program.exec_bind_of_ok _ checked, Program.exec_bind_of_ok _ action]
      dsimp only
      rw [Program.exec_bind_of_error _ fails]
    exact ⟨acted, state, by rw [attempt, ran], closed, inside, index, fun other _ => rfl⟩
  | ok logged =>
    obtain ⟨closed', inside', index'⟩ := appendLog_index closed inside index entry
    have ran := applyProposal_exec service found repairs.ready action entry
    rw [compileDisk_exec service request.clock closed' inside'] at ran
    cases compiled : compile service (treeOf places.root logged) request.clock.now state.db with
    | error raised =>
      rw [compiled] at ran
      exact ⟨logged, state, by rw [attempt, ran], closed', inside', index', fun other _ => rfl⟩
    | ok made =>
      rw [compiled] at ran
      exact ⟨logged, _, by rw [attempt, ran], closed', inside', index', fun other apart => Table.get?_set_ne _ _ apart⟩

/-- The calls one after the other. -/
def applyAll (places : Places) (service : WikiService) (world : Disk × State) (requests : List Request) : Disk × State :=
  requests.foldl (fun world request =>
    attempt places request.clock request.actor service world.1 world.2 request.id) world

/-- The last call decides what the index is. -/
theorem applyAll_index {world : Disk × State} (readable : Readable places world.1) (requests : List Request)
    (last : Request) (distinct : ((requests ++ [last]).map Request.id).Nodup)
    (repairs : ∀ request ∈ requests ++ [last], ∃ proposal, world.2.proposals.get? request.id = some proposal ∧
      IndexRepair text proposal) : ∃ proposal, world.2.proposals.get? last.id = some proposal ∧
        node (applyAll places service world (requests ++ [last])).1 (places.root ++ [indexName]) =
          some (.file (some (withLink text (repairPage proposal)))) := by
  induction requests generalizing world with
  | nil =>
    obtain ⟨proposal, found, repair⟩ := repairs last (List.mem_singleton_self last)
    obtain ⟨after, next, ran, _, _, index, _⟩ := @attempt_index _ places world.1 text _ _ service _ _ readable last found repair
    refine ⟨proposal, found, ?_⟩
    rw [List.nil_append, applyAll, List.foldl_cons, ran]
    exact index
  | cons request rest ih =>
    obtain ⟨proposal, found, repair⟩ := repairs request List.mem_cons_self
    obtain ⟨after, next, ran, closed, inside, index, kept⟩ :=
      @attempt_index _ places world.1 text _ _ service _ _ readable request found repair
    rw [List.cons_append, List.map_cons, List.nodup_cons] at distinct
    have others : ∀ other ∈ rest ++ [last], next.proposals.get? other.id = world.2.proposals.get? other.id := by
      intro other member
      apply kept
      intro same
      exact distinct.1 (same ▸ List.mem_map_of_mem member)
    have later := @ih (after, next) (readable_of_index closed inside index) distinct.2 fun other member => by
      obtain ⟨proposal, found, repair⟩ := repairs other (List.mem_cons_of_mem _ member)
      exact ⟨proposal, (others other member).trans found, repair⟩
    obtain ⟨proposal, found, final⟩ := later
    refine ⟨proposal, (others last (List.mem_append_right _ (List.mem_singleton_self last))).symm.trans found, ?_⟩
    rw [List.cons_append, applyAll, List.foldl_cons, ran]
    exact final

end Apply

/-! The proposals of one repair. -/

section Repair
variable [CharData] [FloatData] [DateData] {places : Places} {service : WikiService} {llm : Option Diagnostician}
  {order : ErrorOrder} {errorIds : List String} {now : Int} {disk : Disk} {state next : State} {report : RepairReport}
  {text : String}

/-- The proposals for the index that a repair has created. -/
def indexRepairs (report : RepairReport) (proposals : Table EvolutionProposal) : List Nat :=
  (report.created.map Created.proposalId).filter fun id =>
    (proposals.get? id).any fun proposal => proposal.action = "update_index"

/-- The pages for which they have been created. -/
def repairPages (report : RepairReport) (proposals : Table EvolutionProposal) : List String :=
  (indexRepairs report proposals).filterMap fun id => (proposals.get? id).map repairPage

omit [CharData] [FloatData] [DateData] in
theorem proposalId_createdFrom (start : Nat) (found : List (Nat × EvolutionProposal)) :
    (createdFrom start found).map Created.proposalId = List.range' start found.length := by
  induction found generalizing start with
  | nil => rfl
  | cons candidate rest ih => rw [createdFrom, List.map_cons, ih, List.length_cons, List.range'_succ]

theorem indexRepairs_spec {tree : WikiTree} (read : tree.readOptionalFile "index.md" = .ok text)
    (returned : repair tree llm service order errorIds now state = .ok (report, next)) :
    (indexRepairs report next.proposals).Nodup ∧ ∀ id ∈ indexRepairs report next.proposals,
      ∃ proposal, next.proposals.get? id = some proposal ∧ IndexRepair text proposal := by
  obtain ⟨entries, ids, _, _, _, rows, created⟩ := repair_returned returned
  rw [indexRepairs, created, proposalId_createdFrom]
  refine ⟨(List.nodup_range' ..).filter _, ?_⟩
  intro id member
  obtain ⟨listed, updates⟩ := List.mem_filter.1 member
  obtain ⟨proposal, found, action⟩ := (Option.any_eq_true _ _).1 updates
  refine ⟨proposal, found, ?_⟩
  obtain ⟨place, inside, rfl⟩ := List.mem_range'.1 listed
  have candidate : proposal ∈ (unnamed state.proposals (candidates tree llm next.db.errors [] ids)).map Prod.snd := by
    rw [Table.get?, rows, Table.size, List.getElem?_append_right (by omega)] at found
    exact List.mem_of_getElem? found
  obtain ⟨offered, kept, rfl⟩ := List.mem_map.1 candidate
  obtain ⟨_, entry, target, _, offer⟩ := offer_of_candidate (List.mem_filter.1 kept).1
  exact indexRepair_of_offer read offer (of_decide_eq_true action)

/-- The index links the pages, and what it linked before. -/
def Composed (places : Places) (last : Disk) (text : String) (pages : List String) : Prop :=
  ∃ after, (treeOf places.root last).readOptionalFile "index.md" = .ok after ∧
    (∀ page ∈ pages, page ∈ linkKeys after) ∧ linkKeys text ⊆ linkKeys after

/-- A repair that returns has read the index. -/
theorem readable_of_repair (closed : Closed disk) (inside : node disk places.root = some .directory)
    (read : (treeOf places.root disk).readOptionalFile "index.md" = .ok text)
    (returned : repair (treeOf places.root disk) llm service order errorIds now state = .ok (report, next)) :
    Readable places disk ∧ '\r' ∉ text.toList := by
  obtain ⟨entries, _, linted, _⟩ := repair_returned returned
  have listed : Listed [indexName] := by constructor <;> decide +kernel
  rw [readOptionalFile_index] at read
  cases found : node disk (places.root ++ [indexName]) with
  | none =>
    rw [found] at read
    obtain rfl := Except.ok.inj read
    exact ⟨⟨closed, inside, "", by rw [readPath, found]⟩, by decide⟩
  | some here =>
    cases here with
    | directory =>
      obtain ⟨page, parsed, _⟩ := Malformed.wellFormed_of_returned linted _
        (mem_markdownPaths_treeOf.2 ⟨[indexName], _, by simp, listed, found, rfl⟩)
      cases parsed
    | file raw =>
      rw [found] at read
      refine ⟨⟨closed, inside, text, by rw [readPath, found]; exact read⟩, ?_⟩
      cases raw with
      | none => cases read
      | some content =>
        obtain rfl := Except.ok.inj read
        rw [String.toList_ofList]
        exact Lines.cr_notMem_universalNewlines _

omit [FloatData] [DateData] in
/-- What the index is after the last call. -/
theorem composed_of_last {last : Disk} {pages : List String} {proposal : EvolutionProposal}
    (repairs : IndexRepair text proposal) (plain : '\r' ∉ text.toList)
    (index : node last (places.root ++ [indexName]) = some (.file (some (withLink text (repairPage proposal))))) :
    Composed places last text pages ↔ ∀ page ∈ pages, page ∈ linkKeys (withLink text (repairPage proposal)) := by
  have read : (treeOf places.root last).readOptionalFile "index.md" = .ok (withLink text (repairPage proposal)) := by
    rw [readOptionalFile_index, index]
    dsimp only
    rw [readText, Lines.universalNewlines_eq_self_iff.2 (cr_notMem_withLink repairs.normal plain), String.ofList_toList]
  constructor
  · rintro ⟨after, read', linked, _⟩
    obtain rfl := Except.ok.inj (read.symm.trans read')
    exact linked
  · exact fun linked => ⟨_, read, linked, linkKeys_subset _ _⟩

omit [FloatData] [DateData] in
theorem mem_repairPages {proposals : Table EvolutionProposal} {page : String} :
    page ∈ repairPages report proposals ↔ ∃ id ∈ indexRepairs report proposals,
      ∃ proposal, proposals.get? id = some proposal ∧ repairPage proposal = page := by
  rw [repairPages, List.mem_filterMap]
  simp only [Option.map_eq_some_iff]

omit [CharData] [FloatData] [DateData] in
/-- Any of the proposals can be the last one. -/
theorem exists_ending {ids : List Nat} {id : Nat} (listed : id ∈ ids) :
    ∃ (requests : List Request) (last : Request), last.id = id ∧ ((requests ++ [last]).map Request.id).Perm ids := by
  let call : Nat → Request := fun id => ⟨id, ⟨0, "", ""⟩, ""⟩
  have same : Request.id ∘ call = fun id => id := rfl
  refine ⟨(ids.erase id).map call, call id, rfl, ?_⟩
  rw [List.map_append, List.map_map, List.map_singleton, same, List.map_id']
  exact (List.perm_append_singleton id _).trans (List.perm_cons_erase listed).symm

/-- A run that ends with a proposal leaves the index of this proposal. -/
theorem composed_iff_of_ending (closed : Closed disk) (inside : node disk places.root = some .directory)
    (read : (treeOf places.root disk).readOptionalFile "index.md" = .ok text)
    (returned : repair (treeOf places.root disk) llm service order errorIds now state = .ok (report, next))
    {requests : List Request} {last : Request}
    (order' : ((requests ++ [last]).map Request.id).Perm (indexRepairs report next.proposals)) :
    ∃ proposal, next.proposals.get? last.id = some proposal ∧
      (Composed places (applyAll places service (disk, next) (requests ++ [last])).1 text (repairPages report next.proposals) ↔
        ∀ page ∈ repairPages report next.proposals, page ∈ linkKeys (withLink text (repairPage proposal))) := by
  obtain ⟨distinct, spec⟩ := indexRepairs_spec read returned
  obtain ⟨readable, plain⟩ := readable_of_repair closed inside read returned
  have listed : ∀ request ∈ requests ++ [last], request.id ∈ indexRepairs report next.proposals :=
    fun request member => order'.mem_iff.1 (List.mem_map_of_mem member)
  obtain ⟨proposal, found, index⟩ := @applyAll_index _ places text _ _ service (disk, next) readable requests last
    (order'.nodup_iff.2 distinct) fun request member => spec _ (listed request member)
  obtain ⟨other, found', repair⟩ := spec _ (listed last (List.mem_append_right _ (List.mem_singleton_self last)))
  obtain rfl := Option.some.inj (found.symm.trans found')
  exact ⟨proposal, found, composed_of_last repair plain index⟩

/-- The pending repairs of the index compose in every order exactly where all pages but one are linked already. -/
theorem repairs_compose_iff (closed : Closed disk) (inside : node disk places.root = some .directory)
    (read : (treeOf places.root disk).readOptionalFile "index.md" = .ok text)
    (returned : repair (treeOf places.root disk) llm service order errorIds now state = .ok (report, next)) :
    (∀ requests : List Request, (requests.map Request.id).Perm (indexRepairs report next.proposals) →
      Composed places (applyAll places service (disk, next) requests).1 text (repairPages report next.proposals)) ↔
    Joinable text (repairPages report next.proposals) := by
  obtain ⟨_, spec⟩ := indexRepairs_spec read returned
  have kept : ∀ page ∈ repairPages report next.proposals, ∀ c ∈ page.toList, keyChar c = true := by
    intro page member
    obtain ⟨id, listed, proposal, found, rfl⟩ := mem_repairPages.1 member
    obtain ⟨other, found', repair⟩ := spec id listed
    obtain rfl := Option.some.inj (found.symm.trans found')
    exact repair.normal
  rw [joinable_iff kept]
  constructor
  · intro composes other member
    obtain ⟨id, listed, proposal, found, rfl⟩ := mem_repairPages.1 member
    obtain ⟨requests, last, rfl, order'⟩ := exists_ending listed
    obtain ⟨proposal', found', composed⟩ := composed_iff_of_ending closed inside read returned order'
    obtain rfl := Option.some.inj (found.symm.trans found')
    exact composed.1 (composes _ order')
  · intro carried requests order'
    rcases List.eq_nil_or_concat' requests with rfl | ⟨front, last, rfl⟩
    · refine ⟨text, read, ?_, List.Subset.refl _⟩
      intro page member
      obtain ⟨id, listed, _⟩ := mem_repairPages.1 member
      exact absurd (order'.mem_iff.2 listed) List.not_mem_nil
    · obtain ⟨proposal, found, composed⟩ := composed_iff_of_ending closed inside read returned order'
      have listed : last.id ∈ indexRepairs report next.proposals :=
        order'.mem_iff.1 (List.mem_map_of_mem (List.mem_append_right _ (List.mem_singleton_self last)))
      exact composed.2 (carried _ (mem_repairPages.2 ⟨_, listed, proposal, found, rfl⟩))

end Repair

section Demo
attribute [local instance] CharData.ascii FloatData.decimal DateData.undated

private theorem top_named : "wiki" ≠ "" ∧ '/' ∉ "wiki".toList := by decide +kernel

private def topName : Name := ⟨"wiki", top_named⟩

private theorem first_named : "a.md" ≠ "" ∧ '/' ∉ "a.md".toList := by decide +kernel

private def firstPage : Name := ⟨"a.md", first_named⟩

private def secondPage : Name := ⟨"b.md", by decide +kernel⟩

private def topPlaces : Places := ⟨[topName], [topName]⟩

/-- Pages, one of them the index. -/
private def pagesOf (names : List Name) : Disk :=
  names.foldl (fun disk name => setNode disk [topName, name] (.file (some "# Page"))) (setNode ∅ [topName] .directory)

private def repairOf (disk : Disk) : Except PyException (RepairReport × State) :=
  repair (treeOf [topName] disk) none Image.plainService ErrorOrder.latest [] 0 ⟨Image.noRows, Table.empty⟩

private def callOf (id : Nat) : Request := ⟨id, ⟨0, "t", "t"⟩, "admin"⟩

/-- The repair of the index that is applied last leaves out the page of the other one. -/
theorem index_repairs_lose_link : ∃ report next, repairOf (pagesOf [indexName, firstPage, secondPage]) = .ok (report, next) ∧
    ¬∀ requests : List Request, (requests.map Request.id).Perm (indexRepairs report next.proposals) →
      Composed topPlaces (applyAll topPlaces Image.plainService (pagesOf [indexName, firstPage, secondPage], next) requests).1 "# Page"
        (repairPages report next.proposals) := by
  have created : ((repairOf (pagesOf [indexName, firstPage, secondPage])).toOption.map fun out =>
      (indexRepairs out.1 out.2.proposals, repairPages out.1 out.2.proposals,
        (out.2.proposals.get? 1).map repairPage)) = some ([0, 1], ["b", "a"], some "a") := by
    decide +kernel
  have links : "b" ∉ linkKeys (withLink "# Page" "a") := by decide +kernel
  obtain ⟨⟨report, next⟩, ran, found⟩ := Option.map_eq_some_iff.1 created
  simp only [Prod.mk.injEq] at found
  obtain ⟨ids, pages, page⟩ := found
  have returned := toOption_eq_some.1 ran
  have read : (treeOf [topName] (pagesOf [indexName, firstPage, secondPage])).readOptionalFile "index.md" = .ok "# Page" := by decide +kernel
  obtain ⟨distinct, spec⟩ := indexRepairs_spec read returned
  obtain ⟨readable, plain⟩ := @readable_of_repair _ _ _ topPlaces _ _ _ _ _ _ _ _ _ _ (by decide +kernel) (by decide +kernel)
    read returned
  rw [ids] at distinct spec
  obtain ⟨proposal, known, index⟩ := @applyAll_index _ topPlaces "# Page" _ _ Image.plainService (_, next) readable [callOf 0] (callOf 1)
    distinct fun request member => spec _ (List.mem_map_of_mem member)
  obtain ⟨other, known', repairs⟩ := spec 1 (by decide)
  obtain rfl := Option.some.inj (known.symm.trans known')
  refine ⟨report, next, returned, ?_⟩
  intro composes
  have linked := (composed_of_last repairs plain index).1 (composes [callOf 0, callOf 1] (.of_eq ids.symm)) "b"
    (pages ▸ List.mem_cons_self)
  rw [show next.proposals.get? 1 = some proposal from known, Option.map_some, Option.some.injEq] at page
  rw [page] at linked
  exact links linked

/-- The repair of a single page. -/
theorem single_repair_composes : ∃ report next, repairOf (pagesOf [indexName, firstPage]) = .ok (report, next) ∧
    repairPages report next.proposals = ["a"] ∧
    ∀ requests : List Request, (requests.map Request.id).Perm (indexRepairs report next.proposals) →
      Composed topPlaces (applyAll topPlaces Image.plainService (pagesOf [indexName, firstPage], next) requests).1 "# Page"
        (repairPages report next.proposals) := by
  have single : ((repairOf (pagesOf [indexName, firstPage])).toOption.map fun out => repairPages out.1 out.2.proposals) =
      some ["a"] := by
    decide +kernel
  obtain ⟨⟨report, next⟩, ran, pages⟩ := Option.map_eq_some_iff.1 single
  have joinable : Joinable "# Page" ["a"] := .inr ⟨"a", by decide +kernel, by decide +kernel⟩
  refine ⟨report, next, toOption_eq_some.1 ran, pages, ?_⟩
  have composes := @repairs_compose_iff _ _ _ topPlaces Image.plainService none ErrorOrder.latest [] 0 (pagesOf [indexName, firstPage])
    ⟨Image.noRows, Table.empty⟩ next report "# Page" (by decide +kernel) (by decide +kernel) (by decide +kernel)
    (toOption_eq_some.1 ran)
  apply composes.2
  rw [pages]
  exact joinable

end Demo

end SoulClaw.Wiki.IndexRepairs
