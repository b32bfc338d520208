import SoulClaw.Runtime.Dream
import SoulClaw.Skills.Stale

/-! What a review adds: how many proposals about a group are live after it. A review returns, and it leaves the files
as they are. -/

namespace SoulClaw.Runtime.DreamReview
open Foundation Files Wiki.Storage Dream
open Wiki.Proposals (EvolutionProposal)
open Skills.Package (SkillService)
open Skills.Service (ProposalRequest createProposal baselineOf)

/-! Groups have keys of their own. -/

def keys (groups : List (String × Group)) : List String := groups.map Prod.fst

theorem keys_changeGroup (change : Group → Group) (key : String) (groups : List (String × Group)) :
    keys (changeGroup change key groups) = if key ∈ keys groups then keys groups else keys groups ++ [key] := by
  induction groups with
  | nil => rfl
  | cons group rest ih =>
    obtain ⟨known, own⟩ := group
    rw [changeGroup]
    by_cases same : known = key
    · rw [if_pos same, if_pos (same ▸ List.mem_cons_self)]
      rfl
    · rw [if_neg same]
      show known :: keys (changeGroup change key rest) =
        if key ∈ known :: keys rest then known :: keys rest else known :: keys rest ++ [key]
      rw [ih]
      by_cases later : key ∈ keys rest
      · rw [if_pos later, if_pos (List.mem_cons_of_mem known later)]
      · rw [if_neg later, if_neg]
        · exact List.cons_append.symm
        · exact fun member => (List.mem_cons.1 member).elim (fun here => same here.symm) later

theorem nodup_changeGroups {Row : Type} (change : Row → Group → Group) (keyOf : Row → String) (rows : List Row)
    {groups : List (String × Group)} (unique : (keys groups).Nodup) :
    (keys (rows.foldl (fun groups row => changeGroup (change row) (keyOf row) groups) groups)).Nodup := by
  induction rows generalizing groups with
  | nil => exact unique
  | cons row rest ih =>
    apply ih
    rw [keys_changeGroup]
    by_cases known : keyOf row ∈ keys groups
    · rw [if_pos known]
      exact unique
    · rw [if_neg known]
      exact List.nodup_append.2 ⟨unique, List.nodup_singleton _, fun key member other added same =>
        known (List.mem_singleton.1 added ▸ same ▸ member)⟩

theorem nodup_groupEvidence [CharData] (memories : List MemoryRow) (failedRuns : List ToolRun) :
    (keys (groupEvidence memories failedRuns)).Nodup := by
  have none : (keys []).Nodup := List.nodup_nil
  have grouped := nodup_changeGroups (fun row group => { group with memories := group.memories ++ [row] })
    (fun row : MemoryRow => groupKey row.content row.kind) memories none
  have both := nodup_changeGroups (fun run group => { group with failedToolRuns := group.failedToolRuns ++ [run] })
    (fun run : ToolRun => groupKey (runText run) run.toolName) failedRuns grouped
  exact both.sublist (List.filter_sublist.map Prod.fst)

/-! Live proposals. -/

/-- The number of live proposals of a type about a group. -/
def liveCount (state : Skills.Service.State) (targetType key : String) : Nat :=
  state.proposals.count (liveFor targetType key)

theorem proposalExists_iff {state : Skills.Service.State} {key targetType : String} :
    proposalExists state.proposals key targetType = true ↔ liveCount state targetType key ≠ 0 := Table.find?_isSome

/-- What a proposal about a group adds to the live ones. -/
def added (targetType key : String) (state next : Skills.Service.State) : Prop :=
  ∀ other key', liveCount next other key' = liveCount state other key' + if other = targetType ∧ key' = key then 1 else 0

/-- Some proposal of the type is live for the group. -/
def Live (state : Skills.Service.State) (targetType key : String) : Prop :=
  ∃ id proposal, state.proposals.get? id = some proposal ∧ liveFor targetType key proposal = true

theorem live_iff {state : Skills.Service.State} {targetType key : String} :
    Live state targetType key ↔ liveCount state targetType key ≠ 0 := by
  rw [liveCount, Ne, Table.count_eq_zero, Live]
  push Not
  simp only [Bool.not_eq_false]

section Creation
variable [CharData] (service : SkillService) (state : Skills.Service.State) (disk : Disk) {request : ProposalRequest} {key : String}

theorem baselineOf_returns (targetType : String) (payload : Dict) :
    ∃ baseline, baselineOf service targetType payload disk = .ok baseline := by
  rw [baselineOf]
  split
  next files held =>
    by_cases package : targetType = "skill" ∧ Skills.Service.payloadKey payload ≠ ""
    · obtain ⟨dir, safe⟩ := Skills.Storage.safeSkillDir_returns service (Skills.Service.payloadKey payload)
      rw [if_pos package, safe]
      exact ⟨_, rfl⟩
    · rw [if_neg package]
      exact ⟨_, rfl⟩
  next => exact ⟨_, rfl⟩

/-- A proposal whose payload names a group is created, and it is live for the group. -/
theorem createProposal_adds (about : request.payload.lookup "dream_group_key" = some (.str key)) :
    ∃ id next, (createProposal service state request).exec disk = (.ok (id, next), disk) ∧
      added request.targetType key state next := by
  obtain ⟨baseline, taken⟩ := baselineOf_returns service disk request.targetType request.payload
  have kept : baseline.payload.lookup "dream_group_key" = some (.str key) := by
    rw [(Skills.Stale.baselineOf_ok taken).1 _ (by decide) (by decide), about]
  have looked : (Program.look (baselineOf service request.targetType request.payload) : FileM Raw _).exec disk =
      (.ok baseline, disk) := by
    rw [Program.exec_look, taken]
  refine ⟨_, _, by rw [createProposal, Program.exec_bind_of_ok _ looked]; rfl, ?_⟩
  intro other key'
  rw [liveCount, Table.count_insert]
  congr 1
  have pending : "pending" ∈ liveStatuses := by decide
  have same : (liveFor other key' { targetType := request.targetType, action := request.action
                                    riskLevel := request.riskLevel, evidence := request.evidence
                                    payload := baseline.payload, beforeSnapshot := baseline.beforeSnapshot
                                    targetChecksum := baseline.targetChecksum } = true) ↔
      other = request.targetType ∧ key' = key := by
    rw [liveFor, decide_eq_true_eq, kept, Option.some.injEq, Json.str.injEq]
    simp only [pending, true_and, eq_comm]
  by_cases fits : other = request.targetType ∧ key' = key
  · rw [if_pos (same.2 fits), if_pos fits]
  · rw [if_neg fun holds => fits (same.1 holds), if_neg fits]

end Creation

/-! The loops. -/

/-- The types of the proposals about a group of evidence. -/
def groupTypes : List String := ["skill", "memory", "wiki"]

/-- The groups without a live skill proposal have one more live proposal of each type. -/
def Grouped (groups : List (String × Group)) (state next : Skills.Service.State) : Prop :=
  ∀ targetType key, liveCount next targetType key = liveCount state targetType key +
    if targetType ∈ groupTypes ∧ key ∈ keys groups ∧ liveCount state "skill" key = 0 then 1 else 0

/-- The memories without a live memory proposal have one. -/
def Verified (rows : List MemoryRow) (state next : Skills.Service.State) : Prop :=
  ∀ targetType key, liveCount next targetType key =
    if targetType = "memory" ∧ key ∈ rows.map verifyKey then max 1 (liveCount state targetType key)
    else liveCount state targetType key

theorem grouped_nil (state : Skills.Service.State) : Grouped [] state state := by
  intro targetType key
  rw [if_neg fun both => List.not_mem_nil both.2.1]
  rfl

theorem verified_nil (state : Skills.Service.State) : Verified [] state state := by
  intro targetType key
  rw [if_neg fun both => List.not_mem_nil both.2]

/-- The proposals about a group do not count for the groups before it. -/
theorem Grouped.snoc {done : List (String × Group)} {group : String × Group} {state between next : Skills.Service.State}
    (grouped : Grouped done state between) (fresh : group.1 ∉ keys done) (more : Grouped [group] between next) :
    Grouped (done ++ [group]) state next := by
  intro targetType key
  have before : liveCount between "skill" group.1 = liveCount state "skill" group.1 := by
    rw [grouped, if_neg fun both => fresh both.2.1]
    rfl
  have one : key ∈ keys [group] ↔ key = group.1 := List.mem_singleton
  have grown : key ∈ keys (done ++ [group]) ↔ key ∈ keys done ∨ key = group.1 := by
    rw [keys, List.map_append, List.map_singleton, List.mem_append, List.mem_singleton]
    rfl
  rw [more, grouped, Nat.add_assoc]
  congr 1
  by_cases here : key = group.1
  · subst here
    rw [if_neg fun both => fresh both.2.1, Nat.zero_add, before]
    simp only [grown, one, or_true]
  · have absent : ¬(targetType ∈ groupTypes ∧ key ∈ keys [group] ∧ liveCount between "skill" key = 0) :=
      fun both => here (one.1 both.2.1)
    rw [if_neg absent, Nat.add_zero]
    simp only [grown, here, or_false]

theorem Verified.snoc {done : List MemoryRow} {row : MemoryRow} {state between next : Skills.Service.State}
    (verified : Verified done state between) (more : Verified [row] between next) : Verified (done ++ [row]) state next := by
  intro targetType key
  rw [more, verified, List.map_append]
  simp only [List.mem_append, List.map_singleton, List.mem_singleton]
  by_cases memory : targetType = "memory"
  · by_cases here : key = verifyKey row
    · by_cases known : verifyKey row ∈ done.map verifyKey
      · simp [memory, here, known]
      · simp [memory, here, known]
    · simp [memory, here]
  · simp [memory]

section Loops
variable [CharData] [FloatData] (runtime : DreamRuntime) (disk : Disk)

/-- The three proposals about a group are made where no skill proposal about it is live. -/
theorem reviewGroup_adds (made : Made) (group : String × Group) :
    ∃ next, (reviewGroup runtime made group).exec disk = (.ok next, disk) ∧ Grouped [group] made.2 next.2 := by
  have one : ∀ key, key ∈ keys [group] ↔ key = group.1 := fun key => List.mem_singleton
  rw [reviewGroup]
  by_cases exists' : proposalExists made.2.proposals group.1 "skill" = true
  · rw [if_pos exists']
    refine ⟨made, rfl, fun targetType key => ?_⟩
    rw [if_neg]
    · rfl
    · rintro ⟨_, here, none⟩
      exact proposalExists_iff.1 exists' ((one key).1 here ▸ none)
  · rw [if_neg exists']
    have none : liveCount made.2 "skill" group.1 = 0 := not_not.1 fun some' => exists' (proposalExists_iff.2 some')
    have skill : (skillRequest group.1 group.2).payload.lookup "dream_group_key" = some (.str group.1) := rfl
    have memory : (memoryRequest group.1 group.2).payload.lookup "dream_group_key" = some (.str group.1) := rfl
    have wiki : (wikiRequest group.1 group.2).payload.lookup "dream_group_key" = some (.str group.1) := rfl
    obtain ⟨id, second, first, adds⟩ := createProposal_adds runtime.skills made.2 disk skill
    obtain ⟨id', third, then', adds'⟩ := createProposal_adds runtime.skills second disk memory
    obtain ⟨id'', last, finally', adds''⟩ := createProposal_adds runtime.skills third disk wiki
    refine ⟨(made.1 ++ [id, id', id''], last), ?_, ?_⟩
    · rw [Program.exec_bind_of_ok _ first, Program.exec_bind_of_ok _ then', Program.exec_bind_of_ok _ finally']
      rfl
    intro targetType key
    show liveCount last targetType key = _
    rw [adds'', adds', adds]
    show _ + (if targetType = "skill" ∧ key = group.1 then 1 else 0) + (if targetType = "memory" ∧ key = group.1 then 1 else 0) +
      (if targetType = "wiki" ∧ key = group.1 then 1 else 0) = _
    by_cases here : key = group.1
    · by_cases skill : targetType = "skill"
      · simp [skill, here, one, none, groupTypes]
      · by_cases memory : targetType = "memory"
        · simp [memory, here, one, none, groupTypes]
        · simp [skill, memory, here, one, none, groupTypes]
    · simp [here, one]

theorem reviewGroups_adds (made : Made) {groups : List (String × Group)} (unique : (keys groups).Nodup) :
    ∃ next, (groups.foldlM (reviewGroup runtime) made).exec disk = (.ok next, disk) ∧ Grouped groups made.2 next.2 := by
  obtain ⟨next, _, ran, rfl, grouped⟩ := @Program.exec_foldlM _ _ disk _ (reviewGroup runtime) groups
    (fun done next last => last = disk ∧ Grouped done made.2 next.2)
    (by
      rintro done group later between _ split ⟨rfl, grouped⟩
      have fresh : group.1 ∉ keys done := by
        rw [split, keys, List.map_append, List.map_cons, List.nodup_append] at unique
        exact fun member => unique.2.2 _ member _ List.mem_cons_self rfl
      obtain ⟨next, ran, more⟩ := reviewGroup_adds runtime _ between group
      exact ⟨next, _, ran, rfl, grouped.snoc fresh more⟩)
    made ⟨rfl, grouped_nil made.2⟩
  exact ⟨next, ran, grouped⟩

/-- The proposal to verify a memory is made where none is live. -/
theorem reviewMemory_adds (made : Made) (row : MemoryRow) :
    ∃ next, (reviewMemory runtime made row).exec disk = (.ok next, disk) ∧ Verified [row] made.2 next.2 := by
  have one : ∀ key, key ∈ [row].map verifyKey ↔ key = verifyKey row := fun key => List.mem_singleton
  rw [reviewMemory]
  by_cases exists' : proposalExists made.2.proposals (verifyKey row) "memory" = true
  · rw [if_pos exists']
    refine ⟨made, rfl, fun targetType key => ?_⟩
    split
    next here =>
      have some' := proposalExists_iff.1 exists'
      rw [here.1, (one key).1 here.2, max_eq_right (Nat.one_le_iff_ne_zero.2 some')]
    next => rfl
  · rw [if_neg exists']
    have none : liveCount made.2 "memory" (verifyKey row) = 0 := not_not.1 fun some' => exists' (proposalExists_iff.2 some')
    have about : (verifyRequest row).payload.lookup "dream_group_key" = some (.str (verifyKey row)) := rfl
    obtain ⟨_, last, ran, adds⟩ := createProposal_adds runtime.skills made.2 disk about
    refine ⟨_, by rw [Program.exec_bind_of_ok _ ran]; rfl, fun targetType key => ?_⟩
    show liveCount last targetType key = _
    rw [adds]
    simp only [one]
    show _ + (if targetType = "memory" ∧ key = verifyKey row then 1 else 0) = _
    by_cases here : targetType = "memory" ∧ key = verifyKey row
    · rw [if_pos here, if_pos here, here.1, here.2, none]
      rfl
    · rw [if_neg here, if_neg here]
      rfl

theorem reviewMemories_adds (made : Made) (rows : List MemoryRow) :
    ∃ next, (rows.foldlM (reviewMemory runtime) made).exec disk = (.ok next, disk) ∧ Verified rows made.2 next.2 := by
  obtain ⟨next, _, ran, rfl, verified⟩ := @Program.exec_foldlM _ _ disk _ (reviewMemory runtime) rows
    (fun done next last => last = disk ∧ Verified done made.2 next.2)
    (by
      rintro done row later between _ - ⟨rfl, verified⟩
      obtain ⟨next, ran, more⟩ := reviewMemory_adds runtime _ between row
      exact ⟨next, _, ran, rfl, verified.snoc more⟩)
    made ⟨rfl, verified_nil made.2⟩
  exact ⟨next, ran, verified⟩

/-- The groups that a review makes of what it finds. -/
def groupsOf (now windowHours limit : Int) (found : Evidence) : List (String × Group) :=
  groupEvidence (recentErrorMemories runtime (windowStart now windowHours) limit found.memories.rows)
    (recentFailedToolRuns runtime (windowStart now windowHours) limit found.toolRuns)

/-- The memories that a review proposes to verify. -/
def doubtful (now windowHours limit : Int) (found : Evidence) : List MemoryRow :=
  lowStabilityMemories runtime (windowStart now windowHours) limit found.memories.rows

/-- A review proposes for its groups first, and then for its memories. -/
theorem runReview_adds (now windowHours limit : Int) (found : Evidence) (state : Skills.Service.State) :
    ∃ result middle next, (runReview runtime now windowHours limit found state).exec disk = (.ok (result, next), disk) ∧
      Grouped (groupsOf runtime now windowHours limit found) state middle ∧
        Verified (doubtful runtime now windowHours limit found) middle next := by
  let memories := recentErrorMemories runtime (windowStart now windowHours) limit found.memories.rows
  let failedRuns := recentFailedToolRuns runtime (windowStart now windowHours) limit found.toolRuns
  obtain ⟨middle, first, grouped⟩ := reviewGroups_adds runtime disk ([], state) (nodup_groupEvidence memories failedRuns)
  obtain ⟨next, second, verified⟩ := reviewMemories_adds runtime disk middle (doubtful runtime now windowHours limit found)
  refine ⟨⟨memories.length, failedRuns.length, next.1.length, next.1⟩, middle.2, next.2, ?_, grouped, verified⟩
  rw [runReview, Program.exec_bind_of_ok _ first]
  exact Program.exec_bind_of_ok _ second

end Loops

end SoulClaw.Runtime.DreamReview
