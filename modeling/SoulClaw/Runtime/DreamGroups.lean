import SoulClaw.Runtime.DreamReview
import SoulClaw.Wiki.Keys

/-! How a review groups its evidence. The memories and the failed runs are folded into one map, one list after the
other, and every group holds the inputs under its key in their order. -/

namespace SoulClaw.Runtime.DreamGroups
open Foundation Dream DreamReview
open Wiki.Markdown (trim subRuns)

/-! Parts under distinct keys. -/

/-- The parts of a list under distinct keys that cover it make up the list. -/
theorem flatMap_filter_perm {Key Item : Type*} [DecidableEq Key] (keyOf : Item → Key) {keys : List Key} (unique : keys.Nodup)
    {items : List Item} (covered : ∀ item ∈ items, keyOf item ∈ keys) :
    (keys.flatMap fun key => items.filter fun item => keyOf item = key).Perm items := by
  induction keys generalizing items with
  | nil =>
    have none : items = [] := List.eq_nil_iff_forall_not_mem.2 fun item member => absurd (covered item member) List.not_mem_nil
    rw [none]
    rfl
  | cons key rest ih =>
    obtain ⟨fresh, unique⟩ := List.nodup_cons.1 unique
    have others : ∀ other ∈ rest, (items.filter fun item => keyOf item = other) =
        (items.filter fun item => !decide (keyOf item = key)).filter fun item => keyOf item = other := by
      intro other member
      rw [List.filter_filter]
      apply List.filter_congr
      intro item _
      by_cases same : keyOf item = other
      · have apart : keyOf item ≠ key := fun here => fresh (here ▸ same ▸ member)
        simp [same ▸ apart, same]
      · simp [same]
    have left : ∀ item ∈ items.filter fun item => !decide (keyOf item = key), keyOf item ∈ rest := by
      intro item member
      obtain ⟨known, apart⟩ := List.mem_filter.1 member
      exact (List.mem_cons.1 (covered item known)).resolve_left (by simpa using apart)
    rw [List.flatMap_cons, List.flatMap_congr others]
    exact ((ih unique left).append_left _).trans (List.filter_append_perm _ items)

/-! Keys. -/

/-- A key that can stand in the path of a skill. -/
structure Slug (key : String) : Prop where
  filled : key ≠ ""
  short : key.toList.length ≤ 80
  plain : ∀ c ∈ key.toList, slugChar c = true

theorem slug_groupKey [CharData] (text fallback : String) : Slug (groupKey text fallback) := by
  rw [groupKey]
  generalize List.flatMap CharData.lower _ = raw
  have plain : ∀ c ∈ trim (· = '-') (subRuns (fun c => !slugChar c) '-' false raw), slugChar c = true := by
    intro c member
    rcases Wiki.Keys.test_of_mem_subRuns ((Wiki.Keys.trim_within _ _).subset member) with ⟨kept, _⟩ | rfl
    · simpa using kept
    · decide
  generalize trim (· = '-') (subRuns (fun c => !slugChar c) '-' false raw) = slug at plain ⊢
  by_cases nothing : slug.take 80 = []
  · rw [if_pos nothing]
    exact ⟨by decide, by decide, Text.forall_listed (by decide)⟩
  · rw [if_neg nothing]
    refine ⟨?_, ?_, ?_⟩
    · intro empty
      exact nothing (by rw [← String.toList_ofList (l := slug.take 80), empty]; rfl)
    · rw [String.toList_ofList]
      exact List.length_take_le 80 slug
    · intro c member
      rw [String.toList_ofList] at member
      exact plain c (List.mem_of_mem_take member)

/-! A pass over one of the lists. -/

def groupAt (groups : List (String × Group)) (key : String) : Group := (groups.lookup key).getD {}

theorem groupAt_changeGroup (change : Group → Group) (key : String) (groups : List (String × Group)) (other : String) :
    groupAt (changeGroup change key groups) other = if other = key then change (groupAt groups key) else groupAt groups other := by
  have first : ∀ (known : String) (group : Group) (rest : List (String × Group)) (sought : String),
      groupAt ((known, group) :: rest) sought = if sought = known then group else groupAt rest sought := by
    intro known group rest sought
    rw [groupAt, List.lookup_cons]
    by_cases here : sought = known
    · rw [if_pos here, beq_iff_eq.2 here]
      rfl
    · rw [if_neg here, beq_false_of_ne here]
      rfl
  induction groups with
  | nil => exact first key (change {}) [] other
  | cons group rest ih =>
    obtain ⟨known, own⟩ := group
    rw [changeGroup]
    by_cases same : known = key
    · subst same
      rw [if_pos rfl, first, first, first, if_pos rfl]
      by_cases here : other = known
      · rw [if_pos here, if_pos here]
      · rw [if_neg here, if_neg here, if_neg here]
    · rw [if_neg same, first, first, first, if_neg (Ne.symm same), ih]
      by_cases here : other = known
      · have apart : other ≠ key := fun there => same (here ▸ there)
        rw [if_pos here, if_neg apart, if_pos here]
      · rw [if_neg here, if_neg here]

section Pass
variable {Row : Type} (change : Row → Group → Group) (keyOf : Row → String)

/-- The loop over one of the lists. -/
def groupRows (rows : List Row) (groups : List (String × Group)) : List (String × Group) :=
  rows.foldl (fun groups row => changeGroup (change row) (keyOf row) groups) groups

/-- A group is changed by the rows under its key, in their order. -/
theorem groupAt_groupRows (rows : List Row) (groups : List (String × Group)) (key : String) :
    groupAt (groupRows change keyOf rows groups) key =
      (rows.filter fun row => keyOf row = key).foldl (fun group row => change row group) (groupAt groups key) := by
  induction rows generalizing groups with
  | nil => rfl
  | cons row rest ih =>
    rw [groupRows, List.foldl_cons, ← groupRows, ih, groupAt_changeGroup, List.filter_cons]
    by_cases here : keyOf row = key
    · rw [if_pos here.symm, if_pos (decide_eq_true here), List.foldl_cons, here]
    · rw [if_neg (Ne.symm here), if_neg (by simpa using here)]

theorem mem_keys_groupRows (rows : List Row) (groups : List (String × Group)) (key : String) :
    key ∈ keys (groupRows change keyOf rows groups) ↔ key ∈ keys groups ∨ ∃ row ∈ rows, keyOf row = key := by
  induction rows generalizing groups with
  | nil => simp [groupRows]
  | cons row rest ih =>
    have one : key ∈ keys (changeGroup (change row) (keyOf row) groups) ↔ key ∈ keys groups ∨ keyOf row = key := by
      rw [keys_changeGroup]
      split
      next known => exact ⟨Or.inl, fun either => either.elim id fun same => same ▸ known⟩
      next => rw [List.mem_append, List.mem_singleton, eq_comm (a := key)]
    rw [groupRows, List.foldl_cons, ← groupRows, ih, one, or_assoc, List.exists_mem_cons_iff]

end Pass

theorem groupAt_of_mem {groups : List (String × Group)} (unique : (keys groups).Nodup) {entry : String × Group}
    (member : entry ∈ groups) : entry.2 = groupAt groups entry.1 := by
  induction groups with
  | nil => cases member
  | cons first rest ih =>
    obtain ⟨fresh, unique⟩ := List.nodup_cons.1 unique
    rw [groupAt, List.lookup_cons]
    rcases List.mem_cons.1 member with rfl | later
    · rw [beq_self_eq_true]
      rfl
    · have apart : entry.1 ≠ first.1 := fun same => fresh (same ▸ List.mem_map_of_mem later)
      rw [beq_false_of_ne apart]
      exact ih unique later

/-! The groups. -/

section Evidence
variable [CharData]

def memoryKey (row : MemoryRow) : String := groupKey row.content row.kind

def runKey (run : ToolRun) : String := groupKey (runText run) run.toolName

def addMemory (row : MemoryRow) (group : Group) : Group := { group with memories := group.memories ++ [row] }

def addRun (run : ToolRun) (group : Group) : Group := { group with failedToolRuns := group.failedToolRuns ++ [run] }

def allGroups (memories : List MemoryRow) (failedRuns : List ToolRun) : List (String × Group) :=
  groupRows addRun runKey failedRuns (groupRows addMemory memoryKey memories [])

omit [CharData] in
theorem foldl_addMemory (rows : List MemoryRow) (group : Group) :
    rows.foldl (fun group row => addMemory row group) group = { group with memories := group.memories ++ rows } := by
  induction rows generalizing group with
  | nil => rw [List.foldl_nil, List.append_nil]
  | cons row rest ih => rw [List.foldl_cons, ih, addMemory, List.append_assoc]; rfl

omit [CharData] in
theorem foldl_addRun (runs : List ToolRun) (group : Group) :
    runs.foldl (fun group run => addRun run group) group = { group with failedToolRuns := group.failedToolRuns ++ runs } := by
  induction runs generalizing group with
  | nil => rw [List.foldl_nil, List.append_nil]
  | cons run rest ih => rw [List.foldl_cons, ih, addRun, List.append_assoc]; rfl

variable (memories : List MemoryRow) (failedRuns : List ToolRun)

theorem groupAt_allGroups (key : String) : groupAt (allGroups memories failedRuns) key =
    ⟨memories.filter fun row => memoryKey row = key, failedRuns.filter fun run => runKey run = key⟩ := by
  rw [allGroups, groupAt_groupRows, groupAt_groupRows, foldl_addMemory, foldl_addRun]
  rfl

theorem mem_keys_allGroups (key : String) : key ∈ keys (allGroups memories failedRuns) ↔
    (∃ row ∈ memories, memoryKey row = key) ∨ ∃ run ∈ failedRuns, runKey run = key := by
  rw [allGroups, mem_keys_groupRows, mem_keys_groupRows]
  simp [keys]

theorem nodup_allGroups : (keys (allGroups memories failedRuns)).Nodup :=
  nodup_changeGroups addRun runKey failedRuns (nodup_changeGroups addMemory memoryKey memories List.nodup_nil)

/-- Every group holds something, so none is dropped. -/
theorem groupEvidence_eq_allGroups : groupEvidence memories failedRuns = allGroups memories failedRuns := by
  show (allGroups memories failedRuns).filter _ = _
  rw [List.filter_eq_self]
  intro entry member
  rw [groupAt_of_mem (nodup_allGroups memories failedRuns) member, groupAt_allGroups]
  have known := (mem_keys_allGroups memories failedRuns entry.1).1 (List.mem_map_of_mem member)
  simp only [Bool.or_eq_true, Bool.not_eq_true', List.isEmpty_eq_false_iff_exists_mem, List.mem_filter, decide_eq_true_eq]
  exact known

end Evidence

attribute [local irreducible] memoryKey runKey

section Inputs
variable [CharData] (memories : List MemoryRow) (failedRuns : List ToolRun)

/-- What a group may hold. -/
abbrev Input := MemoryRow ⊕ ToolRun

def inputKey : Input → String
  | .inl row => memoryKey row
  | .inr run => runKey run

omit [CharData] in
/-- The inputs of a review, or of a group. -/
def inputs (memories : List MemoryRow) (failedRuns : List ToolRun) : List Input :=
  memories.map Sum.inl ++ failedRuns.map Sum.inr

omit [CharData] in
theorem exists_inputs {property : Input → Prop} : (∃ input ∈ inputs memories failedRuns, property input) ↔
    (∃ row ∈ memories, property (.inl row)) ∨ ∃ run ∈ failedRuns, property (.inr run) := by
  simp only [inputs, List.mem_append, List.mem_map, or_and_right, exists_or, exists_exists_and_eq_and]

end Inputs

def inputsOf (group : Group) : List Input := inputs group.memories group.failedToolRuns

/-- An order-preserving partition of the inputs by their keys. -/
structure Partition [CharData] (memories : List MemoryRow) (failedRuns : List ToolRun) (groups : List (String × Group)) :
    Prop where
  unique : (keys groups).Nodup
  memoriesKept : ∀ entry ∈ groups, entry.2.memories = memories.filter fun row => memoryKey row = entry.1
  runsKept : ∀ entry ∈ groups, entry.2.failedToolRuns = failedRuns.filter fun run => runKey run = entry.1
  filled : ∀ entry ∈ groups, inputsOf entry.2 ≠ []
  slugs : ∀ entry ∈ groups, Slug entry.1
  once : (groups.flatMap fun entry => inputsOf entry.2).Perm (inputs memories failedRuns)
  placed : ∀ input ∈ inputs memories failedRuns,
    ∃! entry, entry ∈ groups ∧ input ∈ inputsOf entry.2 ∧ entry.1 = inputKey input
  shared : ∀ first ∈ inputs memories failedRuns,
    ∀ second ∈ inputs memories failedRuns,
      (∃ entry ∈ groups, first ∈ inputsOf entry.2 ∧ second ∈ inputsOf entry.2) ↔ inputKey first = inputKey second

section Partition
variable [CharData] (memories : List MemoryRow) (failedRuns : List ToolRun)

theorem inputsOf_eq_filter {entry : String × Group} (member : entry ∈ allGroups memories failedRuns) :
    inputsOf entry.2 = (inputs memories failedRuns).filter fun input => inputKey input = entry.1 := by
  have held := groupAt_of_mem (nodup_allGroups memories failedRuns) member
  rw [groupAt_allGroups] at held
  have left : ((fun input => decide (inputKey input = entry.1)) ∘ Sum.inl) = fun row => decide (memoryKey row = entry.1) := by
    funext row
    rw [Function.comp_apply, Bool.eq_iff_iff, decide_eq_true_iff, decide_eq_true_iff, inputKey]
  have right : ((fun input => decide (inputKey input = entry.1)) ∘ Sum.inr) = fun run => decide (runKey run = entry.1) := by
    funext run
    rw [Function.comp_apply, Bool.eq_iff_iff, decide_eq_true_iff, decide_eq_true_iff, inputKey]
  rw [inputsOf, held, inputs, inputs, List.filter_append, List.filter_map, List.filter_map, left, right]

theorem mem_keys_iff (key : String) : key ∈ keys (allGroups memories failedRuns) ↔
    ∃ input ∈ inputs memories failedRuns, inputKey input = key := by
  rw [mem_keys_allGroups, exists_inputs]
  rfl

/-- An input is in the group under its key and in no other. -/
theorem mem_inputsOf_iff {entry : String × Group} (member : entry ∈ allGroups memories failedRuns) (input : Input) :
    input ∈ inputsOf entry.2 ↔ input ∈ inputs memories failedRuns ∧ inputKey input = entry.1 := by
  rw [inputsOf_eq_filter memories failedRuns member, List.mem_filter, decide_eq_true_eq]

theorem exists_group {input : Input} (known : input ∈ inputs memories failedRuns) :
    ∃ entry ∈ allGroups memories failedRuns, entry.1 = inputKey input :=
  List.mem_map.1 ((mem_keys_iff memories failedRuns _).2 ⟨input, known, rfl⟩)

theorem entry_unique {first second : String × Group} (left : first ∈ allGroups memories failedRuns)
    (right : second ∈ allGroups memories failedRuns) (same : first.1 = second.1) : first = second :=
  List.inj_on_of_nodup_map (nodup_allGroups memories failedRuns) left right same

theorem slug_of_mem {entry : String × Group} (member : entry ∈ allGroups memories failedRuns) : Slug entry.1 := by
  obtain ⟨input, _, same⟩ := (mem_keys_iff memories failedRuns entry.1).1 (List.mem_map_of_mem member)
  rw [← same]
  cases input with
  | inl row =>
    rw [inputKey, memoryKey]
    exact slug_groupKey row.content row.kind
  | inr run =>
    rw [inputKey, runKey]
    exact slug_groupKey (runText run) run.toolName

theorem once_allGroups : ((allGroups memories failedRuns).flatMap fun entry => inputsOf entry.2).Perm
    (inputs memories failedRuns) := by
  have parts : ((allGroups memories failedRuns).flatMap fun entry => inputsOf entry.2) =
      (keys (allGroups memories failedRuns)).flatMap fun key =>
        (inputs memories failedRuns).filter fun input => inputKey input = key := by
    rw [keys, List.flatMap_map]
    apply List.flatMap_congr
    intro entry member
    exact inputsOf_eq_filter memories failedRuns member
  rw [parts]
  apply flatMap_filter_perm inputKey (nodup_allGroups memories failedRuns)
  intro input known
  exact (mem_keys_iff memories failedRuns _).2 ⟨input, known, rfl⟩

/-- The groups of the evidence partition it by the keys of its texts, and keep its order. -/
theorem group_evidence_partitions : Partition memories failedRuns (groupEvidence memories failedRuns) := by
  rw [groupEvidence_eq_allGroups]
  have at' : ∀ entry ∈ allGroups memories failedRuns, entry.2 =
      ⟨memories.filter fun row => memoryKey row = entry.1, failedRuns.filter fun run => runKey run = entry.1⟩ := by
    intro entry member
    rw [groupAt_of_mem (nodup_allGroups memories failedRuns) member, groupAt_allGroups]
  refine ⟨nodup_allGroups memories failedRuns, fun entry member => congrArg Group.memories (at' entry member),
    fun entry member => congrArg Group.failedToolRuns (at' entry member), ?_,
    fun entry member => slug_of_mem memories failedRuns member, once_allGroups memories failedRuns, ?_, ?_⟩
  · intro entry member empty
    obtain ⟨input, known, same⟩ := (mem_keys_iff memories failedRuns entry.1).1 (List.mem_map_of_mem member)
    have inside := (mem_inputsOf_iff memories failedRuns member input).2 ⟨known, same⟩
    rw [empty] at inside
    cases inside
  · intro input known
    obtain ⟨entry, member, same⟩ := exists_group memories failedRuns known
    refine ⟨entry, ⟨member, (mem_inputsOf_iff memories failedRuns member input).2 ⟨known, same.symm⟩, same⟩, ?_⟩
    rintro other ⟨member', _, same'⟩
    exact entry_unique memories failedRuns member' member (same'.trans same.symm)
  · intro first known second known'
    constructor
    · rintro ⟨entry, member, left, right⟩
      exact ((mem_inputsOf_iff memories failedRuns member first).1 left).2.trans
        ((mem_inputsOf_iff memories failedRuns member second).1 right).2.symm
    · intro same
      obtain ⟨entry, member, key⟩ := exists_group memories failedRuns known
      exact ⟨entry, member, (mem_inputsOf_iff memories failedRuns member first).2 ⟨known, key.symm⟩,
        (mem_inputsOf_iff memories failedRuns member second).2 ⟨known', (key.trans same).symm⟩⟩

end Partition

end SoulClaw.Runtime.DreamGroups
