import SoulClaw.Memories.Search

/-! What a search of the memories gives. The loop of the selection takes from the ranking what a greedy selection takes,
up to the limit, and only the scores change after that. -/

namespace SoulClaw.Memories.Ranked
open Foundation Ranking Search

section Selecting
variable [CharData]

def Apart (item earlier : Memory) : Prop := similarity item earlier < nearly

instance (item earlier : Memory) : Decidable (Apart item earlier) := inferInstanceAs (Decidable (_ < _))

/-- The memories of items, in their order. -/
def memories (items : List Hit) : List Memory := items.map Hit.memory

theorem nearly_le_greatest (item : Memory) (selected : List Hit) :
    nearly ≤ greatest ((selected.map fun item => tokens item.memory.content).map (jaccard (tokens item.content))) ↔
      ¬ ∀ earlier ∈ memories selected, Apart item earlier := by
  rw [le_greatest _ (show (0 : ℚ) < nearly by norm_num [nearly])]
  simp [memories, Apart, similarity]

/-- What the loop still selects, when it has selected the greedy selection of the items before. -/
theorem memories_selectLoop {limit : Nat} (rest : List Hit) (before : List Memory) (selected : List Hit)
    (greedy : memories selected = taken Apart before) (few : selected.length < limit) :
    memories (selectLoop limit selected (selected.map fun item => tokens item.memory.content) rest) =
      (taken Apart (before ++ memories rest)).take limit := by
  have length : ∀ items : List Hit, (memories items).length = items.length := fun items => List.length_map _
  induction rest generalizing before selected with
  | nil =>
    rw [selectLoop, show memories [] = [] from rfl, List.append_nil, ← greedy, List.take_of_length_le]
    rw [length]
    omega
  | cons item rest ih =>
    have cut : before ++ memories (item :: rest) = (before ++ [item.memory]) ++ memories rest := by simp [memories]
    have next := taken_concat Apart before item.memory
    rw [← greedy] at next
    rw [selectLoop, cut]
    by_cases close : nearly ≤ greatest ((selected.map fun item => tokens item.memory.content).map
        (jaccard (tokens item.memory.content)))
    · rw [if_neg ((nearly_le_greatest item.memory selected).1 close)] at next
      simp only [if_pos close]
      exact ih _ _ next.symm few
    · rw [if_pos (not_not.1 (mt (nearly_le_greatest item.memory selected).2 close))] at next
      simp only [if_neg close]
      set chosen := item.selected (greatest ((selected.map fun item => tokens item.memory.content).map
        (jaccard (tokens item.memory.content)))) with chosen_eq
      have grown : memories (selected ++ [chosen]) = taken Apart (before ++ [item.memory]) := by
        rw [next, memories, List.map_append]
        rfl
      split
      next full =>
        have start := taken_grows Apart (before ++ [item.memory]) (memories rest)
        rw [← grown, List.prefix_iff_eq_take, length, List.length_append, List.length_singleton] at start
        rw [List.length_append, List.length_singleton] at full
        rw [start, show limit = selected.length + 1 by omega]
      next short =>
        have same : (selected.map fun item => tokens item.memory.content) ++ [tokens item.memory.content] =
            (selected ++ [chosen]).map fun item => tokens item.memory.content := by
          rw [List.map_append]
          rfl
        rw [same]
        exact ih _ _ grown (by omega)

/-- The memories of the result, in some order. -/
theorem memories_mmrDedup {limit : Nat} (positive : 0 < limit) (ranked : List Hit) :
    (memories (mmrDedup ranked limit)).Perm ((taken Apart (memories ranked)).take limit) := by
  have loop := memories_selectLoop ranked [] [] rfl positive
  rw [List.map_nil, List.nil_append] at loop
  have short : (rankBy Hit.score (selectLoop limit [] [] ranked)).length ≤ limit := by
    have few := congrArg List.length loop
    rw [memories, List.length_map, List.length_take] at few
    rw [(rankBy_perm Hit.score _).length_eq]
    omega
  rw [mmrDedup, List.take_of_length_le short, ← loop]
  exact (rankBy_perm Hit.score _).map _

end Selecting

theorem clampLimit_pos (limit : Int) : 0 < clampLimit limit := by
  unfold clampLimit
  omega

section Searching
variable [CharData] [UuidData] (queries : Queries) (query : String)

theorem memories_ranking (limit : Nat) (now : Int) :
    (memories (ranking queries query limit now)).Perm
      ((candidates queries query limit).rows.filter (scored query (ftsHits queries query limit) now)) := by
  have sorted := (rankBy_perm Hit.score (((candidates queries query limit).rows.filter
    (scored query (ftsHits queries query limit) now)).map (hitOf query (ftsHits queries query limit) now))).map Hit.memory
  rw [List.map_map] at sorted
  exact sorted.trans (List.Perm.of_eq (List.map_id _))

omit [CharData] in
theorem nodup_candidates (limit : Nat) : ((candidates queries query limit).rows.map Memory.id).Nodup := by
  have unique : (((candidates queries query limit).rows.map Memory.id).map Uuid.str).Nodup := by
    rw [List.map_map]
    exact (candidates queries query limit).unique
  exact unique.of_map _

variable (limit now : Int)

/-- The memories that a search ranks, the best first. -/
def ranked : List Memory := memories (ranking queries (Text.strip query) (clampLimit limit) now)

/-- The memories that it returns. -/
def returned : List Memory := memories (search queries query limit now)

theorem returned_perm : (returned queries query limit now).Perm
    ((taken Apart (ranked queries query limit now)).take (clampLimit limit)) :=
  memories_mmrDedup (clampLimit_pos limit) _

theorem returned_subperm : (returned queries query limit now).Subperm (ranked queries query limit now) :=
  (returned_perm queries query limit now).subperm.trans
    ((List.take_sublist _ _).trans (taken_sublist Apart _)).subperm

theorem nodup_returned : ((returned queries query limit now).map Memory.id).Nodup := by
  have known := nodup_candidates queries (Text.strip query) (clampLimit limit)
  have distinct : ((ranked queries query limit now).map Memory.id).Nodup :=
    ((memories_ranking queries _ _ now).map Memory.id).nodup_iff.2 (known.sublist (List.filter_sublist.map _))
  obtain ⟨part, same, within⟩ := returned_subperm queries query limit now
  exact (same.map Memory.id).nodup_iff.1 (distinct.sublist (within.map _))

theorem scored_of_returned {memory : Memory} (member : memory ∈ returned queries query limit now) :
    memory ∈ (candidates queries (Text.strip query) (clampLimit limit)).rows ∧
      scored (Text.strip query) (ftsHits queries (Text.strip query) (clampLimit limit)) now memory = true := by
  have known := (memories_ranking queries _ _ now).subset ((returned_subperm queries query limit now).subset member)
  exact List.mem_filter.1 known

theorem pairwise_returned :
    (returned queries query limit now).Pairwise fun first second => similarity first second < nearly := by
  have symmetric : ∀ {first second : Memory}, similarity first second < nearly → similarity second first < nearly :=
    fun apart => by rwa [similarity_comm]
  refine ((returned_perm queries query limit now).pairwise_iff symmetric).2 ?_
  exact ((pairwise_taken Apart _).sublist (List.take_sublist _ _)).imp symmetric

/-- A memory that is ranked before the result is complete is returned, or is nearly the same as one that is. -/
theorem returned_or_near {before after : List Memory} {memory : Memory}
    (place : ranked queries query limit now = before ++ memory :: after)
    (early : (before.filter (· ∈ returned queries query limit now)).length < clampLimit limit) :
    memory ∈ returned queries query limit now ∨
      ∃ earlier ∈ before, earlier ∈ returned queries query limit now ∧ nearly ≤ similarity memory earlier := by
  have same : ∀ other, other ∈ returned queries query limit now ↔
      other ∈ (taken Apart (before ++ memory :: after)).take (clampLimit limit) := by
    intro other
    rw [← place]
    exact (returned_perm queries query limit now).mem_iff
  simp only [same] at early ⊢
  rcases mem_take_taken_or_close Apart early with inside | ⟨earlier, member, kept, close⟩
  · exact .inl inside
  · exact .inr ⟨earlier, member, kept, not_lt.1 close⟩

/-- A search returns active memories, each of them once, up to the limit and in the order of their scores; no two of
them are nearly the same; and an active candidate with a score, ranked before the result was complete, is returned or
is nearly the same as a returned memory ranked before it. -/
theorem search_selects :
    (∀ item ∈ search queries query limit now, isInactive item.memory now = false) ∧
    ((search queries query limit now).map fun item => item.memory.id).Nodup ∧
    (search queries query limit now).length ≤ clampLimit limit ∧
    (search queries query limit now).Pairwise (fun first second => second.score ≤ first.score) ∧
    (search queries query limit now).Pairwise
      (fun first second => jaccard (tokens first.memory.content) (tokens second.memory.content) < 82 / 100) ∧
    (ranking queries (Text.strip query) (clampLimit limit) now).Pairwise
      (fun first second => second.score ≤ first.score) ∧
    ∀ memory ∈ (candidates queries (Text.strip query) (clampLimit limit)).rows,
      scored (Text.strip query) (ftsHits queries (Text.strip query) (clampLimit limit)) now memory = true →
      ∃ before after, ranked queries query limit now = before ++ memory :: after ∧
        ((before.filter (· ∈ returned queries query limit now)).length < clampLimit limit →
          memory ∉ returned queries query limit now →
          ∃ earlier ∈ before, earlier ∈ returned queries query limit now ∧
            82 / 100 ≤ jaccard (tokens memory.content) (tokens earlier.content)) := by
  refine ⟨?active, ?once, ?few, ?sorted, ?apart, pairwise_rankBy Hit.score _, ?complete⟩
  case active =>
    intro item member
    have counted := (scored_of_returned queries query limit now (List.mem_map_of_mem member)).2
    simp only [scored, Bool.and_eq_true, Bool.not_eq_true'] at counted
    exact counted.1
  case once =>
    have distinct := nodup_returned queries query limit now
    rwa [returned, memories, List.map_map] at distinct
  case few =>
    rw [search, mmrDedup]
    exact List.length_take_le _ _
  case sorted =>
    rw [search, mmrDedup]
    exact (pairwise_rankBy Hit.score _).sublist (List.take_sublist _ _)
  case apart =>
    have apart := pairwise_returned queries query limit now
    rwa [returned, memories, List.pairwise_map] at apart
  case complete =>
    intro memory candidate counted
    have place : memory ∈ ranked queries query limit now :=
      (memories_ranking queries _ _ now).mem_iff.2 (List.mem_filter.2 ⟨candidate, counted⟩)
    obtain ⟨before, after, cut⟩ := List.append_of_mem place
    refine ⟨before, after, cut, fun early missing => ?_⟩
    have near := (returned_or_near queries query limit now cut early).resolve_left missing
    rwa [nearly] at near

end Searching

end SoulClaw.Memories.Ranked
