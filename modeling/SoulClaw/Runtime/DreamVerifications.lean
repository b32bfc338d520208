import SoulClaw.Runtime.DreamReview

/-! Which unstable memories a review proposes to verify. The query selects them, and the loop over its rows takes a
stability of zero for none at all. -/

namespace SoulClaw.Runtime.DreamVerifications
open Foundation Files Wiki.Storage Dream DreamReview
open Wiki.Proposals (EvolutionProposal)
open Skills.Package (SkillService)

/-- The first unstable memories of the window, the most important and the latest ones first. -/
def firstUnstable (runtime : DreamRuntime) (now windowHours limit : Int) (found : Evidence) : List MemoryRow :=
  (runtime.updated.sort (found.memories.rows.filter fun row =>
    !row.archived ∧ windowStart now windowHours ≤ row.updatedAt ∧ row.stability.lt lowStability)).take (min limit 100).toNat

theorem verifyKey_injective {row other : MemoryRow} (same : verifyKey row = verifyKey other) : row.id = other.id := by
  have texts := congrArg String.toList same
  rw [verifyKey, verifyKey, String.toList_append, String.toList_append, List.append_cancel_left_eq] at texts
  exact Uuid.str_injective (String.toList_injective texts)

section Selection
variable (runtime : DreamRuntime) {now windowHours limit since : Int} {found : Evidence} {row other : MemoryRow}

theorem selected_of_first (first : row ∈ firstUnstable runtime now windowHours limit found) :
    row ∈ unstableMemories runtime (windowStart now windowHours) limit found.memories.rows := by
  have more : (min limit 100).toNat ≤ (max 1 (min limit 100)).toNat := Int.toNat_le_toNat (le_max_right ..)
  rw [unstableMemories]
  exact (List.take_sublist_take_left more).subset first

theorem mem_of_selected {rows : List MemoryRow} (selected : row ∈ unstableMemories runtime since limit rows) :
    row ∈ rows ∧ row.stability.lt lowStability = true := by
  have sorted := (runtime.updated.ranks _).perm.mem_iff.1 (List.mem_of_mem_take selected)
  obtain ⟨member, holds⟩ := List.mem_filter.1 sorted
  exact ⟨member, (of_decide_eq_true holds).2.2⟩

/-- The second filter drops the rows whose stability is zero, and no other one. -/
theorem verified_iff {rows : List MemoryRow} (unique : (rows.map MemoryRow.id).Nodup)
    (selected : row ∈ unstableMemories runtime since limit rows) :
    verifyKey row ∈ (lowStabilityMemories runtime since limit rows).map verifyKey ↔ row.stability ≠ .finite 0 := by
  obtain ⟨member, low⟩ := mem_of_selected runtime selected
  constructor
  · intro kept zero
    obtain ⟨other, inside, same⟩ := List.mem_map.1 kept
    obtain ⟨chosen, again⟩ := List.mem_filter.1 inside
    have equal : other = row :=
      List.inj_on_of_nodup_map unique (mem_of_selected runtime chosen).1 member (verifyKey_injective same)
    rw [equal, stabilityOrOne, if_pos zero] at again
    exact absurd again (by decide +kernel)
  · intro some'
    refine List.mem_map_of_mem (List.mem_filter.2 ⟨selected, ?_⟩)
    rw [stabilityOrOne, if_neg some', low]

end Selection

section Review
variable [CharData] [FloatData] (runtime : DreamRuntime) (now windowHours limit : Int) (found : Evidence)
  (state : Skills.Service.State) (disk : Disk)

/-- The proposal of a group of evidence passes for the one of the memory. -/
def NamedAfter (row : MemoryRow) : Prop :=
  verifyKey row ∈ keys (groupsOf runtime now windowHours limit found) ∧ ¬Live state "skill" (verifyKey row)

/-- After a review the unstable memories have a live proposal, exactly when those of them whose stability is zero had one
before, or share their key with a group of evidence that is proposed. -/
theorem verifications_iff : ∃ result next, (runReview runtime now windowHours limit found state).exec disk =
      (.ok (result, next), disk) ∧
    ((∀ row ∈ firstUnstable runtime now windowHours limit found, Live next "memory" (verifyKey row)) ↔
      ∀ row ∈ firstUnstable runtime now windowHours limit found, row.stability = .finite 0 →
        Live state "memory" (verifyKey row) ∨ NamedAfter runtime now windowHours limit found state row) := by
  obtain ⟨result, middle, next, ran, grouped, verified⟩ := runReview_adds runtime disk now windowHours limit found state
  refine ⟨result, next, ran, forall₂_congr fun row first => ?_⟩
  have chosen := verified_iff runtime found.memories.unique (selected_of_first runtime first)
  have memory : "memory" ∈ groupTypes := by decide
  have before : liveCount middle "memory" (verifyKey row) ≠ 0 ↔
      Live state "memory" (verifyKey row) ∨ NamedAfter runtime now windowHours limit found state row := by
    rw [grouped, live_iff, NamedAfter, live_iff, not_not]
    simp only [memory, true_and]
    split <;> grind
  rw [live_iff, verified, ← before]
  by_cases zero : row.stability = .finite 0
  · have dropped : ¬("memory" = "memory" ∧ verifyKey row ∈ (doubtful runtime now windowHours limit found).map verifyKey) :=
      fun both => chosen.1 both.2 zero
    rw [if_neg dropped]
    simp only [zero, forall_const]
  · rw [if_pos ⟨rfl, chosen.2 zero⟩]
    have some' : max 1 (liveCount middle "memory" (verifyKey row)) ≠ 0 := by omega
    simp only [zero, false_implies, some', ne_eq, not_false_eq_true]

end Review

section Demo
attribute [local instance] CharData.ascii FloatData.decimal

/-- A memory that nothing supports any more. -/
private def faded : MemoryRow where
  id := ⟨7⟩
  kind := "semantic"
  content := "Likes tea."
  importance := .finite (1 / 2)
  confidence := .finite (1 / 2)
  stability := .finite 0
  createdAt := 0
  updatedAt := 0

private def found : Evidence := ⟨⟨[faded], List.nodup_singleton _⟩, []⟩

private def untouched : Skills.Service.State := ⟨Skills.Service.noSkills, Table.empty⟩

theorem zero_forgotten : ∃ result next, (runReview plainDream 0 24 50 found untouched).exec ∅ = (.ok (result, next), ∅) ∧
    faded ∈ firstUnstable plainDream 0 24 50 found ∧ ¬Live next "memory" (verifyKey faded) := by
  obtain ⟨result, middle, next, ran, grouped, verified⟩ := runReview_adds plainDream ∅ 0 24 50 found untouched
  have unstable : (firstUnstable plainDream 0 24 50 found).length = 1 := by decide +kernel
  have groups : keys (groupsOf plainDream 0 24 50 found) = [] := by decide +kernel
  have rows : (doubtful plainDream 0 24 50 found).map verifyKey = [] := by decide +kernel
  refine ⟨result, next, ran, ?_, ?_⟩
  · obtain ⟨row, only⟩ := List.length_eq_one_iff.1 unstable
    have member : row ∈ firstUnstable plainDream 0 24 50 found := only ▸ List.mem_singleton_self row
    have known := (mem_of_selected plainDream (selected_of_first plainDream member)).1
    rw [List.mem_singleton.1 known] at member
    exact member
  · rw [live_iff, not_not, verified, rows, if_neg fun both => List.not_mem_nil both.2, grouped, groups,
      if_neg fun both => List.not_mem_nil both.2.1]
    rfl

end Demo

end SoulClaw.Runtime.DreamVerifications
