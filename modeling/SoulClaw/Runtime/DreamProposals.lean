import SoulClaw.Evolution.Carried
import SoulClaw.Foundation.Runs
import SoulClaw.Runtime.DreamReview

/-! The proposals of the reviews, and the decisions about them. A group of evidence is given three proposals, of which
the next review looks for one. -/

namespace SoulClaw.Runtime.DreamProposals
open Foundation Files Runs Wiki.Storage Evolution.Service Dream DreamReview
open Evolution.Carried (SameSubject transact_carries)
open Wiki.Proposals (EvolutionProposal)
open Memories.Service (FloatSum)

/-- One call of `run_review`, and what it finds. -/
structure Review where
  runtime : DreamRuntime
  now : Int
  windowHours : Int
  limit : Int
  found : Evidence

/-- What happens: a review, a decision about a proposal, or a change of the files by someone else. -/
inductive Action where
  | review (review : Review)
  | decision (call : Call)
  | edit (disk : Disk)

/-- The tables that a review works on. -/
def tables (world : World) : Skills.Service.State := ⟨world.rows.skills, world.rows.proposals⟩

/-- No two proposals of a type are live for one group. -/
def Unique (world : World) : Prop := ∀ targetType key, liveCount (tables world) targetType key ≤ 1

/-- A group whose skill proposal is gone has no live memory proposal and no live wiki proposal either. -/
def Whole (state : Skills.Service.State) (key : String) : Prop :=
  liveCount state "skill" key = 0 → liveCount state "memory" key = 0 ∧ liveCount state "wiki" key = 0

instance (state : Skills.Service.State) (key : String) : Decidable (Whole state key) :=
  inferInstanceAs (Decidable (_ → _))

/-- What the loop over the groups leaves has no two live proposals about one group, exactly when the groups are whole. -/
theorem grouped_unique_iff {groups : List (String × Group)} {state middle : Skills.Service.State}
    (grouped : Grouped groups state middle) (unique : ∀ targetType key, liveCount state targetType key ≤ 1) :
    (∀ targetType key, liveCount middle targetType key ≤ 1) ↔ ∀ key ∈ keys groups, Whole state key := by
  constructor
  · intro single key member none
    have grown : ∀ targetType ∈ groupTypes, liveCount state targetType key = 0 := by
      intro targetType known
      have bound := single targetType key
      rw [grouped, if_pos ⟨known, member, none⟩] at bound
      omega
    exact ⟨grown "memory" (by decide), grown "wiki" (by decide)⟩
  · intro whole targetType key
    rw [grouped]
    by_cases more : targetType ∈ groupTypes ∧ key ∈ keys groups ∧ liveCount state "skill" key = 0
    · obtain ⟨known, member, none⟩ := more
      have others := whole key member none
      have gone : liveCount state targetType key = 0 := by
        rw [groupTypes, List.mem_cons, List.mem_cons, List.mem_singleton] at known
        rcases known with rfl | rfl | rfl
        · exact none
        · exact others.1
        · exact others.2
      rw [if_pos ⟨known, member, none⟩, gone]
    · rw [if_neg more]
      exact unique targetType key

/-- The loop over the memories adds no second proposal. -/
theorem verified_unique_iff {rows : List MemoryRow} {middle next : Skills.Service.State} (verified : Verified rows middle next) :
    (∀ targetType key, liveCount next targetType key ≤ 1) ↔ ∀ targetType key, liveCount middle targetType key ≤ 1 := by
  apply forall₂_congr
  intro targetType key
  rw [verified]
  by_cases more : targetType = "memory" ∧ key ∈ rows.map verifyKey
  · rw [if_pos more]
    omega
  · rw [if_neg more]

section Steps
variable [CharData] [FloatData]

def Review.groups (review : Review) : List (String × Group) :=
  groupsOf review.runtime review.now review.windowHours review.limit review.found

/-- A review is committed, unless it raises. -/
def Review.perform (review : Review) (world : World) : World :=
  match (runReview review.runtime review.now review.windowHours review.limit review.found (tables world)).exec world.disk with
  | (.ok (_, state), disk) => ⟨{ world.rows with skills := state.db, proposals := state.proposals }, disk⟩
  | (.error _, disk) => ⟨world.rows, disk⟩

/-- The groups that a review finds are whole. -/
def Undivided (world : World) : Action → Prop
  | .review review => ∀ key ∈ keys review.groups, Whole (tables world) key
  | .decision _ => True
  | .edit _ => True

instance decidableUndivided (world : World) : (action : Action) → Decidable (Undivided world action)
  | .review review => inferInstanceAs (Decidable (∀ key ∈ keys review.groups, Whole (tables world) key))
  | .decision _ => isTrue trivial
  | .edit _ => isTrue trivial

theorem review_unique_iff {world : World} (unique : Unique world) (review : Review) :
    Unique (review.perform world) ↔ ∀ key ∈ keys review.groups, Whole (tables world) key := by
  obtain ⟨result, middle, next, ran, grouped, verified⟩ := runReview_adds review.runtime world.disk review.now
    review.windowHours review.limit review.found (tables world)
  have after : tables (review.perform world) = next := by rw [Review.perform, ran]; rfl
  rw [Unique, after, verified_unique_iff verified]
  exact grouped_unique_iff grouped unique

variable [UuidData] [DateData] [FloatSum]

def step (world : World) : Action → Option World
  | .review review => some (review.perform world)
  | .decision call => some (transact world call).2
  | .edit disk => some { world with disk }

/-- A decision makes no proposal live. -/
theorem decision_unique {world : World} (unique : Unique world) (call : Call) : Unique (transact world call).2 := by
  intro targetType key
  show (transact world call).2.rows.proposals.count (liveFor targetType key) ≤ 1
  rcases transact_carries world call with ⟨old, row, stored, opened, same, proposals⟩ | unchanged
  · have less : liveFor targetType key row = true → liveFor targetType key old = true := by
      have live : ∀ status ∈ ["pending", "approved"], status ∈ liveStatuses := by decide
      rw [liveFor, liveFor, decide_eq_true_eq, decide_eq_true_eq, same.targetType, same.payload]
      intro held
      exact ⟨held.1, live old.status opened, held.2.2⟩
    rw [proposals]
    exact (Table.count_set_le stored less).trans (unique targetType key)
  · rw [unchanged]
    exact unique targetType key

theorem step_unique_iff (world : World) (action : Action) (next : World) (unique : Unique world)
    (taken : step world action = some next) : Unique next ↔ Undivided world action := by
  cases action with
  | review review =>
    cases taken
    exact review_unique_iff unique review
  | decision call =>
    cases taken
    exact iff_of_true (decision_unique unique call) trivial
  | edit disk =>
    cases taken
    exact iff_of_true unique trivial

/-- Reviews and decisions, in any order, leave at most one live proposal of each type about a group, exactly as long as
every review finds its groups whole: where the skill proposal about a group has been turned down, the two others
have been too. -/
theorem proposals_unique_iff (world : World) (start : Unique world) (actions : List Action) :
    Along step Undivided world actions ↔
      ∀ passed last, passed <+: actions → run step world passed = some last → Unique last := by
  apply along_iff_of_exact Unique _ step_unique_iff actions start
  rintro world (review | call | disk)
  · exact ⟨_, rfl⟩
  · exact ⟨_, rfl⟩
  · exact ⟨_, rfl⟩

end Steps

section Demo
attribute [local instance] CharData.ascii FloatData.decimal UuidData.plain FloatSum.exact DateData.undated

/-- A run of a tool that has failed. -/
private def failure : ToolRun where
  id := ⟨3⟩
  turnId := "turn"
  toolName := "wiki_read"
  status := "failed"
  arguments := []
  result := [("error", .str "page missing")]
  startedAt := 0

private def nightly : Action := .review ⟨plainDream, 0, 24, 50, ⟨⟨[], List.nodup_nil⟩, [failure]⟩⟩

private def rejecting (id : Nat) : Action := .decision
  { id, actor := "admin", moment := ⟨0, 0, "", "", "", ⟨0⟩⟩, method := .reject "not now" }

private def blank : World where
  rows :=
    { proposals := Table.empty
      memories := Memories.Service.Database.empty
      wiki := ⟨Keyed.empty, Keyed.empty, [], Table.empty⟩
      skills := Skills.Service.noSkills }
  disk := ∅

private theorem unique_blank : Unique blank := fun _ _ => Nat.zero_le 1

theorem unique_after_rejections : Unique blank ∧ ∀ passed last,
    passed <+: [nightly, nightly, rejecting 0, rejecting 1, rejecting 2, nightly] →
      run step blank passed = some last → Unique last :=
  ⟨unique_blank, (proposals_unique_iff blank unique_blank
    [nightly, nightly, rejecting 0, rejecting 1, rejecting 2, nightly]).1 (by decide +kernel)⟩

/-- The skill proposal is rejected, and the next review proposes the lesson and the log entry once more. -/
theorem proposed_twice : Unique blank ∧
    ∃ last, run step blank [nightly, rejecting 0, nightly] = some last ∧ ¬Unique last := by
  refine ⟨unique_blank, ?_⟩
  have twice : (run step blank [nightly, rejecting 0, nightly]).map
      (fun last => liveCount (tables last) "memory" "page-missing") = some 2 := by decide +kernel
  obtain ⟨last, ran, count⟩ := Option.map_eq_some_iff.1 twice
  refine ⟨last, ran, fun unique => ?_⟩
  have bound := unique "memory" "page-missing"
  omega

end Demo

end SoulClaw.Runtime.DreamProposals
