import Mathlib.Data.List.Basic

/-! Computations that pause and are resumed until they finish. A condition on every pause
of such a run decides which of two things holds of the output it finishes with. -/

namespace SoulClaw.Foundation.Resumption

inductive Outcome (Pause Output : Type*) where
  | paused (pause : Pause)
  | finished (output : Output)
  deriving DecidableEq, Repr

variable {World Pause Output : Type*}

section Drive
variable (resume : World → Pause → Outcome Pause Output × World)

/-- At most the given number of pauses are resumed. -/
def drive : Nat → Outcome Pause Output × World → Outcome Pause Output × World
  | 0, state => state
  | _ + 1, (.finished output, world) => (.finished output, world)
  | count + 1, (.paused pause, world) => drive count (resume world pause)

@[simp] theorem drive_finished (count : Nat) (output : Output) (world : World) :
    drive resume count (.finished output, world) = (.finished output, world) := by
  cases count <;> rfl

/-- The condition holds at every pause of the run. -/
def Always (holds : World → Pause → Prop) (start : Outcome Pause Output × World) : Prop :=
  ∀ count pause world, drive resume count start = (.paused pause, world) → holds world pause

/-- The run finishes with the output, in the world. -/
def Finishes (start : Outcome Pause Output × World) (output : Output) (world : World) : Prop :=
  ∃ count, drive resume count start = (.finished output, world)

end Drive

variable {resume : World → Pause → Outcome Pause Output × World} {holds : World → Pause → Prop}

theorem always_finished (output : Output) (world : World) :
    Always resume holds (.finished output, world) := by
  intro count pause later reached
  rw [drive_finished] at reached
  cases reached

theorem always_paused {pause : Pause} {world : World} :
    Always resume holds (.paused pause, world) ↔
      holds world pause ∧ Always resume holds (resume world pause) := by
  constructor
  · intro always
    exact ⟨always 0 pause world rfl, fun count => always (count + 1)⟩
  · intro ⟨here, later⟩ count other last reached
    cases count with
    | zero =>
      cases reached
      exact here
    | succ count => exact later count other last reached

theorem finishes_finished {output other : Output} {world last : World}
    (ends : Finishes resume (.finished output, world) other last) : other = output ∧ last = world := by
  obtain ⟨count, reached⟩ := ends
  rw [drive_finished] at reached
  cases reached
  exact ⟨rfl, rfl⟩

theorem finishes_paused {pause : Pause} {world last : World} {output : Output} :
    Finishes resume (.paused pause, world) output last ↔
      Finishes resume (resume world pause) output last := by
  constructor
  · intro ⟨count, reached⟩
    cases count with
    | zero => cases reached
    | succ count => exact ⟨count, reached⟩
  · intro ⟨count, reached⟩
    exact ⟨count + 1, reached⟩

/-- Every output is in `reached`; if the condition holds at every pause then the run finishes
with a `good` output, and otherwise every output is `bad`. -/
structure Settles (resume : World → Pause → Outcome Pause Output × World)
    (holds : World → Pause → Prop) (start : Outcome Pause Output × World)
    (reached good bad : Output → World → Prop) : Prop where
  reached : ∀ output world, Finishes resume start output world → reached output world
  good : Always resume holds start → ∃ output world, Finishes resume start output world ∧ good output world
  bad : ¬Always resume holds start → ∀ output world, Finishes resume start output world → bad output world

variable {reached good bad : Output → World → Prop}

theorem settles_finished {output : Output} {world : World} (here : reached output world)
    (fine : good output world) : Settles resume holds (.finished output, world) reached good bad := by
  constructor
  · intro other last ends
    obtain ⟨rfl, rfl⟩ := finishes_finished ends
    exact here
  · exact fun _ => ⟨output, world, ⟨0, rfl⟩, fine⟩
  · exact fun broken => absurd (always_finished output world) broken

theorem settles_resume {pause : Pause} {world : World} (kept : holds world pause)
    (later : Settles resume holds (resume world pause) reached good bad) :
    Settles resume holds (.paused pause, world) reached good bad := by
  constructor
  · exact fun output last ends => later.reached output last (finishes_paused.1 ends)
  · intro always
    obtain ⟨output, last, ends, fine⟩ := later.good (always_paused.1 always).2
    exact ⟨output, last, finishes_paused.2 ends, fine⟩
  · intro broken output last ends
    refine later.bad (fun always => broken (always_paused.2 ⟨kept, always⟩)) output last ?_
    exact finishes_paused.1 ends

/-- A pause at which the condition fails spoils every output. -/
theorem settles_broken {pause : Pause} {world : World} (fails : ¬holds world pause)
    (later : ∀ output last, Finishes resume (resume world pause) output last →
      reached output last ∧ bad output last) :
    Settles resume holds (.paused pause, world) reached good bad := by
  constructor
  · exact fun output last ends => (later output last (finishes_paused.1 ends)).1
  · exact fun always => absurd (always_paused.1 always).1 fails
  · exact fun _ output last ends => (later output last (finishes_paused.1 ends)).2

theorem Settles.weaken {start : Outcome Pause Output × World} {wider : Output → World → Prop}
    (settles : Settles resume holds start reached good bad)
    (widen : ∀ output world, reached output world → wider output world) :
    Settles resume holds start wider good bad :=
  ⟨fun output world ends => widen output world (settles.reached output world ends), settles.good,
    settles.bad⟩

end SoulClaw.Foundation.Resumption
