import SoulClaw.Foundation.Runs

/-! What the steps of a run leave behind in a list that only grows, and the step that each entry comes from. -/

namespace SoulClaw.Foundation.Runs

variable {State Action Item : Type*} {step : State → Action → Option State}

/-- A run passes the action with the state in which it is taken. -/
def Passes (step : State → Action → Option State) (start : State) (actions : List Action) (state : State)
    (action : Action) : Prop :=
  ∃ front back, actions = front ++ action :: back ∧ run step start front = some state

theorem Passes.here (start : State) (action : Action) (rest : List Action) :
    Passes step start (action :: rest) start action := ⟨[], rest, rfl, rfl⟩

theorem Passes.later {start next state : State} {first action : Action} {rest : List Action}
    (taken : step start first = some next) (passes : Passes step next rest state action) :
    Passes step start (first :: rest) state action := by
  obtain ⟨front, back, cut, ran⟩ := passes
  exact ⟨first :: front, back, by rw [cut]; rfl, run_cons_eq_some.2 ⟨next, taken, ran⟩⟩

/-- A state that a guarded run passes meets the invariant of the guarded steps, and the guard. -/
theorem Passes.invariant_along {guard : State → Action → Prop} {invariant : State → Prop}
    (preserved : ∀ state action next, invariant state → guard state action → step state action = some next →
      invariant next)
    {start state : State} {actions : List Action} {action : Action} (holds : invariant start)
    (along : Along step guard start actions) (passes : Passes step start actions state action) :
    invariant state ∧ guard state action := by
  obtain ⟨front, back, rfl, reached⟩ := passes
  induction front generalizing start with
  | nil =>
    cases reached
    exact ⟨holds, along.1⟩
  | cons first front ih =>
    obtain ⟨next, taken, reached⟩ := run_cons_eq_some.1 reached
    exact ih (preserved start first next holds along.1 taken) reached (along.2 next taken)

/-- Every entry of the list was there at the start, or was added by an action that the run passes. -/
theorem mem_recorded_iff {records : State → List Item} {adds : State → Action → List Item}
    (adding : ∀ state action next, step state action = some next → records next = records state ++ adds state action)
    {start last : State} {actions : List Action} (ran : run step start actions = some last) (item : Item) :
    item ∈ records last ↔
      item ∈ records start ∨ ∃ state action, Passes step start actions state action ∧ item ∈ adds state action := by
  induction actions generalizing start with
  | nil =>
    cases ran
    constructor
    · exact .inl
    · intro known
      obtain known | ⟨state, action, ⟨front, back, cut, _⟩, _⟩ := known
      · exact known
      · cases front <;> cases cut
  | cons first rest ih =>
    obtain ⟨next, taken, ran⟩ := run_cons_eq_some.1 ran
    rw [ih ran, adding start first next taken, List.mem_append]
    constructor
    · intro known
      obtain (known | added) | ⟨state, action, passes, added⟩ := known
      · exact .inl known
      · exact .inr ⟨start, first, .here start first rest, added⟩
      · exact .inr ⟨state, action, passes.later taken, added⟩
    · intro known
      obtain known | ⟨state, action, ⟨front, back, cut, reached⟩, added⟩ := known
      · exact .inl (.inl known)
      · cases front with
        | nil =>
          cases reached
          obtain ⟨rfl, rfl⟩ := List.cons.inj cut
          exact .inl (.inr added)
        | cons _ front =>
          obtain ⟨rfl, rfl⟩ := List.cons.inj cut
          obtain ⟨other, step_, reached⟩ := run_cons_eq_some.1 reached
          obtain rfl := Option.some.inj (taken.symm.trans step_)
          exact .inr ⟨state, action, ⟨front, back, rfl, reached⟩, added⟩

/-- A run may be left without the actions that the other side of a simulation does not see. -/
theorem run_erase {related : State → State → Prop} {silent : Action → Bool} {allowed : Action → Prop}
    (hidden : ∀ state other action next, related state other → allowed action → silent action = true →
      step state action = some next → related next other)
    (seen : ∀ state other action next, related state other → allowed action → silent action = false →
      step state action = some next → ∃ after, step other action = some after ∧ related next after)
    {state last other : State} {actions : List Action} (start : related state other)
    (allowed_ : ∀ action ∈ actions, allowed action) (ran : run step state actions = some last) :
    ∃ final, run step other (actions.filter fun action => !silent action) = some final ∧ related last final := by
  induction actions generalizing state other with
  | nil =>
    cases ran
    exact ⟨other, rfl, start⟩
  | cons action rest ih =>
    obtain ⟨next, taken, ran⟩ := run_cons_eq_some.1 ran
    have first := allowed_ action List.mem_cons_self
    have others : ∀ action ∈ rest, allowed action := fun action member => allowed_ action (List.mem_cons_of_mem _ member)
    cases mute : silent action with
    | true =>
      rw [List.filter_cons_of_neg (by simp [mute])]
      exact ih (hidden state other action next start first mute taken) others ran
    | false =>
      obtain ⟨after, followed, related_⟩ := seen state other action next start first mute taken
      obtain ⟨final, reached, matched⟩ := ih related_ others ran
      rw [List.filter_cons_of_pos (by simp [mute])]
      exact ⟨final, run_cons_eq_some.2 ⟨after, followed, reached⟩, matched⟩

end SoulClaw.Foundation.Runs
