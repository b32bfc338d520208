import Mathlib.Data.List.Forall2
import Mathlib.Logic.Function.Basic
import Mathlib.Logic.Relation

/-! Finite runs of a system that is given by a partial step function. The rules below
turn facts about one step into facts about every run, with or without a condition that
each step of the run has to meet. -/

namespace SoulClaw.Foundation.Runs

variable {State Action : Type*} {step : State → Action → Option State}

/-- An action that is not enabled ends the run with `none`. -/
def run (step : State → Action → Option State) : State → List Action → Option State
  | state, [] => some state
  | state, action :: rest => (step state action).bind (run step · rest)

/-- Every step of the run meets `guard`, which sees the state before the step. -/
def Along (step : State → Action → Option State) (guard : State → Action → Prop) :
    State → List Action → Prop
  | _, [] => True
  | state, action :: rest =>
      guard state action ∧ ∀ next, step state action = some next → Along step guard next rest

def Reachable (step : State → Action → Option State) (initial state : State) : Prop :=
  ∃ actions, run step initial actions = some state

@[simp] theorem run_nil (state : State) : run step state [] = some state := rfl

theorem run_cons (state : State) (action : Action) (rest : List Action) :
    run step state (action :: rest) = (step state action).bind (run step · rest) := rfl

theorem run_append (state : State) (first second : List Action) :
    run step state (first ++ second) = (run step state first).bind (run step · second) := by
  induction first generalizing state with
  | nil => rfl
  | cons action rest ih =>
    rw [List.cons_append, run_cons, run_cons, Option.bind_assoc]
    congr 1
    funext next
    exact ih next

theorem run_cons_eq_some {state last : State} {action : Action} {rest : List Action} :
    run step state (action :: rest) = some last ↔
      ∃ next, step state action = some next ∧ run step next rest = some last := by
  rw [run_cons, Option.bind_eq_some_iff]

theorem along_cons {guard : State → Action → Prop} {state : State} {action : Action}
    {rest : List Action} : Along step guard state (action :: rest) ↔
      guard state action ∧ ∀ next, step state action = some next → Along step guard next rest :=
  Iff.rfl

instance decidableAlong {guard : State → Action → Prop} [∀ state action, Decidable (guard state action)] :
    (state : State) → (actions : List Action) → Decidable (Along step guard state actions)
  | _, [] => isTrue trivial
  | state, action :: rest =>
      match enabled : step state action with
      | none => decidable_of_iff (guard state action) (by simp [along_cons, enabled])
      | some next =>
          have : Decidable (Along step guard next rest) := decidableAlong next rest
          decidable_of_iff (guard state action ∧ Along step guard next rest)
            (by simp [along_cons, enabled])

theorem along_of_forall_mem {guard : Action → Prop} (state : State) (actions : List Action)
    (allowed : ∀ action ∈ actions, guard action) :
    Along step (fun _ action => guard action) state actions := by
  induction actions generalizing state with
  | nil => trivial
  | cons action rest ih =>
    exact ⟨allowed action (List.mem_cons_self ..),
      fun next _ => ih next (fun other member => allowed other (List.mem_cons_of_mem _ member))⟩

theorem Along.and {first second : State → Action → Prop} {state : State} {actions : List Action}
    (left : Along step first state actions) (right : Along step second state actions) :
    Along step (fun s a => first s a ∧ second s a) state actions := by
  induction actions generalizing state with
  | nil => trivial
  | cons action rest ih =>
    exact ⟨⟨left.1, right.1⟩, fun next taken => ih (left.2 next taken) (right.2 next taken)⟩

/-- A step of a guarded run meets the guard. -/
theorem guard_of_along {guard : State → Action → Prop} {start state : State} {front back : List Action} {action : Action}
    (along : Along step guard start (front ++ action :: back)) (ran : run step start front = some state) :
    guard state action := by
  induction front generalizing start with
  | nil =>
    cases ran
    exact along.1
  | cons first rest ih =>
    obtain ⟨next, taken, ran⟩ := run_cons_eq_some.1 ran
    exact ih (along.2 next taken) ran

/-- An invariant of the guarded steps holds at the end of every guarded run. -/
theorem run_invariant_along {guard : State → Action → Prop} (invariant : State → Prop)
    (preserved : ∀ state action next, invariant state → guard state action →
      step state action = some next → invariant next)
    {state last : State} {actions : List Action} (start : invariant state)
    (guarded : Along step guard state actions) (ran : run step state actions = some last) :
    invariant last := by
  induction actions generalizing state with
  | nil => cases ran; exact start
  | cons action rest ih =>
    obtain ⟨next, taken, ran⟩ := run_cons_eq_some.1 ran
    exact ih (preserved state action next start guarded.1 taken) (guarded.2 next taken) ran

theorem run_invariant (invariant : State → Prop)
    (preserved : ∀ state action next, invariant state → step state action = some next → invariant next)
    {state last : State} {actions : List Action} (start : invariant state)
    (ran : run step state actions = some last) : invariant last := by
  have guarded : Along step (fun _ _ => True) state actions := along_of_forall_mem state actions fun _ _ => trivial
  exact run_invariant_along invariant (fun first action next holds _ taken => preserved first action next holds taken)
    start guarded ran

/-- Where a guard says exactly which of the allowed steps keep an invariant, given what every step keeps, the runs along
it are those that keep the invariant to every state that they pass. -/
theorem along_iff_of_exact_within {guard : State → Action → Prop} {allowed : Action → Prop}
    (background invariant : State → Prop) (idle : ∀ state action, step state action = none → guard state action)
    (kept : ∀ state action next, background state → step state action = some next → background next)
    (exact_ : ∀ state action next, background state → invariant state → allowed action →
      step state action = some next → (invariant next ↔ guard state action))
    {state : State} {actions : List Action} (listed : ∀ action ∈ actions, allowed action) (grounded : background state)
    (start : invariant state) : Along step guard state actions ↔
      ∀ passed last, passed <+: actions → run step state passed = some last → invariant last := by
  induction actions generalizing state with
  | nil =>
    refine iff_of_true trivial fun passed last inside ran => ?_
    rw [List.prefix_nil.1 inside] at ran
    cases ran
    exact start
  | cons action rest ih =>
    have here := listed action List.mem_cons_self
    have later : ∀ action ∈ rest, allowed action := fun other member => listed other (List.mem_cons_of_mem _ member)
    constructor
    · rintro ⟨met, guarded⟩ passed last inside ran
      cases passed with
      | nil =>
        cases ran
        exact start
      | cons first passed =>
        obtain ⟨rfl, front⟩ := List.cons_prefix_cons.1 inside
        obtain ⟨next, taken, ran⟩ := run_cons_eq_some.1 ran
        have holds := (exact_ state first next grounded start here taken).2 met
        exact (ih later (kept state first next grounded taken) holds).1 (guarded next taken) passed last front ran
    · intro holds
      cases taken : step state action with
      | none => exact ⟨idle state action taken, fun next reached => by rw [taken] at reached; cases reached⟩
      | some next =>
        have reached : invariant next :=
          holds [action] next ⟨rest, rfl⟩ (run_cons_eq_some.2 ⟨next, taken, rfl⟩)
        refine ⟨(exact_ state action next grounded start here taken).1 reached, fun other same => ?_⟩
        obtain rfl := Option.some.inj (taken.symm.trans same)
        refine (ih later (kept state action next grounded taken) reached).2 fun passed last inside ran => ?_
        exact holds (action :: passed) last (List.cons_prefix_cons.2 ⟨rfl, inside⟩)
          (run_cons_eq_some.2 ⟨next, taken, ran⟩)

/-- A guard that says exactly which steps keep an invariant, where every action is enabled. -/
theorem along_iff_of_exact {guard : State → Action → Prop} (invariant : State → Prop)
    (total : ∀ state action, ∃ next, step state action = some next)
    (exact_ : ∀ state action next, invariant state → step state action = some next →
      (invariant next ↔ guard state action))
    {state : State} (actions : List Action) (start : invariant state) :
    Along step guard state actions ↔
      ∀ passed last, passed <+: actions → run step state passed = some last → invariant last := by
  refine @along_iff_of_exact_within _ _ step guard (fun _ => True) (fun _ => True) invariant ?_ (fun _ _ _ _ _ => trivial)
    (fun state action next _ holds _ taken => exact_ state action next holds taken) state actions (fun _ _ => trivial)
    trivial start
  intro state action none
  obtain ⟨next, taken⟩ := total state action
  rw [none] at taken
  cases taken

/-- What a guarded step relates under an invariant, a guarded run relates end to end. -/
theorem run_relation_along {guard : State → Action → Prop} (invariant : State → Prop)
    (relation : State → State → Prop) (reflexive : ∀ state, relation state state)
    (transitive : ∀ first second third, relation first second → relation second third →
      relation first third)
    (preserved : ∀ state action next, invariant state → guard state action →
      step state action = some next → invariant next ∧ relation state next)
    {state last : State} {actions : List Action} (start : invariant state)
    (guarded : Along step guard state actions) (ran : run step state actions = some last) :
    relation state last := by
  induction actions generalizing state with
  | nil => cases ran; exact reflexive _
  | cons action rest ih =>
    obtain ⟨next, taken, ran⟩ := run_cons_eq_some.1 ran
    obtain ⟨holds, related⟩ := preserved state action next start guarded.1 taken
    exact transitive _ _ _ related (ih holds (guarded.2 next taken) ran)

/-- What two guarded steps keep, two guarded runs of paired actions keep. -/
theorem run_pair_along {guard : State → Action → Prop} (relation : State → State → Prop)
    (pairs : Action → Action → Prop)
    (preserved : ∀ first second action other next reached, relation first second → pairs action other →
      guard first action → guard second other → step first action = some next → step second other = some reached →
      relation next reached)
    {first second last final : State} {actions others : List Action} (alike : List.Forall₂ pairs actions others)
    (start : relation first second) (guarded : Along step guard first actions)
    (guarded' : Along step guard second others) (ran : run step first actions = some last)
    (ran' : run step second others = some final) : relation last final := by
  induction alike generalizing first second with
  | nil =>
    cases ran
    cases ran'
    exact start
  | cons paired rest ih =>
    obtain ⟨next, taken, ran⟩ := run_cons_eq_some.1 ran
    obtain ⟨reached, taken', ran'⟩ := run_cons_eq_some.1 ran'
    exact ih (preserved _ _ _ _ _ _ start paired guarded.1 guarded'.1 taken taken') (guarded.2 next taken)
      (guarded'.2 reached taken') ran ran'

/-- What a body that may raise keeps, a loop over it keeps when it does not raise. -/
theorem foldlM_invariant {Error Item : Type*} {body : State → Item → Except Error State} (invariant : State → Prop)
    (preserved : ∀ state item next, invariant state → body state item = .ok next → invariant next)
    {items : List Item} {state last : State} (start : invariant state) (ran : items.foldlM body state = .ok last) :
    invariant last := by
  induction items generalizing state with
  | nil =>
    cases ran
    exact start
  | cons item rest ih =>
    rw [List.foldlM_cons] at ran
    cases taken : body state item with
    | error error =>
      rw [taken] at ran
      cases ran
    | ok next =>
      rw [taken] at ran
      exact ih (preserved state item next start taken) ran

/-- When every action puts its own value in its component of a view and leaves the other components
alone, a run leaves these values in the components of its actions. -/
theorem run_view {Value : Type*} [DecidableEq Action] {view : State → Action → Value} {own : Action → Value}
    (replaces : ∀ state action next, step state action = some next →
      view next = Function.update (view state) action (own action))
    {state last : State} {actions : List Action} (ran : run step state actions = some last) (action : Action) :
    view last action = if action ∈ actions then own action else view state action := by
  induction actions generalizing state with
  | nil =>
    cases ran
    rfl
  | cons first rest ih =>
    obtain ⟨next, taken, ran⟩ := run_cons_eq_some.1 ran
    rw [ih ran]
    by_cases later : action ∈ rest
    · rw [if_pos later, if_pos (List.mem_cons_of_mem _ later)]
    · rw [if_neg later, replaces state first next taken]
      by_cases here : action = first
      · rw [here, Function.update_self, if_pos List.mem_cons_self]
      · rw [Function.update_of_ne here, if_neg fun member => (List.mem_cons.1 member).elim here later]

theorem Reachable.refl (state : State) : Reachable step state state := ⟨[], rfl⟩

theorem Reachable.head {first second third : State} {action : Action}
    (taken : step first action = some second) (later : Reachable step second third) :
    Reachable step first third := by
  obtain ⟨actions, ran⟩ := later
  exact ⟨action :: actions, run_cons_eq_some.2 ⟨second, taken, ran⟩⟩

theorem Reachable.trans {first second third : State} (earlier : Reachable step first second)
    (later : Reachable step second third) : Reachable step first third := by
  obtain ⟨before, ran⟩ := earlier
  obtain ⟨after, rest⟩ := later
  exact ⟨before ++ after, by rw [run_append, ran]; exact rest⟩

end SoulClaw.Foundation.Runs
