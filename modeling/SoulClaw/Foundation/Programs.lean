import SoulClaw.Foundation.Text

/-! Programs that read and write a state outside of the process, and may raise. A program that raises leaves
behind what it has written by then. -/

namespace SoulClaw.Foundation

abbrev Program (State : Type) := ExceptT PyException (StateM State)

namespace Program
variable {State Value Other : Type} {state next : State}

/-- What a program returns or raises, and the state that it leaves. -/
def exec (program : Program State Value) (state : State) : Except PyException Value × State :=
  Id.run (StateT.run (ExceptT.run program) state)

/-- Reads the state. -/
def look (query : State → Except PyException Value) : Program State Value :=
  ExceptT.mk fun state => (query state, state)

/-- Writes the state, unless it raises. -/
def write (operation : State → Except PyException State) : Program State Unit :=
  ExceptT.mk fun state =>
    match operation state with
    | .ok next => (.ok (), next)
    | .error raised => (.error raised, state)

/-- What does not depend on the state. -/
def ofExcept (value : Except PyException Value) : Program State Value := ExceptT.mk fun state => (value, state)

theorem exec_bind (program : Program State Value) (continue' : Value → Program State Other) (state : State) :
    (program >>= continue').exec state =
      match program.exec state with
      | (.ok value, next) => (continue' value).exec next
      | (.error raised, next) => (.error raised, next) := by
  show (match program.exec state with | (returned, next) => ExceptT.bindCont continue' returned next) = _
  cases program.exec state with
  | mk returned next => cases returned <;> rfl

@[simp] theorem exec_pure (value : Value) : (pure value : Program State Value).exec state = (.ok value, state) := rfl

@[simp] theorem exec_look (query : State → Except PyException Value) :
    (look query).exec state = (query state, state) := rfl

@[simp] theorem exec_ofExcept (value : Except PyException Value) :
    (ofExcept value : Program State Value).exec state = (value, state) := rfl

theorem exec_write (operation : State → Except PyException State) (state : State) : (write operation).exec state =
    match operation state with
    | .ok next => (.ok (), next)
    | .error raised => (.error raised, state) := rfl

/-- A program goes on from what its first part returns. -/
theorem exec_bind_of_ok {program : Program State Value} {value : Value} (continue' : Value → Program State Other)
    (ran : program.exec state = (.ok value, next)) : (program >>= continue').exec state = (continue' value).exec next := by
  rw [exec_bind, ran]

/-- A program ends where its first part raises. -/
theorem exec_bind_of_error {program : Program State Value} {raised : PyException}
    (continue' : Value → Program State Other) (ran : program.exec state = (.error raised, next)) :
    (program >>= continue').exec state = (.error raised, next) := by
  rw [exec_bind, ran]

/-- A program that returns has gone on from what its first part returned. -/
theorem exec_bind_eq_ok {program : Program State Value} {continue' : Value → Program State Other} {value : Other} :
    (program >>= continue').exec state = (.ok value, next) ↔
      ∃ first between, program.exec state = (.ok first, between) ∧ (continue' first).exec between = (.ok value, next) := by
  rw [exec_bind]
  cases program.exec state with
  | mk returned between =>
    cases returned with
    | error raised =>
      constructor
      · intro same
        cases same
      · rintro ⟨_, _, same, _⟩
        cases same
    | ok first =>
      constructor
      · exact fun ran => ⟨first, between, rfl, ran⟩
      · rintro ⟨_, _, same, ran⟩
        cases same
        exact ran

theorem exec_write_of_ok {operation : State → Except PyException State} (returned : operation state = .ok next) :
    (write operation).exec state = (.ok (), next) := by
  rw [exec_write, returned]

theorem exec_write_eq_ok {operation : State → Except PyException State} {value : Unit} :
    (write operation).exec state = (.ok value, next) ↔ operation state = .ok next := by
  rw [exec_write]
  cases operation state with
  | error raised => simp
  | ok written => simp

/-- A loop returns if its body does, and what holds of the items done holds of all of them in the end. -/
theorem exec_foldlM {Item : Type} {body : Value → Item → Program State Value} {items : List Item}
    (invariant : List Item → Value → State → Prop)
    (step : ∀ done item later value state, items = done ++ item :: later → invariant done value state →
      ∃ value' next, (body value item).exec state = (.ok value', next) ∧ invariant (done ++ [item]) value' next)
    {value : Value} (start : invariant [] value state) :
    ∃ value' next, (items.foldlM body value).exec state = (.ok value', next) ∧ invariant items value' next := by
  have onward : ∀ later done value state, items = done ++ later → invariant done value state →
      ∃ value' next, (later.foldlM body value).exec state = (.ok value', next) ∧ invariant items value' next := by
    intro later
    induction later with
    | nil =>
      intro done value state split kept
      rw [List.append_nil] at split
      exact ⟨value, state, rfl, split ▸ kept⟩
    | cons item later ih =>
      intro done value state split kept
      obtain ⟨between, middle, ran, kept'⟩ := step done item later value state split kept
      obtain ⟨value', next, ran', ended⟩ := ih (done ++ [item]) between middle (by simp [split]) kept'
      exact ⟨value', next, by rw [List.foldlM_cons, exec_bind_of_ok _ ran, ran'], ended⟩
  exact onward items [] value state rfl start

/-- A loop that returns nothing. -/
theorem exec_forM {Item : Type} {body : Item → Program State Unit} {items : List Item}
    (invariant : List Item → State → Prop)
    (step : ∀ done item later state, items = done ++ item :: later → invariant done state →
      ∃ next, (body item).exec state = (.ok (), next) ∧ invariant (done ++ [item]) next)
    (start : invariant [] state) : ∃ next, (items.forM body).exec state = (.ok (), next) ∧ invariant items next := by
  have onward : ∀ later done state, items = done ++ later → invariant done state →
      ∃ next, (later.forM body).exec state = (.ok (), next) ∧ invariant items next := by
    intro later
    induction later with
    | nil =>
      intro done state split kept
      rw [List.append_nil] at split
      exact ⟨state, rfl, split ▸ kept⟩
    | cons item later ih =>
      intro done state split kept
      obtain ⟨between, ran, kept'⟩ := step done item later state split kept
      obtain ⟨next, ran', ended⟩ := ih (done ++ [item]) between (by simp [split]) kept'
      exact ⟨next, (exec_bind_of_ok _ ran).trans ran', ended⟩
  exact onward items [] state rfl start

end Program

end SoulClaw.Foundation
