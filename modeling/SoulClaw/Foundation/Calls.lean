import Mathlib.Data.List.Basic

/-! Calls that return or raise, one after the other. What the calls of one kind return over a whole run follows
from what a single call does. -/

namespace SoulClaw.Foundation.Calls

variable {State Call Output Error : Type*} {perform : State → Call → Except Error Output × State}

/-- The state that a sequence of calls leaves. -/
def after (perform : State → Call → Except Error Output × State) : State → List Call → State :=
  List.foldl fun state call => (perform state call).2

/-- What the chosen calls of a sequence return, in order. -/
def returned (perform : State → Call → Except Error Output × State) (chosen : Call → Bool) : State → List Call → List Output
  | _, [] => []
  | state, call :: rest =>
      let others := returned perform chosen (perform state call).2 rest
      if chosen call then
        match (perform state call).1 with
        | .ok output => output :: others
        | .error _ => others
      else others

@[simp] theorem after_nil (state : State) : after perform state [] = state := rfl

theorem after_cons (state : State) (call : Call) (rest : List Call) :
    after perform state (call :: rest) = after perform (perform state call).2 rest := rfl

/-- What no call changes, no sequence of them changes. -/
theorem after_keeps (holds : State → Prop) (keeps : ∀ state call, holds state → holds (perform state call).2)
    {state : State} (start : holds state) (calls : List Call) : holds (after perform state calls) := by
  induction calls generalizing state with
  | nil => exact start
  | cons call rest ih =>
    rw [after_cons]
    exact ih (keeps state call start)

section Closing
variable {chosen : Call → Bool} {closed : State → Prop}

/-- From a closed state on, a chosen call returns nothing. -/
theorem returned_of_closed (keeps : ∀ state call, closed state → closed (perform state call).2)
    (refuses : ∀ state call, closed state → chosen call → ∃ raised, (perform state call).1 = .error raised)
    {state : State} (start : closed state) (calls : List Call) : returned perform chosen state calls = [] := by
  induction calls generalizing state with
  | nil => rfl
  | cons call rest ih =>
    have others := ih (keeps state call start)
    rw [returned, others]
    by_cases picked : chosen call
    · obtain ⟨raised, failed⟩ := refuses state call start picked
      rw [if_pos picked, failed]
    · rw [if_neg picked]

/-- Where a chosen call that returns closes the state, at most one of them returns. -/
theorem returned_length_le_one (closed : State → Prop) (keeps : ∀ state call, closed state → closed (perform state call).2)
    (refuses : ∀ state call, closed state → chosen call → ∃ raised, (perform state call).1 = .error raised)
    (closes : ∀ state call output, chosen call → (perform state call).1 = .ok output → closed (perform state call).2)
    (state : State) (calls : List Call) : (returned perform chosen state calls).length ≤ 1 := by
  induction calls generalizing state with
  | nil => exact Nat.zero_le 1
  | cons call rest ih =>
    have others := ih (perform state call).2
    rw [returned]
    by_cases picked : chosen call
    · rw [if_pos picked]
      cases result : (perform state call).1 with
      | error raised => exact others
      | ok output =>
        have nothing := returned_of_closed keeps refuses (closes state call output picked result) rest
        rw [nothing]
        exact Nat.le_refl 1
    · rw [if_neg picked]
      exact others

end Closing

end SoulClaw.Foundation.Calls
