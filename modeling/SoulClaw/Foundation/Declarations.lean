import Mathlib.Data.List.Induction
import Mathlib.Logic.Function.Basic

/-! A dictionary into which items enter their names one after the other, each with the value of
the item. The last item that declares a name is the one it stands for. -/

namespace SoulClaw.Foundation.Declarations

variable {Item Name Value : Type*} [DecidableEq Name] (names : Item → List Name) (value : Item → Value)

def enter (known : Name → Option Value) (item : Item) : Name → Option Value :=
  (names item).foldl (fun known name => Function.update known name (some (value item))) known

def table (items : List Item) : Name → Option Value := items.foldl (enter names value) fun _ => none

/-- The last item that declares the name. -/
def owner (items : List Item) (name : Name) : Option Item := items.reverse.find? fun item => name ∈ names item

theorem foldl_update (declared : List Name) (entry : Value) (known : Name → Option Value) (name : Name) :
    declared.foldl (fun known name => Function.update known name (some entry)) known name =
      if name ∈ declared then some entry else known name := by
  induction declared generalizing known with
  | nil => simp
  | cons first rest ih =>
    rw [List.foldl_cons, ih]
    by_cases later : name ∈ rest
    · rw [if_pos later, if_pos (List.mem_cons_of_mem _ later)]
    · by_cases same : name = first
      · rw [if_neg later, same, if_pos List.mem_cons_self, Function.update_self]
      · rw [if_neg later, if_neg fun member => (List.mem_cons.1 member).elim same later, Function.update_of_ne same]

theorem enter_apply (known : Name → Option Value) (item : Item) (name : Name) :
    enter names value known item name = if name ∈ names item then some (value item) else known name :=
  foldl_update (names item) (value item) known name

theorem owner_concat (items : List Item) (last : Item) (name : Name) :
    owner names (items ++ [last]) name = if name ∈ names last then some last else owner names items name := by
  rw [owner, List.reverse_append, List.reverse_singleton, List.singleton_append, List.find?_cons]
  by_cases declared : name ∈ names last
  · rw [if_pos declared, decide_eq_true declared]
  · rw [if_neg declared, decide_eq_false declared]
    rfl

theorem table_apply (items : List Item) (name : Name) :
    table names value items name = (owner names items name).map value := by
  induction items using List.reverseRecOn with
  | nil => rfl
  | append_singleton items last ih =>
    rw [table, List.foldl_append, List.foldl_cons, List.foldl_nil, enter_apply, owner_concat]
    split
    · rfl
    · exact ih

variable {names} {items : List Item} {item : Item} {name : Name}

theorem mem_of_owner (owned : owner names items name = some item) : item ∈ items :=
  List.mem_reverse.1 (List.mem_of_find?_eq_some owned)

/-- Nobody after the owner declares the name again. -/
theorem owner_of_last {before after : List Item} (declares : name ∈ names item)
    (silent : ∀ other ∈ after, name ∉ names other) : owner names (before ++ item :: after) name = some item := by
  induction after using List.reverseRecOn with
  | nil => rw [owner_concat, if_pos declares]
  | append_singleton after last ih =>
    rw [← List.cons_append, ← List.append_assoc, owner_concat,
      if_neg (silent last (List.mem_append_right _ List.mem_cons_self))]
    exact ih fun other member => silent other (List.mem_append_left _ member)

/-- Somebody behind the item declares the name, and the last to do so owns it. -/
theorem owner_of_later (before : List Item) (item : Item) {after : List Item} (later : ∃ other ∈ after, name ∈ names other) :
    ∃ other ∈ after, owner names (before ++ item :: after) name = some other := by
  induction after using List.reverseRecOn with
  | nil =>
    obtain ⟨other, member, _⟩ := later
    cases member
  | append_singleton after last ih =>
    rw [← List.cons_append, ← List.append_assoc, owner_concat]
    by_cases declares : name ∈ names last
    · exact ⟨last, List.mem_append_right _ List.mem_cons_self, if_pos declares⟩
    · rw [if_neg declares]
      obtain ⟨other, member, found⟩ := later
      have inside : other ∈ after := by
        rcases List.mem_append.1 member with inside | isLast
        · exact inside
        · exact absurd (List.mem_singleton.1 isLast ▸ found) declares
      obtain ⟨owned, known, owns⟩ := ih ⟨other, inside, found⟩
      exact ⟨owned, List.mem_append_left _ known, owns⟩

/-- An item keeps a name that it declares exactly when no item behind it declares the name again. -/
theorem table_keeps_iff {before after : List Item} (declares : name ∈ names item)
    (apart : ∀ other ∈ after, value other ≠ value item) :
    table names value (before ++ item :: after) name = some (value item) ↔
      ∀ other ∈ after, name ∉ names other := by
  rw [table_apply]
  constructor
  · intro kept other member found
    obtain ⟨later, known, owns⟩ := owner_of_later before item ⟨other, member, found⟩
    rw [owns, Option.map_some] at kept
    exact apart later known (Option.some.inj kept)
  · intro silent
    rw [owner_of_last declares silent, Option.map_some]

end SoulClaw.Foundation.Declarations
