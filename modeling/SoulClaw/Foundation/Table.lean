import Mathlib.Algebra.Order.BigOperators.Group.Finset
import Mathlib.Data.List.Nodup

/-! Tables that only grow: a row keeps the identifier it got at its insertion, which is
its position. Fresh and distinct identifiers therefore need no side condition. -/

namespace SoulClaw.Foundation

structure Table (Row : Type*) where
  rows : List Row
  deriving DecidableEq, Repr

namespace Table

variable {Row : Type*}

def empty : Table Row := ⟨[]⟩

def size (table : Table Row) : Nat := table.rows.length

def get? (table : Table Row) (id : Nat) : Option Row := table.rows[id]?

def insert (table : Table Row) (row : Row) : Table Row := ⟨table.rows ++ [row]⟩

def set (table : Table Row) (id : Nat) (row : Row) : Table Row := ⟨table.rows.set id row⟩

/-- A row that does not exist stays so. -/
def modify (table : Table Row) (id : Nat) (change : Row → Row) : Table Row :=
  match table.get? id with
  | some row => table.set id (change row)
  | none => table

/-- The first row, in order of insertion, that satisfies `test`. -/
def find? (table : Table Row) (test : Row → Bool) : Option Nat := table.rows.findIdx? test

/-- The identifiers of the rows that satisfy `test`, in order of insertion. -/
def select (table : Table Row) (test : Row → Bool) : List Nat :=
  (List.range table.size).filter fun id => (table.get? id).any test

@[simp] theorem get?_empty (id : Nat) : (empty : Table Row).get? id = none := by
  simp [empty, get?]

theorem get?_lt {table : Table Row} {id : Nat} {row : Row} (found : table.get? id = some row) :
    id < table.size := (List.getElem?_eq_some_iff.1 found).1

theorem get?_of_size_le {table : Table Row} {id : Nat} (outside : table.size ≤ id) :
    table.get? id = none := List.getElem?_eq_none outside

theorem get?_insert (table : Table Row) (row : Row) (id : Nat) :
    (table.insert row).get? id = if id = table.size then some row else table.get? id := by
  unfold get? insert size
  by_cases fresh : id = table.rows.length
  · subst fresh
    simp
  · rw [if_neg fresh]
    by_cases known : id < table.rows.length
    · exact List.getElem?_append_left known
    · rw [List.getElem?_eq_none (by simp; omega), List.getElem?_eq_none (by omega)]

@[simp] theorem get?_insert_self (table : Table Row) (row : Row) :
    (table.insert row).get? table.size = some row := by
  rw [get?_insert, if_pos rfl]

theorem get?_insert_of_some {table : Table Row} {id : Nat} {old : Row} (row : Row)
    (found : table.get? id = some old) : (table.insert row).get? id = some old := by
  rw [get?_insert, if_neg (Nat.ne_of_lt (get?_lt found)), found]

@[simp] theorem size_insert (table : Table Row) (row : Row) :
    (table.insert row).size = table.size + 1 := by simp [size, insert]

@[simp] theorem size_set (table : Table Row) (id : Nat) (row : Row) :
    (table.set id row).size = table.size := by simp [size, set]

theorem get?_set (table : Table Row) (id : Nat) (row : Row) (other : Nat) :
    (table.set id row).get? other =
      if other = id ∧ id < table.size then some row else table.get? other := by
  simp only [get?, set, size, List.getElem?_set]
  by_cases same : id = other
  · subst same
    by_cases known : id < table.rows.length
    · simp [known]
    · simp [known]
  · simp [same, Ne.symm same]

theorem get?_set_self {table : Table Row} {id : Nat} {old : Row} (row : Row)
    (found : table.get? id = some old) : (table.set id row).get? id = some row := by
  rw [get?_set, if_pos ⟨rfl, get?_lt found⟩]

theorem get?_set_ne (table : Table Row) {id other : Nat} (row : Row) (different : other ≠ id) :
    (table.set id row).get? other = table.get? other := by
  rw [get?_set, if_neg fun same => different same.1]

/-- What a write does not change in the row, it changes nowhere. -/
theorem map_get?_set {Field : Type*} {table : Table Row} {id : Nat} {row next : Row} {field : Row → Field}
    (found : table.get? id = some row) (same : field next = field row) (other : Nat) :
    ((table.set id next).get? other).map field = (table.get? other).map field := by
  by_cases here : other = id
  · rw [here, get?_set_self next found, found, Option.map_some, Option.map_some, same]
  · rw [get?_set_ne _ _ here]

theorem modify_of_some {table : Table Row} {id : Nat} {row : Row} (change : Row → Row)
    (found : table.get? id = some row) : table.modify id change = table.set id (change row) := by
  rw [modify, found]

theorem modify_of_none {table : Table Row} {id : Nat} (change : Row → Row)
    (missing : table.get? id = none) : table.modify id change = table := by
  rw [modify, missing]

theorem get?_modify (table : Table Row) (id : Nat) (change : Row → Row) (other : Nat) :
    (table.modify id change).get? other =
      if other = id then (table.get? other).map change else table.get? other := by
  cases found : table.get? id with
  | none =>
    rw [modify_of_none change found]
    by_cases same : other = id
    · rw [if_pos same, same, found, Option.map_none]
    · rw [if_neg same]
  | some row =>
    rw [modify_of_some change found]
    by_cases same : other = id
    · rw [if_pos same, same, get?_set_self _ found, found, Option.map_some]
    · rw [if_neg same, get?_set_ne _ _ same]

/-- A row after the change is a row from before, or the changed one. -/
theorem modify_cases {table : Table Row} {id other : Nat} {change : Row → Row} {row : Row}
    (found : (table.modify id change).get? other = some row) :
    ∃ old, table.get? other = some old ∧ (other ≠ id ∧ row = old ∨ other = id ∧ row = change old) := by
  rw [get?_modify] at found
  by_cases here : other = id
  · rw [if_pos here] at found
    obtain ⟨old, known, changed⟩ := Option.map_eq_some_iff.1 found
    exact ⟨old, known, .inr ⟨here, changed.symm⟩⟩
  · rw [if_neg here] at found
    exact ⟨row, found, .inl ⟨here, rfl⟩⟩

theorem insert_cases {table : Table Row} {id : Nat} {next row : Row}
    (found : (table.insert next).get? id = some row) :
    table.get? id = some row ∨ id = table.size ∧ row = next := by
  rw [get?_insert] at found
  split at found
  next fresh => exact .inr ⟨fresh, (Option.some.inj found).symm⟩
  next => exact .inl found

@[simp] theorem size_modify (table : Table Row) (id : Nat) (change : Row → Row) :
    (table.modify id change).size = table.size := by
  unfold modify
  split
  · exact size_set ..
  · rfl

theorem set_insert (table : Table Row) (first second : Row) :
    (table.insert first).set table.size second = table.insert second := by
  simp [set, insert, size]

theorem mem_select {table : Table Row} {test : Row → Bool} {id : Nat} :
    id ∈ table.select test ↔ ∃ row, table.get? id = some row ∧ test row = true := by
  simp only [select, List.mem_filter, List.mem_range, Option.any_eq_true]
  constructor
  · rintro ⟨_, row, found, holds⟩
    exact ⟨row, found, holds⟩
  · rintro ⟨row, found, holds⟩
    exact ⟨get?_lt found, row, found, holds⟩

theorem select_nodup (table : Table Row) (test : Row → Bool) : (table.select test).Nodup :=
  List.nodup_range.filter _

theorem find?_eq_some {table : Table Row} {test : Row → Bool} {id : Nat}
    (found : table.find? test = some id) : ∃ row, table.get? id = some row ∧ test row = true := by
  obtain ⟨known, holds, _⟩ := List.findIdx?_eq_some_iff_getElem.1 found
  exact ⟨_, List.getElem?_eq_getElem known, holds⟩

theorem find?_eq_none {table : Table Row} {test : Row → Bool} :
    table.find? test = none ↔ ∀ id row, table.get? id = some row → test row = false := by
  rw [find?, List.findIdx?_eq_none_iff]
  constructor
  · intro absent id row found
    exact absent row (List.mem_of_getElem? found)
  · intro absent row member
    obtain ⟨id, found⟩ := List.getElem?_of_mem member
    exact absent id row found

/-- A row that does not satisfy the test is not found. -/
theorem find?_insert_of_false {test : Row → Bool} {row : Row} (fails : test row = false) (table : Table Row) :
    (table.insert row).find? test = table.find? test := by
  unfold find? insert
  rw [List.findIdx?_append, List.findIdx?_singleton, fails]
  simp

/-- A row that is changed without a change of what is looked for is found as before. -/
theorem find?_set {table : Table Row} {id : Nat} {row next : Row} {test : Row → Bool}
    (found : table.get? id = some row) (same : test next = test row) :
    (table.set id next).find? test = table.find? test := by
  obtain ⟨known, here⟩ := List.getElem?_eq_some_iff.1 found
  have kept : (table.rows.set id next).map test = table.rows.map test := by
    rw [List.map_set, same, ← here]
    apply List.ext_getElem?
    intro place
    rw [List.getElem?_set]
    by_cases own : id = place
    · subst own
      rw [if_pos rfl, List.length_map, if_pos known, List.getElem?_map, List.getElem?_eq_getElem known]
      rfl
    · rw [if_neg own]
  have found' : ∀ rows : List Row, rows.findIdx? test = (rows.map test).findIdx? fun holds => holds := by
    intro rows
    rw [List.findIdx?_map]
    rfl
  rw [find?, find?, found', found', set, kept]

/-! How many rows satisfy a test. -/

def count (table : Table Row) (test : Row → Bool) : Nat := table.rows.countP test

theorem count_insert (table : Table Row) (row : Row) (test : Row → Bool) :
    (table.insert row).count test = table.count test + if test row then 1 else 0 := by
  rw [count, insert, List.countP_append, List.countP_singleton]
  rfl

/-- A row that satisfies the test only where the one before it did adds nothing. -/
theorem count_set_le {table : Table Row} {id : Nat} {old row : Row} {test : Row → Bool}
    (found : table.get? id = some old) (less : test row = true → test old = true) :
    (table.set id row).count test ≤ table.count test := by
  obtain ⟨known, here⟩ := List.getElem?_eq_some_iff.1 found
  have before : 0 < table.rows.countP test ∨ test old = false := by
    cases kept : test old with
    | false => exact .inr rfl
    | true => exact .inl (List.countP_pos_iff.2 ⟨old, List.mem_of_getElem? found, kept⟩)
  rw [count, set, List.countP_set known, here, count]
  split <;> split <;> grind

theorem count_eq_zero {table : Table Row} {test : Row → Bool} :
    table.count test = 0 ↔ ∀ id row, table.get? id = some row → test row = false := by
  rw [← find?_eq_none, find?, List.findIdx?_eq_none_iff, count, List.countP_eq_zero]
  simp only [Bool.not_eq_true]

theorem find?_isSome {table : Table Row} {test : Row → Bool} : (table.find? test).isSome ↔ table.count test ≠ 0 := by
  rw [find?, List.findIdx?_isSome, List.any_eq_true, count, ← Nat.pos_iff_ne_zero, List.countP_pos_iff]

/-! The weight of a table bounds the work that its rows still ask for. -/

section Weight
variable (weight : Row → Nat)

def total (table : Table Row) : Nat :=
  ∑ id ∈ Finset.range table.size, (table.get? id).elim 0 weight

variable {weight} {before after : Table Row} (below : ∀ id row, before.get? id = some row →
  ∃ next, after.get? id = some next ∧ weight next ≤ weight row)
include below

private theorem elim_le (id : Nat) (known : id ∈ Finset.range before.size) :
    (after.get? id).elim 0 weight ≤ (before.get? id).elim 0 weight := by
  have inside : id < before.rows.length := Finset.mem_range.1 known
  have found : before.get? id = some before.rows[id] := List.getElem?_eq_getElem inside
  obtain ⟨next, reached, smaller⟩ := below id _ found
  rw [found, reached]
  exact smaller

theorem total_le (size : after.size = before.size) : after.total weight ≤ before.total weight := by
  unfold total
  rw [size]
  exact Finset.sum_le_sum (elim_le below)

theorem total_lt (size : after.size = before.size) {id : Nat} {row next : Row}
    (found : before.get? id = some row) (reached : after.get? id = some next)
    (smaller : weight next < weight row) : after.total weight < before.total weight := by
  unfold total
  rw [size]
  apply Finset.sum_lt_sum (elim_le below)
  refine ⟨id, Finset.mem_range.2 (get?_lt found), ?_⟩
  rw [found, reached]
  exact smaller

end Weight

theorem total_set_lt {table : Table Row} {weight : Row → Nat} {id : Nat} {row next : Row}
    (found : table.get? id = some row) (smaller : weight next < weight row) :
    (table.set id next).total weight < table.total weight := by
  refine total_lt ?_ (size_set ..) found (get?_set_self next found) smaller
  intro other current known
  by_cases here : other = id
  · subst here
    obtain rfl := Option.some.inj (found.symm.trans known)
    exact ⟨next, get?_set_self next found, smaller.le⟩
  · exact ⟨current, by rw [get?_set_ne _ _ here, known], Nat.le_refl _⟩

/-- Some number bounds a measure of all rows. -/
theorem exists_bound (table : Table Row) (measure : Row → Nat) :
    ∃ bound, ∀ id row, table.get? id = some row → measure row ≤ bound := by
  refine ⟨(table.rows.map measure).sum, fun id row found => ?_⟩
  have member : measure row ∈ table.rows.map measure :=
    List.mem_map_of_mem (List.mem_of_getElem? found)
  exact List.single_le_sum (fun _ _ => Nat.zero_le _) _ member

end Table

end SoulClaw.Foundation
