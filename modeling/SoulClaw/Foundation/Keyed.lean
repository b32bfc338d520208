import Mathlib.Data.List.Nodup
import Mathlib.Data.List.Perm.Basic

/-! Tables with a unique column that is part of the row. A table that keeps only the rows
under the keys of some items, and is then updated item by item, holds the image of the items,
whatever it held before. -/

namespace SoulClaw.Foundation

structure Keyed {Row Key : Type*} (key : Row → Key) where
  rows : List Row
  unique : (rows.map key).Nodup

/-- A change of a row that leaves the unique column alone. -/
structure KeptChange {Row Key : Type*} (key : Row → Key) where
  apply : Row → Row
  keeps : ∀ row, key (apply row) = key row

namespace Keyed

variable {Row Key : Type*} [DecidableEq Key] {key : Row → Key}

def empty : Keyed key := ⟨[], List.nodup_nil⟩

def keys (table : Keyed key) : List Key := table.rows.map key

/-- `DELETE ... WHERE key NOT IN (kept)`. -/
def restrict (table : Keyed key) (kept : List Key) : Keyed key :=
  ⟨table.rows.filter fun row => key row ∈ kept, table.unique.sublist (List.filter_sublist.map key)⟩

theorem mem_restrict {table : Keyed key} {kept : List Key} {row : Row} :
    row ∈ (table.restrict kept).rows ↔ row ∈ table.rows ∧ key row ∈ kept := by
  simp [restrict]

/-- `SELECT ... WHERE key = value`. -/
def find? (table : Keyed key) (value : Key) : Option Row := table.rows.find? fun row => key row = value

/-- `INSERT`, which the unique column refuses when its value is taken. -/
def insert? (table : Keyed key) (row : Row) : Option (Keyed key) :=
  if taken : key row ∈ table.keys then none
  else some ⟨table.rows ++ [row], by
    rw [List.map_append, List.map_singleton]
    exact List.nodup_append.2 ⟨table.unique, List.nodup_singleton _, fun value known other added same =>
      taken (List.mem_singleton.1 added ▸ same ▸ known)⟩⟩

/-- The rows after a change of the row under a key. -/
def modifyRows (rows : List Row) (value : Key) (change : KeptChange key) : List Row :=
  rows.map fun row => if key row = value then change.apply row else row

theorem keys_modifyRows (rows : List Row) (value : Key) (change : KeptChange key) :
    (modifyRows rows value change).map key = rows.map key := by
  unfold modifyRows
  rw [List.map_map]
  apply List.map_congr_left
  intro row _
  show key (if key row = value then change.apply row else row) = key row
  split
  · exact change.keeps row
  · rfl

/-- `UPDATE ... WHERE key = value`. -/
def modify (table : Keyed key) (value : Key) (change : KeptChange key) : Keyed key where
  rows := modifyRows table.rows value change
  unique := by
    rw [keys_modifyRows]
    exact table.unique

theorem find?_eq_some_iff {table : Keyed key} {value : Key} {row : Row} :
    table.find? value = some row ↔ row ∈ table.rows ∧ key row = value := by
  constructor
  · intro found
    exact ⟨List.mem_of_find?_eq_some found, by simpa using List.find?_some found⟩
  · rintro ⟨member, rfl⟩
    cases found : table.find? (key row) with
    | none => exact absurd (List.find?_eq_none.1 found row member) (by simp)
    | some other =>
      have same : key other = key row := by simpa using List.find?_some found
      rw [List.inj_on_of_nodup_map table.unique (List.mem_of_find?_eq_some found) member same]

theorem rows_of_insert? {table next : Keyed key} {row : Row} (inserted : table.insert? row = some next) :
    key row ∉ table.keys ∧ next.rows = table.rows ++ [row] := by
  unfold insert? at inserted
  split at inserted
  · cases inserted
  next free =>
    obtain rfl := Option.some.inj inserted
    exact ⟨free, rfl⟩

theorem find?_modify (table : Keyed key) (value other : Key) (change : KeptChange key) :
    (table.modify value change).find? other =
      if other = value then (table.find? value).map change.apply else table.find? other := by
  show (modifyRows table.rows value change).find? _ = _
  unfold find? modifyRows
  generalize table.rows = rows
  induction rows with
  | nil => simp
  | cons row rest ih =>
    rw [List.map_cons]
    by_cases own : key row = value
    · rw [if_pos own]
      have kept : key (change.apply row) = value := (change.keeps row).trans own
      by_cases same : other = value
      · subst same
        rw [if_pos rfl, List.find?_cons_of_pos (by simpa using kept), List.find?_cons_of_pos (by simpa using own)]
        rfl
      · have apart : value ≠ other := fun equal => same equal.symm
        rw [if_neg same] at ih
        rw [if_neg same, List.find?_cons_of_neg (by simpa [kept] using apart),
          List.find?_cons_of_neg (by simpa [own] using apart), ih]
    · rw [if_neg own]
      by_cases same : other = value
      · subst same
        rw [if_pos rfl] at ih
        rw [if_pos rfl, List.find?_cons_of_neg (by simpa using own), List.find?_cons_of_neg (by simpa using own), ih]
      · rw [if_neg same] at ih
        rw [if_neg same, List.find?_cons, List.find?_cons, ih]

section Put

/-- A dictionary assignment: the row under the key is replaced, or the row is added. -/
def put (table : Keyed key) (row : Row) : Keyed key where
  rows :=
    if key row ∈ table.keys then table.rows.map fun old => if key old = key row then row else old
    else table.rows ++ [row]
  unique := by
    split
    · have same : (table.rows.map fun old => if key old = key row then row else old).map key = table.keys := by
        rw [List.map_map]
        apply List.map_congr_left
        intro old _
        show key (if key old = key row then row else old) = key old
        split
        next equal => exact equal.symm
        next => rfl
      rw [same]
      exact table.unique
    next absent =>
      rw [List.map_append]
      refine List.nodup_append.2 ⟨table.unique, List.nodup_singleton _, fun value known other added same => ?_⟩
      have last : other = key row := List.mem_singleton.1 added
      rw [same, last] at known
      exact absent known

theorem mem_put {table : Keyed key} {row other : Row} :
    other ∈ (table.put row).rows ↔ other ∈ table.rows ∧ key other ≠ key row ∨ other = row := by
  unfold put
  dsimp only
  split
  next known =>
    obtain ⟨old, stored, found⟩ := List.mem_map.1 known
    rw [List.mem_map]
    constructor
    · rintro ⟨before, member, rfl⟩
      by_cases same : key before = key row
      · rw [if_pos same]
        exact .inr rfl
      · rw [if_neg same]
        exact .inl ⟨member, same⟩
    · rintro (⟨member, apart⟩ | rfl)
      · exact ⟨other, member, if_neg apart⟩
      · exact ⟨old, stored, if_pos found⟩
  next absent =>
    have apart : ∀ old ∈ table.rows, key old ≠ key row :=
      fun old stored same => absent (List.mem_map.2 ⟨old, stored, same⟩)
    rw [List.mem_append, List.mem_singleton]
    exact or_congr_left ⟨fun stored => ⟨stored, apart other stored⟩, And.left⟩

theorem find?_put (table : Keyed key) (row : Row) (value : Key) :
    (table.put row).find? value = if value = key row then some row else table.find? value := by
  by_cases same : value = key row
  · rw [if_pos same, find?_eq_some_iff, mem_put]
    exact ⟨.inr rfl, same.symm⟩
  · rw [if_neg same]
    ext other
    rw [find?_eq_some_iff, find?_eq_some_iff, mem_put]
    constructor
    · rintro ⟨⟨stored, _⟩ | rfl, here⟩
      · exact ⟨stored, here⟩
      · exact absurd here.symm same
    · rintro ⟨stored, rfl⟩
      exact ⟨.inl ⟨stored, same⟩, rfl⟩

/-- `del` of all keys that meet a condition. -/
def discard (table : Keyed key) (drops : Key → Bool) : Keyed key :=
  ⟨table.rows.filter fun row => !drops (key row), table.unique.sublist (List.filter_sublist.map key)⟩

omit [DecidableEq Key] in
theorem mem_discard {table : Keyed key} {drops : Key → Bool} {row : Row} :
    row ∈ (table.discard drops).rows ↔ row ∈ table.rows ∧ drops (key row) = false := by
  simp [discard]

/-- Assignments one after the other. -/
def putAll (table : Keyed key) (rows : List Row) : Keyed key := rows.foldl put table

theorem putAll_cons (table : Keyed key) (row : Row) (rest : List Row) :
    putAll table (row :: rest) = putAll (table.put row) rest := rfl

/-- A row of the result was there before, or is one of the assigned ones. -/
theorem mem_of_putAll {table : Keyed key} {rows : List Row} {row : Row} (member : row ∈ (table.putAll rows).rows) :
    row ∈ table.rows ∨ row ∈ rows := by
  induction rows generalizing table with
  | nil => exact .inl member
  | cons first rest ih =>
    rw [putAll_cons] at member
    rcases ih member with stored | later
    · rcases mem_put.1 stored with ⟨old, _⟩ | rfl
      · exact .inl old
      · exact .inr List.mem_cons_self
    · exact .inr (List.mem_cons_of_mem _ later)

/-- A key that is not assigned keeps its row. -/
theorem find?_putAll_of_absent {table : Keyed key} {rows : List Row} {value : Key}
    (absent : ∀ row ∈ rows, key row ≠ value) : (table.putAll rows).find? value = table.find? value := by
  induction rows generalizing table with
  | nil => rfl
  | cons first rest ih =>
    rw [putAll_cons, ih fun row member => absent row (List.mem_cons_of_mem _ member), find?_put,
      if_neg fun same => absent first List.mem_cons_self same.symm]

/-- An assigned row stays when no other one is assigned to its key. -/
theorem find?_putAll_of_alone {table : Keyed key} {rows : List Row} {row : Row} (member : row ∈ rows)
    (alone : ∀ other ∈ rows, key other = key row → other = row) : (table.putAll rows).find? (key row) = some row := by
  induction rows generalizing table with
  | nil => exact absurd member List.not_mem_nil
  | cons first rest ih =>
    rw [putAll_cons]
    by_cases later : row ∈ rest
    · exact ih later fun other here => alone other (List.mem_cons_of_mem _ here)
    · obtain rfl := (List.mem_cons.1 member).resolve_right later
      rw [find?_putAll_of_absent, find?_put, if_pos rfl]
      intro other here same
      exact later (alone other (List.mem_cons_of_mem _ here) same ▸ here)

end Put

section Upsert
variable (table : Keyed key) (fresh : Row) (change : KeptChange key)

/-- The rows after `change` of the row under the key of `fresh`, or of `fresh`, added as a row. -/
def upsertRows : List Row :=
  if key fresh ∈ table.keys then
    table.rows.map fun row => if key row = key fresh then change.apply row else row
  else table.rows ++ [change.apply fresh]

theorem keys_upsertRows : (upsertRows table fresh change).map key =
    if key fresh ∈ table.keys then table.keys else table.keys ++ [key fresh] := by
  unfold upsertRows
  split
  · rw [List.map_map, keys]
    apply List.map_congr_left
    intro row _
    show key (if key row = key fresh then change.apply row else row) = key row
    split
    · exact change.keeps row
    · rfl
  · rw [List.map_append, List.map_singleton, change.keeps, keys]

/-- The row with the key of `fresh` is found or added, and then changed. -/
def upsert : Keyed key where
  rows := upsertRows table fresh change
  unique := by
    rw [keys_upsertRows]
    split
    · exact table.unique
    next absent => exact List.nodup_append.2 ⟨table.unique, List.nodup_singleton _, fun value known other added same =>
        absent (List.mem_singleton.1 added ▸ same ▸ known)⟩

theorem mem_keys_upsert {value : Key} :
    value ∈ (table.upsert fresh change).keys ↔ value ∈ table.keys ∨ value = key fresh := by
  show value ∈ (upsertRows table fresh change).map key ↔ _
  rw [keys_upsertRows]
  split
  next known => exact ⟨.inl, fun either => either.elim id fun same => same ▸ known⟩
  next => rw [List.mem_append, List.mem_singleton]

/-- The other rows stay, and the row under the key is `image` when the change makes it so. -/
theorem mem_upsert {image : Row} (settles : ∀ row, key row = key fresh → change.apply row = image) {row : Row} :
    row ∈ (table.upsert fresh change).rows ↔ row ∈ table.rows ∧ key row ≠ key fresh ∨ row = image := by
  show row ∈ upsertRows table fresh change ↔ _
  unfold upsertRows
  split
  next known =>
    obtain ⟨old, stored, found⟩ := List.mem_map.1 known
    rw [List.mem_map]
    constructor
    · rintro ⟨before, member, rfl⟩
      by_cases same : key before = key fresh
      · rw [if_pos same, settles before same]
        exact .inr rfl
      · rw [if_neg same]
        exact .inl ⟨member, same⟩
    · rintro (⟨member, other⟩ | rfl)
      · exact ⟨row, member, if_neg other⟩
      · exact ⟨old, stored, by rw [if_pos found, settles old found]⟩
  next absent =>
    have other : ∀ old ∈ table.rows, key old ≠ key fresh :=
      fun old stored same => absent (List.mem_map.2 ⟨old, stored, same⟩)
    rw [List.mem_append, List.mem_singleton, settles fresh rfl]
    exact or_congr_left ⟨fun stored => ⟨stored, other row stored⟩, And.left⟩

end Upsert

section UpsertAll
variable {Item : Type*} (fresh : Item → Row) (change : Item → KeptChange key)

def upsertAll (table : Keyed key) (items : List Item) : Keyed key :=
  items.foldl (fun table item => table.upsert (fresh item) (change item)) table

@[simp] theorem upsertAll_nil (table : Keyed key) : upsertAll fresh change table [] = table := rfl

theorem upsertAll_cons (table : Keyed key) (item : Item) (rest : List Item) :
    upsertAll fresh change table (item :: rest) =
      upsertAll fresh change (table.upsert (fresh item) (change item)) rest := rfl

theorem mem_keys_upsertAll {table : Keyed key} {items : List Item} {value : Key} :
    value ∈ (upsertAll fresh change table items).keys ↔
      value ∈ table.keys ∨ value ∈ items.map fun item => key (fresh item) := by
  induction items generalizing table with
  | nil => simp
  | cons item rest ih => rw [upsertAll_cons, ih, mem_keys_upsert, or_assoc, List.map_cons, List.mem_cons]

variable {fresh change} {image : Item → Row}

theorem mem_upsertAll
    (settles : ∀ item row, key row = key (fresh item) → (change item).apply row = image item)
    {items : List Item} (distinct : (items.map fun item => key (fresh item)).Nodup) {table : Keyed key} {row : Row} :
    row ∈ (upsertAll fresh change table items).rows ↔
      row ∈ table.rows ∧ (∀ item ∈ items, key row ≠ key (fresh item)) ∨ ∃ item ∈ items, row = image item := by
  induction items generalizing table with
  | nil => simp
  | cons item rest ih =>
    rw [List.map_cons, List.nodup_cons] at distinct
    rw [upsertAll_cons, ih distinct.2, mem_upsert _ _ _ (settles item)]
    have own : key (image item) = key (fresh item) := by
      rw [← settles item (fresh item) rfl]
      exact (change item).keeps _
    have apart : ∀ other ∈ rest, key (image item) ≠ key (fresh other) := by
      intro other member same
      exact distinct.1 (List.mem_map.2 ⟨other, member, (own.symm.trans same).symm⟩)
    simp only [List.forall_mem_cons, List.exists_mem_cons_iff]
    constructor
    · rintro (⟨⟨stored, first⟩ | rfl, others⟩ | settled)
      · exact .inl ⟨stored, first, others⟩
      · exact .inr (.inl rfl)
      · exact .inr (.inr settled)
    · rintro (⟨stored, first, others⟩ | rfl | settled)
      · exact .inl ⟨.inl ⟨stored, first⟩, others⟩
      · exact .inl ⟨.inr rfl, apart⟩
      · exact .inr settled

/-- A table without other keys becomes the image of the items. -/
theorem upsertAll_perm
    (settles : ∀ item row, key row = key (fresh item) → (change item).apply row = image item)
    {items : List Item} (distinct : (items.map fun item => key (fresh item)).Nodup) {table : Keyed key}
    (within : ∀ row ∈ table.rows, key row ∈ items.map fun item => key (fresh item)) :
    (upsertAll fresh change table items).rows.Perm (items.map image) := by
  have keys : (items.map image).map key = items.map fun item => key (fresh item) := by
    rw [List.map_map]
    apply List.map_congr_left
    intro item _
    show key (image item) = key (fresh item)
    rw [← settles item (fresh item) rfl]
    exact (change item).keeps _
  have left : (upsertAll fresh change table items).rows.Nodup := (Keyed.unique _).of_map key
  have right : (items.map image).Nodup := List.Nodup.of_map key (keys ▸ distinct)
  rw [List.perm_ext_iff_of_nodup left right]
  intro row
  rw [mem_upsertAll settles distinct, List.mem_map]
  constructor
  · rintro (⟨stored, others⟩ | ⟨item, member, rfl⟩)
    · obtain ⟨item, member, same⟩ := List.mem_map.1 (within row stored)
      exact absurd same.symm (others item member)
    · exact ⟨item, member, rfl⟩
  · rintro ⟨item, member, rfl⟩
    exact .inr ⟨item, member, rfl⟩

end UpsertAll

end Keyed

end SoulClaw.Foundation
