import Mathlib.Data.List.Basic
import Mathlib.Data.String.Basic

/-! Python values that a JSON document can hold, with the dictionary access, the truth
value, `str`, `repr` and `json.dumps` that Python gives them. A float is kept as its
`repr`, a dictionary in insertion order. -/

namespace SoulClaw.Foundation

inductive Json where
  | null
  | bool (value : Bool)
  | int (value : Int)
  | float (repr : String)
  | str (value : String)
  | arr (items : List Json)
  | obj (fields : List (String × Json))
  deriving Repr, Inhabited

abbrev Dict := List (String × Json)

mutual

def Json.decEq : (first second : Json) → Decidable (first = second)
  | .null, .null => isTrue rfl
  | .bool a, .bool b => decidable_of_iff (a = b) (by simp)
  | .int a, .int b => decidable_of_iff (a = b) (by simp)
  | .float a, .float b => decidable_of_iff (a = b) (by simp)
  | .str a, .str b => decidable_of_iff (a = b) (by simp)
  | .arr a, .arr b =>
      match Json.decEqItems a b with
      | isTrue same => isTrue (by rw [same])
      | isFalse different => isFalse (by simpa using different)
  | .obj a, .obj b =>
      match Json.decEqFields a b with
      | isTrue same => isTrue (by rw [same])
      | isFalse different => isFalse (by simpa using different)
  | .null, .bool _ | .null, .int _ | .null, .float _ | .null, .str _ | .null, .arr _
  | .null, .obj _ | .bool _, .null | .bool _, .int _ | .bool _, .float _ | .bool _, .str _
  | .bool _, .arr _ | .bool _, .obj _ | .int _, .null | .int _, .bool _ | .int _, .float _
  | .int _, .str _ | .int _, .arr _ | .int _, .obj _ | .float _, .null | .float _, .bool _
  | .float _, .int _ | .float _, .str _ | .float _, .arr _ | .float _, .obj _ | .str _, .null
  | .str _, .bool _ | .str _, .int _ | .str _, .float _ | .str _, .arr _ | .str _, .obj _
  | .arr _, .null | .arr _, .bool _ | .arr _, .int _ | .arr _, .float _ | .arr _, .str _
  | .arr _, .obj _ | .obj _, .null | .obj _, .bool _ | .obj _, .int _ | .obj _, .float _
  | .obj _, .str _ | .obj _, .arr _ => isFalse (by simp)

def Json.decEqItems : (first second : List Json) → Decidable (first = second)
  | [], [] => isTrue rfl
  | [], _ :: _ | _ :: _, [] => isFalse (by simp)
  | a :: first, b :: second =>
      match Json.decEq a b, Json.decEqItems first second with
      | isTrue head, isTrue tail => isTrue (by rw [head, tail])
      | isFalse different, _ => isFalse (fun same => different (List.cons.inj same).1)
      | _, isFalse different => isFalse (fun same => different (List.cons.inj same).2)

def Json.decEqFields : (first second : List (String × Json)) → Decidable (first = second)
  | [], [] => isTrue rfl
  | [], _ :: _ | _ :: _, [] => isFalse (by simp)
  | (k, a) :: first, (l, b) :: second =>
      match instDecidableEqString k l, Json.decEq a b, Json.decEqFields first second with
      | isTrue key, isTrue head, isTrue tail => isTrue (by rw [key, head, tail])
      | isFalse different, _, _ =>
          isFalse (fun same => different (Prod.mk.inj (List.cons.inj same).1).1)
      | _, isFalse different, _ =>
          isFalse (fun same => different (Prod.mk.inj (List.cons.inj same).1).2)
      | _, _, isFalse different => isFalse (fun same => different (List.cons.inj same).2)

end

instance : DecidableEq Json := Json.decEq

namespace Dict

/-- `d.get(key)`, where a missing key reads as `None`. -/
def get (dict : Dict) (key : String) : Json := (dict.lookup key).getD .null

/-- `{**d, key: value}`: a known key keeps its place. -/
def set : Dict → String → Json → Dict
  | [], key, value => [(key, value)]
  | (known, old) :: rest, key, value =>
      if known = key then (known, value) :: rest else (known, old) :: set rest key value

@[simp] theorem get_nil (key : String) : get [] key = .null := rfl

theorem get_cons (known : String) (value : Json) (rest : Dict) (key : String) :
    get ((known, value) :: rest) key = if key = known then value else get rest key := by
  unfold get
  by_cases same : key = known
  · subst same
    simp
  · rw [List.lookup_cons, beq_false_of_ne same, if_neg same]

theorem lookup_set (dict : Dict) (key : String) (value : Json) (other : String) :
    (dict.set key value).lookup other = if other = key then some value else dict.lookup other := by
  have first : ∀ (known : String) (value : Json) (rest : Dict),
      List.lookup other ((known, value) :: rest) = if other = known then some value else rest.lookup other := by
    intro known value rest
    by_cases here : other = known
    · rw [List.lookup_cons, beq_iff_eq.2 here, if_pos here]
    · rw [List.lookup_cons, beq_false_of_ne here, if_neg here]
  induction dict with
  | nil => rw [set, first]
  | cons field rest ih =>
    obtain ⟨known, old⟩ := field
    by_cases same : known = key
    · subst same
      rw [set, if_pos rfl, first, first]
      split <;> rfl
    · rw [set, if_neg same, first, ih, first]
      by_cases here : other = known
      · rw [if_pos here, if_pos here, if_neg (here ▸ same)]
      · rw [if_neg here, if_neg here]

theorem get_set (dict : Dict) (key : String) (value : Json) (other : String) :
    (dict.set key value).get other = if other = key then value else dict.get other := by
  rw [get, lookup_set]
  split
  next => rfl
  next => rfl

/-- An assignment changes nothing exactly when the value is there already. -/
theorem set_eq_self_iff {dict : Dict} {key : String} {value : Json} : dict.set key value = dict ↔ dict.lookup key = some value := by
  constructor
  · intro same
    rw [← same, lookup_set, if_pos rfl]
  · intro found
    induction dict with
    | nil => cases found
    | cons field rest ih =>
      obtain ⟨known, old⟩ := field
      by_cases here : known = key
      · subst here
        rw [List.lookup_cons, beq_self_eq_true] at found
        rw [set, if_pos rfl, Option.some.inj found]
      · rw [List.lookup_cons, beq_false_of_ne (Ne.symm here)] at found
        rw [set, if_neg here, ih found]

@[simp] theorem get_set_self (dict : Dict) (key : String) (value : Json) :
    (dict.set key value).get key = value := by rw [get_set, if_pos rfl]

theorem mem_of_lookup {dict : Dict} {key : String} {value : Json} (found : dict.lookup key = some value) :
    (key, value) ∈ dict := by
  obtain ⟨_, _, rfl, _⟩ := List.lookup_eq_some_iff.1 found
  exact List.mem_append_right _ List.mem_cons_self

theorem lookup_of_mem {dict : Dict} (distinct : (dict.map Prod.fst).Nodup) {field : String × Json} (member : field ∈ dict) :
    dict.lookup field.1 = some field.2 := by
  obtain ⟨first, last, rfl⟩ := List.append_of_mem member
  refine List.lookup_eq_some_iff.2 ⟨first, last, rfl, ?_⟩
  intro other before
  rw [List.map_append, List.map_cons] at distinct
  have apart := (List.nodup_append.1 distinct).2.2 other.1 (List.mem_map_of_mem before) field.1 List.mem_cons_self
  exact bne_iff_ne.2 apart.symm

end Dict

namespace Json

/-- `bool(value)`. -/
def truthy : Json → Bool
  | null => false
  | bool value => value
  | int value => value ≠ 0
  | float repr => repr ≠ "0.0" ∧ repr ≠ "-0.0"
  | str value => value ≠ ""
  | arr items => !items.isEmpty
  | obj fields => !fields.isEmpty

/-- `value or fallback`. -/
def or (value fallback : Json) : Json := if value.truthy then value else fallback

theorem or_of_truthy {value : Json} (truthy : value.truthy = true) (fallback : Json) :
    value.or fallback = value := if_pos truthy

theorem or_str (text : String) : (str text).or (str "") = str text := by
  unfold Json.or
  split
  · rfl
  next blank =>
    rw [truthy, Bool.not_eq_true, decide_eq_false_iff_not, not_not] at blank
    rw [blank]

/-- A fallback that only stands for itself changes nothing. -/
@[simp] theorem or_arr_nil (items : List Json) : (arr items).or (arr []) = arr items := by
  cases items <;> rfl

@[simp] theorem or_obj_nil (fields : Dict) : (obj fields).or (obj []) = obj fields := by
  cases fields <;> rfl

@[simp] theorem or_int_zero (value : Int) : (int value).or (int 0) = int value := by
  by_cases zero : value = 0
  · rw [zero]
    rfl
  · exact or_of_truthy (by simpa [truthy] using zero) _

def isDict : Json → Bool
  | obj _ => true
  | _ => false

/-- `value if isinstance(value, dict) else {}`. -/
def dict : Json → Dict
  | obj fields => fields
  | _ => []

/-- `value if isinstance(value, list) else []`. -/
def list : Json → List Json
  | arr items => items
  | _ => []

end Json

end SoulClaw.Foundation
