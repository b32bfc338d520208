import SoulClaw.Foundation.JsonText
import Mathlib.Tactic.Ring

/-! `uuid.UUID`: its text of hexadecimal digits and hyphens, and the way back. -/

namespace SoulClaw.Foundation

structure Uuid where
  int : Fin (2 ^ 128)
  deriving DecidableEq, Repr

instance Uuid.instNeZero : NeZero (2 ^ 128) := ⟨by decide⟩

/-- What `uuid.UUID` makes of a text with other characters than hexadecimal digits and hyphens. -/
class UuidData where
  other : String → Option Uuid

@[reducible] def UuidData.plain : UuidData where
  other _ := none

namespace Text
open Loads

/-- `int(digits, 16)` of digits that stand behind a number. -/
def hexFrom (high : Nat) (digits : List Char) : Nat :=
  digits.foldl (fun value digit => value * 16 + (hexValue digit).getD 0) high

theorem hexDigits_succ (width value : Nat) :
    hexDigits (width + 1) value = (value / 16 ^ width % 16).digitChar :: hexDigits width value := by
  rw [hexDigits, List.range_succ, List.reverse_append]
  rfl

theorem hexValue_digitChar {digit : Nat} (small : digit < 16) : hexValue digit.digitChar = some digit := by
  have checked : ∀ digit : Fin 16, hexValue (Nat.digitChar digit) = some digit.val := by decide +kernel
  exact checked ⟨digit, small⟩

theorem length_hexDigits (width value : Nat) : (hexDigits width value).length = width := by
  simp [hexDigits]

theorem hexValue_of_mem_hexDigits {width value : Nat} {c : Char} (member : c ∈ hexDigits width value) :
    (hexValue c).isSome = true := by
  obtain ⟨place, _, rfl⟩ := List.mem_map.1 member
  rw [hexValue_digitChar (Nat.mod_lt _ (by decide))]
  rfl

theorem hexFrom_hexDigits (high width value : Nat) :
    hexFrom high (hexDigits width value) = high * 16 ^ width + value % 16 ^ width := by
  induction width generalizing high with
  | zero => simp [hexDigits, hexFrom, Nat.mod_one]
  | succ width ih =>
    have digit := hexValue_digitChar (Nat.mod_lt (value / 16 ^ width) (by decide : 0 < 16))
    have first : hexFrom high (hexDigits (width + 1) value) =
        hexFrom (high * 16 + value / 16 ^ width % 16) (hexDigits width value) := by
      rw [hexDigits_succ, hexFrom, List.foldl_cons, digit]
      rfl
    calc hexFrom high (hexDigits (width + 1) value)
        = (high * 16 + value / 16 ^ width % 16) * 16 ^ width + value % 16 ^ width := by rw [first, ih]
      _ = high * 16 ^ (width + 1) + (value % 16 ^ width + 16 ^ width * (value / 16 ^ width % 16)) := by ring
      _ = high * 16 ^ (width + 1) + value % 16 ^ (width + 1) := by rw [pow_succ, Nat.mod_mul]

end Text

namespace Uuid
open Text Loads

/-- The groups of 8, 4, 4, 4 and 12 digits. -/
def grouped (digits : List Char) : List Char :=
  digits.take 8 ++ '-' :: ((digits.drop 8).take 4 ++ '-' :: ((digits.drop 12).take 4 ++ '-' ::
    ((digits.drop 16).take 4 ++ '-' :: digits.drop 20)))

/-- `str(id)`. -/
def str (id : Uuid) : String := String.ofList (grouped (hexDigits 32 id.int))

/-- `id.hex`. -/
def hex (id : Uuid) : String := String.ofList (hexDigits 32 id.int)

/-- `uuid.UUID(text)`, which raises a `ValueError` where this is `none`. -/
def ofText [UuidData] (text : String) : Option Uuid :=
  let digits := text.toList.filter (· ≠ '-')
  if digits.all fun c => (hexValue c).isSome then
    if digits.length = 32 then some ⟨Fin.ofNat _ (hexFrom 0 digits)⟩ else none
  else UuidData.other text

theorem filter_grouped {digits : List Char} (plain : '-' ∉ digits) :
    (grouped digits).filter (· ≠ '-') = digits := by
  have kept : ∀ part : List Char, part ⊆ digits → part.filter (· ≠ '-') = part := by
    intro part within
    apply List.filter_eq_self.2
    intro c member
    exact decide_eq_true fun hyphen => plain (hyphen ▸ within member)
  have taken : ∀ start count, ((digits.drop start).take count).filter (· ≠ '-') = (digits.drop start).take count :=
    fun start count => kept _ fun c member => List.mem_of_mem_drop (List.mem_of_mem_take member)
  rw [grouped]
  simp only [List.filter_append, List.filter_cons, taken, kept _ (List.take_subset _ _), kept _ (List.drop_subset _ _)]
  have joined : ∀ start count, (digits.drop start).take count ++ digits.drop (start + count) = digits.drop start := by
    intro start count
    rw [← List.drop_drop, List.take_append_drop]
  simp only [ne_eq, not_true_eq_false, decide_false, Bool.false_eq_true, if_false]
  rw [joined 16 4, joined 12 4, joined 8 4, List.take_append_drop]

theorem mem_grouped {digits : List Char} {c : Char} (member : c ∈ grouped digits) : c ∈ digits ∨ c = '-' := by
  simp only [grouped, List.mem_append, List.mem_cons] at member
  rcases member with first | rfl | second | rfl | third | rfl | fourth | rfl | last
  · exact .inl (List.mem_of_mem_take first)
  · exact .inr rfl
  · exact .inl (List.mem_of_mem_drop (List.mem_of_mem_take second))
  · exact .inr rfl
  · exact .inl (List.mem_of_mem_drop (List.mem_of_mem_take third))
  · exact .inr rfl
  · exact .inl (List.mem_of_mem_drop (List.mem_of_mem_take fourth))
  · exact .inr rfl
  · exact .inl (List.mem_of_mem_drop last)

/-- The text of an identifier has only hexadecimal digits and hyphens. -/
theorem mem_str {id : Uuid} {c : Char} (member : c ∈ id.str.toList) : (hexValue c).isSome = true ∨ c = '-' := by
  rw [str, String.toList_ofList] at member
  exact (mem_grouped member).imp_left hexValue_of_mem_hexDigits

theorem ofText_str [UuidData] (id : Uuid) : ofText id.str = some id := by
  have plain : '-' ∉ hexDigits 32 id.int := by
    intro member
    exact absurd (hexValue_of_mem_hexDigits member) (by decide)
  have digits : id.str.toList.filter (· ≠ '-') = hexDigits 32 id.int := by
    rw [str, String.toList_ofList, filter_grouped plain]
  have hexadecimal : (hexDigits 32 id.int).all fun c => (hexValue c).isSome :=
    List.all_eq_true.2 fun c member => hexValue_of_mem_hexDigits member
  have value : hexFrom 0 (hexDigits 32 id.int) = id.int := by
    rw [hexFrom_hexDigits, Nat.zero_mul, Nat.zero_add]
    exact Nat.mod_eq_of_lt id.int.isLt
  rw [ofText, digits, if_pos hexadecimal, if_pos (length_hexDigits ..), value]
  exact congrArg some (congrArg Uuid.mk (Fin.ofNat_val_eq_self id.int))

theorem str_injective : Function.Injective str := by
  intro first second same
  let _ := UuidData.plain
  rw [← Option.some.injEq, ← ofText_str first, same, ofText_str]

theorem str_ne_empty (id : Uuid) : id.str ≠ "" := by
  intro empty
  let _ := UuidData.plain
  have parsed := ofText_str id
  rw [empty] at parsed
  exact absurd parsed (by simp [ofText])

end Uuid

end SoulClaw.Foundation
