import SoulClaw.Foundation.JsonChars
import SoulClaw.Foundation.Lines

/-! JSON on lines. What `json.dumps` writes stands on one line, unless a string of the value has one of the three line
breaks that JSON does not escape; what is cut there is read as no value, in front of the break and behind it. -/

namespace SoulClaw.Foundation.Loads

/-- A line break that `json.dumps` leaves in its strings: next line, line separator and paragraph separator. -/
def isWideBreak (c : Char) : Bool := c ∈ ['\u0085', '\u2028', '\u2029']

theorem isWideBreak_of_isBreak {c : Char} (visible : 0x20 ≤ c.toNat) (breaks : Lines.isBreak c = true) :
    isWideBreak c = true ∧ 0x80 ≤ c.toNat := by
  unfold Lines.isBreak at breaks
  simp only [List.mem_cons, List.not_mem_nil, or_false, decide_eq_true_eq] at breaks
  rcases breaks with rfl | rfl | rfl | rfl | rfl | rfl | rfl | rfl | rfl | rfl
  all_goals revert visible
  all_goals decide

theorem isBreak_of_isWideBreak {c : Char} (wide : isWideBreak c = true) : Lines.isBreak c = true ∧ 0x80 ≤ c.toNat := by
  unfold isWideBreak at wide
  simp only [List.mem_cons, List.not_mem_nil, or_false, decide_eq_true_eq] at wide
  rcases wide with rfl | rfl | rfl <;> decide

section Values
variable [NumberData] {item : Json} (proper : Proper item)
include proper

/-- A value is written on one line exactly when no string of it has a wide line break. -/
theorem unbroken_dumps_iff : (∀ text ∈ item.strings, ∀ c ∈ text.toList, isWideBreak c = false) ↔
    ∀ c ∈ item.dumps.toList, Lines.isBreak c = false := by
  have spelled := dumps_spelled proper
  constructor
  · intro unbroken c member
    by_contra breaks
    rw [Bool.not_eq_false] at breaks
    obtain ⟨broken, wide⟩ := isWideBreak_of_isBreak (spelled.visible c member) breaks
    obtain ⟨text, known, inside⟩ := (spelled.wide c wide).1 member
    rw [unbroken text known c inside] at broken
    cases broken
  · intro plain text known c inside
    by_contra broken
    rw [Bool.not_eq_false] at broken
    obtain ⟨breaks, wide⟩ := isBreak_of_isWideBreak broken
    rw [plain c ((spelled.wide c wide).2 ⟨text, known, inside⟩)] at breaks
    cases breaks

/-- The last line of what is written for a value on several lines. -/
theorem exists_last_line (broken : ∃ text ∈ item.strings, ∃ c ∈ text.toList, isWideBreak c = true) :
    ∃ first c last, item.dumps.toList = first ++ c :: last ∧ Lines.isBreak c = true ∧ 0x80 ≤ c.toNat ∧
      ∀ d ∈ last, Lines.isBreak d = false := by
  have inside : ∃ c ∈ item.dumps.toList, Lines.isBreak c = true := by
    by_contra plain
    push Not at plain
    obtain ⟨text, known, c, member, wide⟩ := broken
    have one := (unbroken_dumps_iff proper).2 fun d inside => Bool.eq_false_iff.2 (plain d inside)
    rw [one text known c member] at wide
    cases wide
  obtain ⟨first, c, last, split, breaks, plain⟩ := Lines.exists_last inside
  refine ⟨first, c, last, split, breaks, ?_, fun d member => Bool.eq_false_iff.2 (plain d member)⟩
  have visible := (dumps_spelled proper).visible c (split ▸ List.mem_append_right _ List.mem_cons_self)
  exact (isWideBreak_of_isBreak visible breaks).2

/-- What is written for a value is scanned at any depth. -/
theorem scan_dumps (depth : Nat) : scan (.outside, depth) item.dumps.toList = some (.outside, depth) := by
  have whole : Json.loads (String.ofList ([] ++ item.dumps.toList)) = some item :=
    loads_dumps proper fun _ member => absurd member List.not_mem_nil
  have closed := scan_of_loads whole depth
  rwa [List.nil_append, String.toList_ofList] at closed

/-- What stands behind a wide character of a string is read as no value. -/
theorem loads_behind_cut {first last : List Char} {c : Char} (wide : 0x80 ≤ c.toNat)
    (cut : item.dumps.toList = first ++ c :: last) : Json.loads (String.ofList last) = none := by
  cases parsed : Json.loads (String.ofList last) with
  | none => rfl
  | some value =>
    exfalso
    have whole := scan_dumps proper 0
    rw [cut] at whole
    obtain ⟨depth, inside⟩ := scan_wide wide whole
    have literal : isLiteral c = true := by
      refine decide_eq_true ⟨?_, ?_, by omega⟩
      · rintro rfl
        exact absurd wide (by decide)
      · rintro rfl
        exact absurd wide (by decide)
    rw [scan_append, inside, Option.bind_some, scan_cons_of (scanChar_literal literal depth)] at whole
    have alone := scan_of_loads parsed 0
    rw [String.toList_ofList] at alone
    rcases opposed_scan (.inl ⟨rfl, rfl⟩) alone whole with ⟨_, ends⟩ | ⟨ends, _⟩
    · cases ends
    · cases ends

end Values

end SoulClaw.Foundation.Loads
