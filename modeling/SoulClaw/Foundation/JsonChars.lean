import SoulClaw.Foundation.JsonRead

/-! The characters of what `json.dumps` writes: none is a control character, and those beyond ASCII are the ones of the
strings that are written. -/

namespace SoulClaw.Foundation

mutual

/-- The strings of a value, with the keys of its dictionaries. -/
def Json.strings : Json → List String
  | .str text => [text]
  | .arr items => Json.stringsOfItems items
  | .obj fields => Json.stringsOfFields fields
  | .null | .bool _ | .int _ | .float _ => []

def Json.stringsOfItems : List Json → List String
  | [] => []
  | item :: rest => item.strings ++ Json.stringsOfItems rest

def Json.stringsOfFields : List (String × Json) → List String
  | [] => []
  | (key, value) :: rest => key :: (value.strings ++ Json.stringsOfFields rest)

end

theorem Json.mem_stringsOfFields {fields : Dict} {text : String} :
    text ∈ Json.stringsOfFields fields ↔ ∃ field ∈ fields, text = field.1 ∨ text ∈ field.2.strings := by
  induction fields with
  | nil => simp [Json.stringsOfFields]
  | cons field rest ih =>
    rw [Json.stringsOfFields, List.mem_cons, List.mem_append, ih]
    simp only [List.mem_cons, or_and_right, exists_or, exists_eq_left, or_assoc]

namespace Loads

/-- A character that any text can show. -/
def isNarrow (c : Char) : Bool := 0x20 ≤ c.toNat ∧ c.toNat < 0x80

/-- The text spells these strings, between characters that any text can show. -/
structure Spelled (text : List Char) (strings : List String) : Prop where
  visible : ∀ c ∈ text, 0x20 ≤ c.toNat
  wide : ∀ c : Char, 0x80 ≤ c.toNat → (c ∈ text ↔ ∃ string ∈ strings, c ∈ string.toList)

section Texts

theorem Spelled.append {first second : List Char} {strings others : List String} (earlier : Spelled first strings)
    (later : Spelled second others) : Spelled (first ++ second) (strings ++ others) where
  visible c member := (List.mem_append.1 member).elim (earlier.visible c) (later.visible c)
  wide c wide := by
    rw [List.mem_append, earlier.wide c wide, later.wide c wide]
    simp only [List.mem_append, or_and_right, exists_or]

/-- Where no wide character stands, none has to stand in the strings. -/
theorem spelled_of_narrow {text : List Char} (narrow : text.all isNarrow = true) {strings : List String}
    (plain : ∀ string ∈ strings, ∀ c ∈ string.toList, c.toNat < 0x80) : Spelled text strings where
  visible c member := (of_decide_eq_true (List.all_eq_true.1 narrow c member)).1
  wide c wide := by
    constructor
    · intro member
      exact absurd (of_decide_eq_true (List.all_eq_true.1 narrow c member)).2 (Nat.not_lt.2 wide)
    · rintro ⟨string, known, member⟩
      exact absurd (plain string known c member) (Nat.not_lt.2 wide)

theorem spelled_narrow {text : List Char} (narrow : text.all isNarrow = true) : Spelled text [] :=
  spelled_of_narrow narrow fun _ member => absurd member List.not_mem_nil

theorem char_spelled {c : Char} (narrow : isNarrow c = true) : Spelled [c] [] := by
  apply spelled_narrow
  rw [List.all_cons, narrow]
  rfl

theorem Spelled.cons {c : Char} {text : List Char} {strings : List String} (narrow : isNarrow c = true)
    (later : Spelled text strings) : Spelled (c :: text) strings := (char_spelled narrow).append later

theorem Spelled.concat {c : Char} {text : List Char} {strings : List String} (narrow : isNarrow c = true)
    (earlier : Spelled text strings) : Spelled (text ++ [c]) strings := by
  have whole := earlier.append (char_spelled narrow)
  rwa [List.append_nil] at whole

theorem dumpsChar_spelled (c : Char) : Spelled (Text.dumpsChar c) [String.singleton c] := by
  have escape : ∀ text : List Char, text.all isNarrow = true → c.toNat < 0x80 → Spelled text [String.singleton c] := by
    intro text narrow small
    apply spelled_of_narrow narrow
    intro string known d member
    rw [List.mem_singleton.1 known, String.toList_singleton, List.mem_singleton] at member
    rw [member]
    exact small
  unfold Text.dumpsChar
  split_ifs with quoted newline carriage tab feed backspace low
  · rcases quoted with rfl | rfl <;> exact escape _ (by decide) (by decide)
  · exact escape _ (by decide) (by rw [newline]; decide)
  · exact escape _ (by decide) (by rw [carriage]; decide)
  · exact escape _ (by decide) (by rw [tab]; decide)
  · exact escape _ (by decide) (by rw [feed]; decide)
  · exact escape _ (by decide) (by rw [backspace]; decide)
  · have digits : ∀ code < 0x20, (Text.hexDigits 4 code).all isNarrow = true := by decide
    refine escape _ ?_ (lt_trans low (by decide))
    rw [List.all_cons, List.all_cons, digits _ low]
    rfl
  · refine ⟨?_, ?_⟩
    · intro d member
      rw [List.mem_singleton.1 member]
      exact Nat.le_of_not_lt low
    · intro d _
      simp [String.toList_singleton]

theorem dumpsChars_spelled (text : List Char) : Spelled (text.flatMap Text.dumpsChar) [String.ofList text] := by
  induction text with
  | nil => exact spelled_of_narrow rfl (by simp)
  | cons c rest ih =>
    have whole := (dumpsChar_spelled c).append ih
    refine ⟨whole.visible, fun d wide => ?_⟩
    rw [List.flatMap_cons, whole.wide d wide]
    simp [String.toList_singleton]

theorem isNarrow_of_isNumeral {c : Char} (numeral : isNumeral c = true) : isNarrow c = true := by
  rcases of_decide_eq_true numeral with digit | mark
  · unfold Char.isDigit at digit
    rw [Bool.and_eq_true, decide_eq_true_eq, decide_eq_true_eq] at digit
    have lower : 48 ≤ c.val.toNat := UInt32.le_iff_toNat_le.1 digit.1
    have upper : c.val.toNat ≤ 57 := UInt32.le_iff_toNat_le.1 digit.2
    exact decide_eq_true ⟨le_trans (by decide) lower, lt_of_le_of_lt upper (by decide)⟩
  · simp only [List.mem_cons, List.not_mem_nil, or_false] at mark
    rcases mark with rfl | rfl | rfl | rfl | rfl <;> decide

variable [NumberData]

theorem number_spelled {text : List Char} {value : Json} (read : number text = some (value, [])) : Spelled text [] := by
  obtain ⟨places, ⟨same, numeral⟩, _⟩ := number_numerals read
  rw [same, List.append_nil]
  exact spelled_narrow (List.all_eq_true.2 fun c member => isNarrow_of_isNumeral (numeral c member))

theorem dumpsFloat_spelled {text : String} (proper : FloatText text) : Spelled (Json.dumpsFloat text).toList [] := by
  by_cases named : text ∈ ["nan", "inf", "-inf"]
  · simp only [List.mem_cons, List.not_mem_nil, or_false] at named
    rcases named with rfl | rfl | rfl <;> exact spelled_narrow (by decide)
  · rw [dumpsFloat_of_notMem named]
    exact number_spelled (proper.resolve_left named)

omit [NumberData] in
theorem field_spelled (key : String) {text : List Char} {strings : List String} (later : Spelled text strings) :
    Spelled ('"' :: (key.toList.flatMap Text.dumpsChar ++ '"' :: ':' :: ' ' :: text)) (key :: strings) := by
  have written := dumpsChars_spelled key.toList
  rw [String.ofList_toList] at written
  have colon : Spelled ('"' :: ':' :: ' ' :: text) strings :=
    Spelled.cons (by decide) (Spelled.cons (by decide) (Spelled.cons (by decide) later))
  exact Spelled.cons (by decide) (written.append colon)

omit [NumberData] in
theorem separator_spelled {text : List Char} {strings : List String} (later : Spelled text strings) :
    Spelled (',' :: ' ' :: text) strings := Spelled.cons (by decide) (Spelled.cons (by decide) later)

mutual

/-- What is written for a value spells its strings. -/
theorem dumps_spelled : ∀ {item : Json}, Proper item → Spelled item.dumps.toList item.strings
  | .null, _ => spelled_narrow (by decide)
  | .bool true, _ => spelled_narrow (by decide)
  | .bool false, _ => spelled_narrow (by decide)
  | .int value, _ => number_spelled (number_toString value)
  | .float _, proper => dumpsFloat_spelled proper
  | .str text, _ => by
      have written := dumpsChars_spelled text.toList
      rw [String.ofList_toList] at written
      rw [dumps_str]
      exact Spelled.cons (by decide) (written.concat (by decide))
  | .arr items, proper => by
      rw [dumps_arr]
      exact Spelled.cons (by decide) ((items_spelled proper).concat (by decide))
  | .obj fields, proper => by
      rw [dumps_obj]
      exact Spelled.cons (by decide) ((fields_spelled proper.2).concat (by decide))

theorem items_spelled : ∀ {items : List Json}, ProperItems items → Spelled (itemsText items) (Json.stringsOfItems items)
  | [], _ => spelled_narrow (by decide)
  | [item], proper => by
      rw [itemsText_singleton, Json.stringsOfItems, Json.stringsOfItems, List.append_nil]
      exact dumps_spelled proper.1
  | item :: next :: rest, proper => by
      rw [itemsText_cons, Json.stringsOfItems]
      exact (dumps_spelled proper.1).append (separator_spelled (items_spelled proper.2))

theorem fields_spelled : ∀ {fields : Dict}, ProperFields fields → Spelled (fieldsText fields) (Json.stringsOfFields fields)
  | [], _ => spelled_narrow (by decide)
  | [(key, value)], proper => by
      rw [fieldsText_singleton, Json.stringsOfFields, Json.stringsOfFields, List.append_nil]
      exact field_spelled key (dumps_spelled proper.1)
  | (key, value) :: next :: rest, proper => by
      rw [fieldsText_cons, Json.stringsOfFields]
      exact field_spelled key ((dumps_spelled proper.1).append (separator_spelled (fields_spelled proper.2)))

end

end Texts

end Loads

end SoulClaw.Foundation
