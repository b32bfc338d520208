import SoulClaw.Foundation.JsonScan
import Mathlib.Tactic.IntervalCases

/-! `json.loads` reads back what `json.dumps` writes, where the dictionaries have distinct keys and a float is written in
a way in which it is read. -/

namespace SoulClaw.Foundation.Loads

/-! Strings. -/

section Strings

theorem unicodeEscape_hexDigits {code : Nat} (low : code < 0x20) (rest : List Char) :
    unicodeEscape (Text.hexDigits 4 code ++ rest) = some (Char.ofNat code, rest) := by
  interval_cases code <;> rfl

theorem map_of_bind (read : Option (List Char × List Char)) (c : Char) :
    (read.bind fun read => some (c :: read.1, read.2)) = read.map fun read => (c :: read.1, read.2) := by
  cases read <;> rfl

theorem stringBody_literal {c : Char} (literal : isLiteral c = true) (fuel : Nat) (rest : List Char) :
    stringBody (fuel + 1) (c :: rest) = (stringBody fuel rest).map fun read => (c :: read.1, read.2) := by
  obtain ⟨quote, escape, visible⟩ := of_decide_eq_true literal
  rw [← map_of_bind, stringBody.eq_def]
  split
  next same => exact absurd same (Nat.succ_ne_zero fuel)
  next nil => cases nil
  next same => exact absurd (List.cons.inj same).1 quote
  next same => exact absurd (List.cons.inj same).1 escape
  next same => exact absurd (List.cons.inj same).1 escape
  next fuels heads =>
    obtain ⟨rfl, rfl⟩ := List.cons.inj heads
    obtain rfl := Nat.succ.inj fuels
    dsimp only
    rw [if_neg (Nat.not_lt.2 visible)]
    rfl

theorem stringBody_escape {mark c : Char} (known : simpleEscape mark = some c) (fuel : Nat) (rest : List Char) :
    stringBody (fuel + 1) ('\\' :: mark :: rest) = (stringBody fuel rest).map fun read => (c :: read.1, read.2) := by
  rw [← map_of_bind, stringBody.eq_def]
  split
  next same => exact absurd same (Nat.succ_ne_zero fuel)
  next nil => cases nil
  next same => exact absurd (List.cons.inj same).1 (by decide)
  next same =>
    obtain ⟨rfl, _⟩ := List.cons.inj (List.cons.inj same).2
    cases known
  next fuels heads =>
    obtain ⟨rfl, rfl⟩ := List.cons.inj (List.cons.inj heads).2
    obtain rfl := Nat.succ.inj fuels
    rw [known]
    rfl
  next noEscape _ heads =>
    obtain ⟨rfl, rfl⟩ := List.cons.inj heads
    exact absurd rfl (noEscape _ _ rfl)

theorem stringBody_unicode {c : Char} {unit : List Char} {rest : List Char}
    (read : unicodeEscape (unit ++ rest) = some (c, rest)) (fuel : Nat) :
    stringBody (fuel + 1) ('\\' :: 'u' :: (unit ++ rest)) = (stringBody fuel rest).map fun read => (c :: read.1, read.2) := by
  have unfolded : stringBody (fuel + 1) ('\\' :: 'u' :: (unit ++ rest)) =
      (unicodeEscape (unit ++ rest)).bind fun found =>
        (stringBody fuel found.2).bind fun read => some (found.1 :: read.1, read.2) := rfl
  rw [unfolded, read, Option.bind_some]
  exact map_of_bind _ c

/-- A character is read back from what stands for it. -/
theorem stringBody_dumpsChar (c : Char) (fuel : Nat) (rest : List Char) :
    stringBody (fuel + 1) (Text.dumpsChar c ++ rest) = (stringBody fuel rest).map fun read => (c :: read.1, read.2) := by
  unfold Text.dumpsChar
  by_cases quoted : c = '"' ∨ c = '\\'
  · rw [if_pos quoted]
    exact stringBody_escape (by rcases quoted with rfl | rfl <;> rfl) fuel rest
  rw [if_neg quoted]
  by_cases newline : c = '\n'
  · rw [if_pos newline]
    exact stringBody_escape (by rw [newline]; rfl) fuel rest
  rw [if_neg newline]
  by_cases carriage : c = '\r'
  · rw [if_pos carriage]
    exact stringBody_escape (by rw [carriage]; rfl) fuel rest
  rw [if_neg carriage]
  by_cases tab : c = '\t'
  · rw [if_pos tab]
    exact stringBody_escape (by rw [tab]; rfl) fuel rest
  rw [if_neg tab]
  by_cases feed : c = '\x0c'
  · rw [if_pos feed]
    exact stringBody_escape (by rw [feed]; rfl) fuel rest
  rw [if_neg feed]
  by_cases backspace : c = '\x08'
  · rw [if_pos backspace]
    exact stringBody_escape (by rw [backspace]; rfl) fuel rest
  rw [if_neg backspace]
  by_cases low : c.toNat < 0x20
  · rw [if_pos low]
    apply stringBody_unicode
    rw [unicodeEscape_hexDigits low, Char.ofNat_toNat]
  · rw [if_neg low]
    rw [not_or] at quoted
    exact stringBody_literal (decide_eq_true ⟨quoted.1, quoted.2, Nat.le_of_not_lt low⟩) fuel rest

theorem dumpsChar_ne_nil (c : Char) : Text.dumpsChar c ≠ [] := by
  unfold Text.dumpsChar
  split_ifs <;> exact List.cons_ne_nil _ _

/-- A string is read back up to its closing quote. -/
theorem stringBody_dumps {text rest : List Char} {fuel : Nat} (enough : (text.flatMap Text.dumpsChar).length < fuel) :
    stringBody fuel (text.flatMap Text.dumpsChar ++ '"' :: rest) = some (text, rest) := by
  induction text generalizing fuel with
  | nil =>
    obtain ⟨fuel, rfl⟩ := Nat.exists_eq_succ_of_ne_zero (Nat.ne_of_gt enough)
    rfl
  | cons c behind ih =>
    obtain ⟨fuel, rfl⟩ := Nat.exists_eq_succ_of_ne_zero (Nat.ne_of_gt (Nat.zero_lt_of_lt enough))
    rw [List.flatMap_cons, List.length_append] at enough
    have visible := List.length_pos_of_ne_nil (dumpsChar_ne_nil c)
    rw [List.flatMap_cons, List.append_assoc, stringBody_dumpsChar, ih (by omega)]
    rfl

end Strings

/-! Numbers. -/

section Numbers

/-- Nothing stands behind a value, or what separates or closes values. -/
def Stops (behind : List Char) : Prop := ∀ c ∈ behind.head?, c ∈ [',', ']', '\x7d']

theorem Stops.ne {behind rest : List Char} {c : Char} (stops : Stops behind) (same : behind = c :: rest) :
    c.isDigit = false ∧ c ∉ ['.', 'e', 'E', '+', '-'] := by
  subst same
  have known := stops c rfl
  simp only [List.mem_cons, List.not_mem_nil, or_false] at known
  rcases known with rfl | rfl | rfl <;> decide

theorem digits_cons (c : Char) (rest : List Char) :
    digits (c :: rest) = if c.isDigit then (c :: (digits rest).1, (digits rest).2) else ([], c :: rest) := by
  unfold digits
  rw [List.span_eq_takeWhile_dropWhile, List.span_eq_takeWhile_dropWhile, List.takeWhile_cons, List.dropWhile_cons]
  split <;> rfl

theorem digits_append {behind : List Char} (stops : Stops behind) (text : List Char) :
    digits (text ++ behind) = ((digits text).1, (digits text).2 ++ behind) := by
  induction text with
  | nil =>
    cases behind with
    | nil => rfl
    | cons c rest =>
      rw [List.nil_append, digits_cons, (stops.ne rfl).1]
      rfl
  | cons c rest ih =>
    rw [List.cons_append, digits_cons, digits_cons]
    split
    · rw [ih]
    · rfl

theorem fraction_of_ne {c : Char} (other : c ≠ '.') (rest : List Char) : fraction (c :: rest) = ([], c :: rest) := by
  unfold fraction
  split
  next same => exact absurd (List.cons.inj same).1 other
  next => rfl

theorem fraction_of_dot (text : List Char) : fraction ('.' :: text) =
    if (digits text).1 = [] then ([], '.' :: text) else ('.' :: (digits text).1, (digits text).2) := by
  rw [fraction]
  generalize digits text = read
  obtain ⟨places, tail⟩ := read
  cases places <;> rfl

theorem fraction_append {behind : List Char} (stops : Stops behind) (text : List Char) :
    fraction (text ++ behind) = ((fraction text).1, (fraction text).2 ++ behind) := by
  cases text with
  | nil =>
    cases behind with
    | nil => rfl
    | cons c rest =>
      have other : c ≠ '.' := by
        rintro rfl
        exact (stops.ne rfl).2 (by decide)
      exact fraction_of_ne other rest
  | cons c rest =>
    by_cases dot : c = '.'
    · subst dot
      rw [List.cons_append, fraction_of_dot, fraction_of_dot, digits_append stops]
      by_cases none : (digits rest).1 = []
      · rw [if_pos none, if_pos none]
        rfl
      · rw [if_neg none, if_neg none]
    · rw [List.cons_append, fraction_of_ne dot, fraction_of_ne dot]
      rfl

theorem signOf_append {behind : List Char} (stops : Stops behind) (text : List Char) :
    signOf (text ++ behind) = ((signOf text).1, (signOf text).2 ++ behind) := by
  have other : ∀ {c : Char} (rest : List Char), c ≠ '+' → c ≠ '-' → signOf (c :: rest) = ([], c :: rest) := by
    intro c rest plus minus
    unfold signOf
    split
    next same => exact absurd (List.cons.inj same).1 plus
    next same => exact absurd (List.cons.inj same).1 minus
    next => rfl
  cases text with
  | nil =>
    cases behind with
    | nil => rfl
    | cons c rest =>
      refine other rest ?_ ?_
      all_goals
        rintro rfl
        exact (stops.ne rfl).2 (by decide)
  | cons c rest =>
    by_cases plus : c = '+'
    · subst plus
      rfl
    by_cases minus : c = '-'
    · subst minus
      rfl
    rw [List.cons_append, other _ plus minus, other _ plus minus]
    rfl

theorem exponent_append {behind : List Char} (stops : Stops behind) (text : List Char) :
    exponent (text ++ behind) = ((exponent text).1, (exponent text).2 ++ behind) := by
  cases text with
  | nil =>
    cases behind with
    | nil => rfl
    | cons c rest =>
      have unmarked : ¬(c = 'e' ∨ c = 'E') := by
        rintro (rfl | rfl) <;> exact (stops.ne rfl).2 (by decide)
      rw [List.nil_append, exponent_cons, if_neg unmarked]
      rfl
  | cons c rest =>
    rw [List.cons_append, exponent_cons, exponent_cons, signOf_append stops]
    split
    · rw [digits_append stops]
      generalize digits (signOf rest).2 = read
      obtain ⟨places, tail⟩ := read
      cases places <;> rfl
    · rfl

theorem natural_of_ne {c : Char} (other : c ≠ '0') (rest : List Char) :
    natural (c :: rest) = if c.isDigit then some (c :: (digits rest).1, (digits rest).2) else none := by
  unfold natural
  split
  next same => exact absurd (List.cons.inj same).1 other
  next =>
    rw [digits_cons]
    cases c.isDigit <;> rfl

theorem natural_append {behind places rest : List Char} (stops : Stops behind) {text : List Char}
    (read : natural text = some (places, rest)) : natural (text ++ behind) = some (places, rest ++ behind) := by
  cases text with
  | nil => cases read
  | cons c later =>
    by_cases zero : c = '0'
    · subst zero
      obtain ⟨rfl, rfl⟩ := Prod.mk.inj (Option.some.inj read)
      rfl
    · rw [natural_of_ne zero] at read
      rw [List.cons_append, natural_of_ne zero, digits_append stops]
      split at read
      next digit =>
        obtain ⟨rfl, rfl⟩ := Prod.mk.inj (Option.some.inj read)
        rw [if_pos digit]
      next => cases read

theorem minusOf_of_ne {c : Char} (other : c ≠ '-') (rest : List Char) : minusOf (c :: rest) = ([], c :: rest) := by
  unfold minusOf
  split
  next same => exact absurd (List.cons.inj same).1 other
  next => rfl

theorem minusOf_append {behind : List Char} (stops : Stops behind) (text : List Char) :
    minusOf (text ++ behind) = ((minusOf text).1, (minusOf text).2 ++ behind) := by
  cases text with
  | nil =>
    cases behind with
    | nil => rfl
    | cons c rest =>
      have other : c ≠ '-' := by
        rintro rfl
        exact (stops.ne rfl).2 (by decide)
      exact minusOf_of_ne other rest
  | cons c rest =>
    by_cases minus : c = '-'
    · subst minus
      rfl
    · rw [List.cons_append, minusOf_of_ne minus, minusOf_of_ne minus]
      rfl

/-- A natural number begins with a digit. -/
theorem natural_head {text places rest : List Char} (read : natural text = some (places, rest)) :
    ∃ c later, text = c :: later ∧ c.isDigit = true := by
  cases text with
  | nil => cases read
  | cons c later =>
    refine ⟨c, later, rfl, ?_⟩
    by_cases zero : c = '0'
    · subst zero
      rfl
    · rw [natural_of_ne zero] at read
      by_contra noDigit
      rw [if_neg noDigit] at read
      cases read

theorem head?_toDigits {n : Nat} (positive : 0 < n) : ∀ c ∈ (Nat.toDigits 10 n).head?, c ≠ '0' := by
  induction n using Nat.strong_induction_on with
  | _ n ih =>
    by_cases small : n < 10
    · rw [Nat.toDigits_of_lt_base small]
      intro c first
      obtain rfl := Option.some.inj first
      have digits : ∀ d < 10, 0 < d → d.digitChar ≠ '0' := by decide
      exact digits n small positive
    · rw [Nat.toDigits_of_base_le (by decide) (Nat.le_of_not_lt small), List.head?_append_of_ne_nil _ Nat.toDigits_ne_nil]
      exact ih (n / 10) (by omega) (by omega)

theorem natural_toDigits (n : Nat) : natural (Nat.toDigits 10 n) = some (Nat.toDigits 10 n, []) := by
  have all_ : ∀ c ∈ Nat.toDigits 10 n, c.isDigit = true :=
    fun c member => Nat.isDigit_of_mem_toDigits (by decide) (by decide) member
  have whole : ∀ chars : List Char, (∀ c ∈ chars, c.isDigit = true) → digits chars = (chars, []) := by
    intro chars digit
    unfold digits
    rw [List.span_eq_takeWhile_dropWhile, List.takeWhile_eq_self_iff.2 digit, List.dropWhile_eq_nil_iff.2 digit]
  rcases Nat.eq_zero_or_pos n with rfl | positive
  · rfl
  · have first := head?_toDigits positive
    cases chars : Nat.toDigits 10 n with
    | nil => exact absurd chars Nat.toDigits_ne_nil
    | cons c rest =>
      rw [chars] at all_ first
      rw [natural_of_ne (first c rfl), if_pos (all_ c List.mem_cons_self),
        whole rest fun d member => all_ d (List.mem_cons_of_mem _ member)]

variable [NumberData]

theorem number_append {behind rest : List Char} (stops : Stops behind) {text : List Char} {value : Json}
    (read : number text = some (value, rest)) : number (text ++ behind) = some (value, rest ++ behind) := by
  rw [number_eq] at read ⊢
  obtain ⟨⟨whole, middle⟩, found, same⟩ := Option.map_eq_some_iff.1 read
  rw [minusOf_append stops, natural_append stops found, Option.map_some]
  dsimp only at same ⊢
  rw [fraction_append stops, exponent_append stops, Option.some.injEq]
  rw [Prod.mk.injEq] at same ⊢
  exact ⟨same.1, by rw [same.2]⟩

theorem number_toDigits (n : Nat) : number (Nat.toDigits 10 n) = some (.int n, []) := by
  have natural := natural_toDigits n
  obtain ⟨c, later, chars, digit⟩ := natural_head natural
  have other : c ≠ '-' := by
    rintro rfl
    exact absurd digit (by decide)
  have unsigned : minusOf (Nat.toDigits 10 n) = ([], Nat.toDigits 10 n) := by rw [chars, minusOf_of_ne other]
  rw [number_eq, unsigned, natural]
  show some (Json.int (Nat.ofDigitChars 10 (Nat.toDigits 10 n) 0 : Nat), ([] : List Char)) = _
  rw [Nat.ofDigitChars_ten_toDigits]

theorem number_neg_toDigits (n : Nat) : number ('-' :: Nat.toDigits 10 n) = some (.int (-n), []) := by
  have signed : minusOf ('-' :: Nat.toDigits 10 n) = (['-'], Nat.toDigits 10 n) := rfl
  rw [number_eq, signed, natural_toDigits n]
  show some (Json.int (-(Nat.ofDigitChars 10 (Nat.toDigits 10 n) 0 : Nat)), ([] : List Char)) = _
  rw [Nat.ofDigitChars_ten_toDigits]

theorem number_toString (n : Int) : number (toString n).toList = some (.int n, []) := by
  rw [Int.toString_eq_repr, Int.repr_eq_if]
  split
  next positive =>
    rw [Nat.toList_repr, number_toDigits, Int.toNat_of_nonneg positive]
  next negative =>
    rw [String.toList_append, Nat.toList_repr]
    show number ('-' :: Nat.toDigits 10 (-n).toNat) = _
    rw [number_neg_toDigits, Int.toNat_of_nonneg (by omega), neg_neg]

/-- The text begins with neither a digit nor a sign and a digit. -/
def startsApart : List Char → Bool
  | first :: second :: _ => !first.isDigit && (first != '-' || !second.isDigit)
  | _ => false

omit [NumberData] in
/-- A text that begins with a digit, or with a sign and a digit, is no constant. -/
theorem word_of_digit {text : List Char} {c : Char} {later : List Char} (same : (minusOf text).2 = c :: later)
    (digit : c.isDigit = true) {entry : String × Json} (known : entry ∈ constants) : word entry.1 text = none := by
  have shapes : constants.all (fun entry => startsApart entry.1.toList) = true := by decide
  have shape := List.all_eq_true.1 shapes entry known
  cases read : word entry.1 text with
  | none => rfl
  | some rest =>
    exfalso
    have whole := word_eq read
    unfold startsApart at shape
    split at shape
    next first second tail chars =>
      rw [chars] at whole
      subst whole
      rw [Bool.and_eq_true, Bool.or_eq_true, Bool.not_eq_true', Bool.not_eq_true', bne_iff_ne] at shape
      by_cases minus : first = '-'
      · subst minus
        obtain ⟨rfl, _⟩ := List.cons.inj same
        rw [shape.2.resolve_left fun other => other rfl] at digit
        cases digit
      · rw [List.cons_append, minusOf_of_ne minus] at same
        obtain ⟨rfl, _⟩ := List.cons.inj same
        rw [shape.1] at digit
        cases digit
    next => cases shape

/-- A text that reads as a number reads as no constant. -/
theorem scalar_of_number {text rest : List Char} {value : Json} (read : number text = some (value, rest)) :
    scalar text = some (value, rest) := by
  have begins : ∃ c later, (minusOf text).2 = c :: later ∧ c.isDigit = true := by
    rw [number_eq] at read
    obtain ⟨⟨whole, middle⟩, found, _⟩ := Option.map_eq_some_iff.1 read
    exact natural_head found
  obtain ⟨c, later, same, digit⟩ := begins
  unfold scalar
  rw [List.findSome?_eq_none_iff.2]
  · exact read
  · intro entry known
    show (word entry.1 text).map _ = none
    rw [word_of_digit same digit known]
    rfl

/-- A number begins with a digit or a sign. -/
theorem number_head {text rest : List Char} {value : Json} (read : number text = some (value, rest)) :
    ∃ c later, text = c :: later ∧ (c.isDigit = true ∨ c = '-') := by
  cases text with
  | nil => cases read
  | cons c later =>
    refine ⟨c, later, rfl, ?_⟩
    by_cases minus : c = '-'
    · exact .inr minus
    · rw [number_eq, minusOf_of_ne minus] at read
      obtain ⟨⟨whole, middle⟩, found, _⟩ := Option.map_eq_some_iff.1 read
      obtain ⟨d, behind, same, digit⟩ := natural_head found
      obtain ⟨rfl, _⟩ := List.cons.inj same
      exact .inl digit

end Numbers

/-! Values. -/

section Values
variable [NumberData]

/-- A float is written in a way in which it is read. -/
def FloatText (text : String) : Prop := text ∈ ["nan", "inf", "-inf"] ∨ number text.toList = some (.float text, [])

mutual

/-- The value is one that Python can hold: the keys of a dictionary are distinct, and floats are written as floats. -/
def Proper : Json → Prop
  | .float text => FloatText text
  | .arr items => ProperItems items
  | .obj fields => (fields.map Prod.fst).Nodup ∧ ProperFields fields
  | .null | .bool _ | .int _ | .str _ => True

def ProperItems : List Json → Prop
  | [] => True
  | item :: rest => Proper item ∧ ProperItems rest

def ProperFields : List (String × Json) → Prop
  | [] => True
  | field :: rest => Proper field.2 ∧ ProperFields rest

end

theorem properFields_iff {fields : Dict} : ProperFields fields ↔ ∀ field ∈ fields, Proper field.2 := by
  induction fields with
  | nil => exact iff_of_true trivial fun _ member => absurd member List.not_mem_nil
  | cons field rest ih => rw [ProperFields, ih, List.forall_mem_cons]

/-- What stands between the brackets of a list. -/
def itemsText (items : List Json) : List Char := (Text.joinWith ", " (Json.dumpsItems items)).toList

/-- What stands between the braces of a dictionary. -/
def fieldsText (fields : Dict) : List Char := (Text.joinWith ", " (Json.dumpsFields fields)).toList

omit [NumberData] in
theorem joinWith_cons (separator first second : String) (rest : List String) :
    Text.joinWith separator (first :: second :: rest) = first ++ separator ++ Text.joinWith separator (second :: rest) := rfl

omit [NumberData] in
theorem itemsText_singleton (item : Json) : itemsText [item] = item.dumps.toList := rfl

omit [NumberData] in
theorem itemsText_cons (item next : Json) (rest : List Json) :
    itemsText (item :: next :: rest) = item.dumps.toList ++ ',' :: ' ' :: itemsText (next :: rest) := by
  unfold itemsText
  rw [Json.dumpsItems, Json.dumpsItems, joinWith_cons, String.toList_append, String.toList_append, List.append_assoc]
  rfl

omit [NumberData] in
/-- A key with what introduces its value. -/
theorem fieldText_eq (key : String) (value : Json) :
    (Text.dumpsStr key ++ ": " ++ value.dumps).toList =
      '"' :: (key.toList.flatMap Text.dumpsChar ++ '"' :: ':' :: ' ' :: value.dumps.toList) := by
  rw [String.toList_append, String.toList_append, Text.dumpsStr, String.toList_ofList]
  simp

omit [NumberData] in
theorem fieldsText_singleton (key : String) (value : Json) :
    fieldsText [(key, value)] =
      '"' :: (key.toList.flatMap Text.dumpsChar ++ '"' :: ':' :: ' ' :: value.dumps.toList) := fieldText_eq key value

omit [NumberData] in
theorem fieldsText_cons (key : String) (value : Json) (next : String × Json) (rest : Dict) :
    fieldsText ((key, value) :: next :: rest) =
      '"' :: (key.toList.flatMap Text.dumpsChar ++ '"' :: ':' :: ' ' :: (value.dumps.toList ++
        ',' :: ' ' :: fieldsText (next :: rest))) := by
  unfold fieldsText
  obtain ⟨nextKey, nextValue⟩ := next
  rw [Json.dumpsFields, Json.dumpsFields, joinWith_cons, String.toList_append, String.toList_append, fieldText_eq]
  simp

omit [NumberData] in
theorem dumps_arr (items : List Json) : (Json.arr items).dumps.toList = '[' :: (itemsText items ++ [']']) := by
  rw [Json.dumps, String.toList_append, String.toList_append]
  rfl

omit [NumberData] in
theorem dumps_obj (fields : Dict) : (Json.obj fields).dumps.toList = '\x7b' :: (fieldsText fields ++ ['\x7d']) := by
  rw [Json.dumps, String.toList_append, String.toList_append]
  rfl

omit [NumberData] in
theorem dumps_str (text : String) :
    (Json.str text).dumps.toList = '"' :: (text.toList.flatMap Text.dumpsChar ++ ['"']) := by
  rw [Json.dumps, Text.dumpsStr, String.toList_ofList]
  rfl

theorem value_scalar {c : Char} (other : c ≠ '"' ∧ c ≠ '[' ∧ c ≠ '\x7b') (fuel : Nat) (rest : List Char) :
    value (fuel + 1) (c :: rest) = scalar (c :: rest) := by
  rw [value.eq_def]
  split
  next same => exact absurd same (Nat.succ_ne_zero fuel)
  next same => exact absurd (List.cons.inj same).1 other.1
  next same => exact absurd (List.cons.inj same).1 other.2.1
  next same => exact absurd (List.cons.inj same).1 other.2.2
  next => rfl

/-- A number is read up to what stops it. -/
theorem value_of_number {text behind : List Char} {read : Json} (number : number text = some (read, []))
    (stops : Stops behind) (fuel : Nat) : value (fuel + 1) (text ++ behind) = some (read, behind) := by
  have longer := number_append stops number
  obtain ⟨c, later, rfl, begins⟩ := number_head number
  have other : c ≠ '"' ∧ c ≠ '[' ∧ c ≠ '\x7b' := by
    refine ⟨?_, ?_, ?_⟩
    all_goals
      rintro rfl
      exact absurd begins (by decide)
  rw [List.cons_append, value_scalar other]
  exact scalar_of_number longer

omit [NumberData] in
theorem dumpsFloat_of_notMem {text : String} (plain : text ∉ ["nan", "inf", "-inf"]) : Json.dumpsFloat text = text := by
  simp only [List.mem_cons, List.not_mem_nil, or_false, not_or] at plain
  unfold Json.dumpsFloat
  split
  · exact absurd rfl plain.1
  · exact absurd rfl plain.2.1
  · exact absurd rfl plain.2.2
  · rfl

theorem value_float {text : String} (proper : FloatText text) {behind : List Char} (stops : Stops behind) (fuel : Nat) :
    value (fuel + 1) ((Json.dumpsFloat text).toList ++ behind) = some (.float text, behind) := by
  by_cases named : text ∈ ["nan", "inf", "-inf"]
  · simp only [List.mem_cons, List.not_mem_nil, or_false] at named
    rcases named with rfl | rfl | rfl <;> rfl
  · rw [dumpsFloat_of_notMem named]
    exact value_of_number (proper.resolve_left named) stops fuel

/-- What is written for a value begins neither with a blank nor with what closes a list. -/
theorem dumps_head {value : Json} (proper : Proper value) :
    ∃ c later, value.dumps.toList = c :: later ∧ isBlank c = false ∧ c ≠ ']' ∧ c ≠ '\x7d' := by
  have ofNumber : ∀ {text : List Char} {read : Json}, number text = some (read, []) →
      ∃ c later, text = c :: later ∧ isBlank c = false ∧ c ≠ ']' ∧ c ≠ '\x7d' := by
    intro text read number
    obtain ⟨c, later, rfl, begins⟩ := number_head number
    refine ⟨c, later, rfl, ?_, ?_, ?_⟩
    · by_contra blank
      rw [Bool.not_eq_false] at blank
      unfold isBlank at blank
      rcases of_decide_eq_true blank with rfl | rfl | rfl | rfl <;> exact absurd begins (by decide)
    all_goals
      rintro rfl
      exact absurd begins (by decide)
  cases value with
  | null => exact ⟨'n', _, rfl, by decide, by decide, by decide⟩
  | bool value => cases value with
    | true => exact ⟨'t', _, rfl, by decide, by decide, by decide⟩
    | false => exact ⟨'f', _, rfl, by decide, by decide, by decide⟩
  | int value => exact ofNumber (number_toString value)
  | float text =>
    by_cases named : text ∈ ["nan", "inf", "-inf"]
    · simp only [List.mem_cons, List.not_mem_nil, or_false] at named
      rcases named with rfl | rfl | rfl
      · exact ⟨'N', _, rfl, by decide, by decide, by decide⟩
      · exact ⟨'I', _, rfl, by decide, by decide, by decide⟩
      · exact ⟨'-', _, rfl, by decide, by decide, by decide⟩
    · rw [Json.dumps, dumpsFloat_of_notMem named]
      have written : FloatText text := proper
      exact ofNumber (written.resolve_left named)
  | str text => exact ⟨'"', _, dumps_str text, by decide, by decide, by decide⟩
  | arr items => exact ⟨'[', _, dumps_arr items, by decide, by decide, by decide⟩
  | obj fields => exact ⟨'\x7b', _, dumps_obj fields, by decide, by decide, by decide⟩

omit [NumberData] in
theorem skipBlank_of_head {c : Char} (visible : isBlank c = false) (rest : List Char) :
    skipBlank (c :: rest) = c :: rest := List.dropWhile_cons_of_neg (by rw [visible]; exact Bool.false_ne_true)

theorem skipBlank_dumps {value : Json} (proper : Proper value) (behind : List Char) :
    skipBlank (value.dumps.toList ++ behind) = value.dumps.toList ++ behind := by
  obtain ⟨c, later, chars, visible, _⟩ := dumps_head proper
  rw [chars, List.cons_append, skipBlank_of_head visible]

/-! Reading back. -/

omit [NumberData] in
theorem set_of_notMem {known : Dict} {key : String} (absent : key ∉ known.map Prod.fst) (value : Json) :
    known.set key value = known ++ [(key, value)] := by
  induction known with
  | nil => rfl
  | cons field rest ih =>
    obtain ⟨name, old⟩ := field
    rw [List.map_cons, List.mem_cons, not_or] at absent
    rw [Dict.set, if_neg fun same => absent.1 same.symm, ih absent.2]
    rfl

omit [NumberData] in
theorem stops_of_mem {c : Char} (known : c ∈ [',', ']', '\x7d']) (behind : List Char) : Stops (c :: behind) := by
  intro d first
  exact Option.some.inj first ▸ known

theorem elements_blank (fuel : Nat) (text : List Char) : elements fuel (' ' :: text) = elements fuel text := by
  cases fuel <;> rfl

theorem members_blank (fuel : Nat) (known : Dict) (text : List Char) :
    members fuel known (' ' :: text) = members fuel known text := by
  cases fuel <;> rfl

/-- The value is read back with this fuel, whatever stops it. -/
def ReadBack (fuel : Nat) (item : Json) : Prop :=
  ∀ behind, Stops behind → value fuel (item.dumps.toList ++ behind) = some (item, behind)

theorem elements_last {item : Json} (proper : Proper item) {fuel : Nat} (read : ReadBack fuel item) (behind : List Char) :
    elements (fuel + 1) (item.dumps.toList ++ ']' :: behind) = some ([item], behind) := by
  rw [elements.eq_def]
  dsimp only
  rw [skipBlank_dumps proper, read _ (stops_of_mem (by decide) behind)]
  rfl

theorem elements_more {item : Json} (proper : Proper item) {fuel : Nat} (read : ReadBack fuel item) {rest : List Json}
    {later behind : List Char} (continues : elements fuel later = some (rest, behind)) :
    elements (fuel + 1) (item.dumps.toList ++ ',' :: ' ' :: later) = some (item :: rest, behind) := by
  rw [elements.eq_def]
  dsimp only
  rw [skipBlank_dumps proper, read _ (stops_of_mem (by decide) _)]
  show (elements fuel (' ' :: later)).bind _ = _
  rw [elements_blank, continues]
  rfl

/-- The parser behind the key of a member. -/
theorem members_key (known : Dict) (key : String) (fuel : Nat) (text : List Char) :
    members (fuel + 1) known ('"' :: (key.toList.flatMap Text.dumpsChar ++ '"' :: ':' :: ' ' :: text)) =
      (value fuel (skipBlank text)).bind fun (item, rest) =>
        match skipBlank rest with
        | '\x7d' :: rest => some (known.set key item, rest)
        | ',' :: rest => members fuel (known.set key item) rest
        | _ => none := by
  let body := key.toList.flatMap Text.dumpsChar ++ '"' :: ':' :: ' ' :: text
  have read : stringBody (body.length + 1) body = some (key.toList, ':' :: ' ' :: text) :=
    stringBody_dumps (by rw [List.length_append]; omega)
  have quote : skipBlank ('"' :: body) = '"' :: body := skipBlank_of_head (by decide) body
  rw [members.eq_def]
  dsimp only
  rw [quote]
  show (stringBody (body.length + 1) body).bind _ = _
  rw [read]
  show (value fuel (skipBlank text)).bind _ = _
  rw [String.ofList_toList]
  rfl

theorem members_last {known : Dict} {key : String} {item : Json} (proper : Proper item) {fuel : Nat}
    (read : ReadBack fuel item) (absent : key ∉ known.map Prod.fst) (behind : List Char) :
    members (fuel + 1) known (fieldsText [(key, item)] ++ '\x7d' :: behind) = some (known ++ [(key, item)], behind) := by
  rw [fieldsText_singleton]
  simp only [List.cons_append, List.append_assoc]
  rw [members_key, skipBlank_dumps proper, read _ (stops_of_mem (by decide) behind), ← set_of_notMem absent]
  rfl

theorem members_more {known : Dict} {key : String} {item : Json} (proper : Proper item) {fuel : Nat}
    (read : ReadBack fuel item) (absent : key ∉ known.map Prod.fst) {next : String × Json} {rest fields : Dict}
    {text behind : List Char}
    (continues : members fuel (known ++ [(key, item)]) (fieldsText (next :: rest) ++ text) = some (fields, behind)) :
    members (fuel + 1) known (fieldsText ((key, item) :: next :: rest) ++ text) = some (fields, behind) := by
  rw [fieldsText_cons]
  simp only [List.cons_append, List.append_assoc]
  rw [members_key, skipBlank_dumps proper, read _ (stops_of_mem (by decide) _)]
  show members fuel (known.set key item) (' ' :: (fieldsText (next :: rest) ++ text)) = _
  rw [members_blank, set_of_notMem absent, continues]

theorem value_list {items : List Json} (proper : ProperItems items) {fuel : Nat} {behind : List Char}
    (read : items ≠ [] → elements fuel (itemsText items ++ ']' :: behind) = some (items, behind)) :
    value (fuel + 1) ((Json.arr items).dumps.toList ++ behind) = some (.arr items, behind) := by
  rw [dumps_arr]
  cases items with
  | nil => rfl
  | cons item rest =>
    have whole := read (List.cons_ne_nil _ _)
    obtain ⟨c, later, chars, visible, noBracket, _⟩ := dumps_head proper.1
    obtain ⟨tail, begins⟩ : ∃ tail, itemsText (item :: rest) = c :: tail := by
      cases rest with
      | nil => exact ⟨later, by rw [itemsText_singleton, chars]⟩
      | cons next rest => exact ⟨_, by rw [itemsText_cons, chars, List.cons_append]⟩
    rw [begins] at whole ⊢
    have same : '[' :: (c :: tail ++ [']']) ++ behind = '[' :: (c :: tail ++ ']' :: behind) := by
      simp only [List.cons_append, List.append_assoc, List.nil_append]
    rw [same, value, List.cons_append, skipBlank_of_head visible]
    split
    next other => exact absurd (List.cons.inj other).1 noBracket
    next =>
      rw [← List.cons_append, whole]
      rfl

theorem value_dict {fields : Dict} {fuel : Nat} {behind : List Char}
    (read : fields ≠ [] → members fuel [] (fieldsText fields ++ '\x7d' :: behind) = some (fields, behind)) :
    value (fuel + 1) ((Json.obj fields).dumps.toList ++ behind) = some (.obj fields, behind) := by
  rw [dumps_obj]
  cases fields with
  | nil => rfl
  | cons field rest =>
    have whole := read (List.cons_ne_nil _ _)
    obtain ⟨key, item⟩ := field
    obtain ⟨tail, begins⟩ : ∃ tail, fieldsText ((key, item) :: rest) = '"' :: tail := by
      cases rest with
      | nil => exact ⟨_, fieldsText_singleton key item⟩
      | cons next rest => exact ⟨_, fieldsText_cons key item next rest⟩
    rw [begins] at whole ⊢
    have unfolded : value (fuel + 1) ('\x7b' :: ('"' :: tail ++ ['\x7d']) ++ behind) =
        (members fuel [] ('"' :: tail ++ '\x7d' :: behind)).bind fun found => some (.obj found.1, found.2) := by
      simp only [List.cons_append, List.append_assoc]
      rfl
    rw [unfolded, whole]
    rfl

theorem readBack_str (text : String) (fuel : Nat) : ReadBack (fuel + 1) (.str text) := by
  intro behind _
  let body := text.toList.flatMap Text.dumpsChar ++ '"' :: behind
  have read : stringBody (body.length + 1) body = some (text.toList, behind) :=
    stringBody_dumps (by rw [List.length_append]; omega)
  rw [dumps_str, List.cons_append, List.append_assoc]
  show (stringBody (body.length + 1) body).bind _ = _
  rw [read]
  show some (Json.str (String.ofList text.toList), behind) = _
  rw [String.ofList_toList]

/-- What a parser with this fuel reads back: texts that are no longer than it. -/
structure ReadsBy (fuel : Nat) : Prop where
  value : ∀ {item}, Proper item → item.dumps.toList.length ≤ fuel → ReadBack fuel item
  elements : ∀ {items}, items ≠ [] → ProperItems items → (itemsText items).length < fuel →
    ∀ behind, Loads.elements fuel (itemsText items ++ ']' :: behind) = some (items, behind)
  members : ∀ {fields known}, fields ≠ [] → ProperFields fields → (known.map Prod.fst ++ fields.map Prod.fst).Nodup →
    (fieldsText fields).length < fuel →
    ∀ behind, Loads.members fuel known (fieldsText fields ++ '\x7d' :: behind) = some (known ++ fields, behind)

theorem reads_value {fuel : Nat} (reads : ReadsBy fuel) {item : Json} (proper : Proper item)
    (enough : item.dumps.toList.length ≤ fuel + 1) : ReadBack (fuel + 1) item := by
  cases item with
  | null => exact fun behind _ => rfl
  | bool value => cases value <;> exact fun behind _ => rfl
  | int number => exact fun behind stops => value_of_number (number_toString number) stops fuel
  | float text => exact fun behind stops => value_float proper stops fuel
  | str text => exact readBack_str text fuel
  | arr items =>
    intro behind _
    rw [dumps_arr, List.length_cons, List.length_append, List.length_singleton] at enough
    exact value_list proper fun some_ => reads.elements some_ proper (by omega) behind
  | obj fields =>
    intro behind _
    rw [dumps_obj, List.length_cons, List.length_append, List.length_singleton] at enough
    have distinct : (List.map Prod.fst ([] : Dict) ++ fields.map Prod.fst).Nodup := proper.1
    exact value_dict fun some_ => reads.members some_ proper.2 distinct (by omega) behind

theorem reads_elements {fuel : Nat} (reads : ReadsBy fuel) {items : List Json} (some_ : items ≠ [])
    (proper : ProperItems items) (enough : (itemsText items).length < fuel + 1) (behind : List Char) :
    elements (fuel + 1) (itemsText items ++ ']' :: behind) = some (items, behind) := by
  cases items with
  | nil => exact absurd rfl some_
  | cons item rest =>
    cases rest with
    | nil => exact elements_last proper.1 (reads.value proper.1 (Nat.le_of_lt_succ enough)) behind
    | cons next rest =>
      rw [itemsText_cons, List.length_append, List.length_cons, List.length_cons] at enough
      rw [itemsText_cons, List.append_assoc]
      apply elements_more proper.1 (reads.value proper.1 (by omega))
      exact reads.elements (List.cons_ne_nil _ _) proper.2 (by omega) behind

theorem reads_members {fuel : Nat} (reads : ReadsBy fuel) {fields known : Dict} (some_ : fields ≠ [])
    (proper : ProperFields fields) (distinct : (known.map Prod.fst ++ fields.map Prod.fst).Nodup)
    (enough : (fieldsText fields).length < fuel + 1) (behind : List Char) :
    members (fuel + 1) known (fieldsText fields ++ '\x7d' :: behind) = some (known ++ fields, behind) := by
  cases fields with
  | nil => exact absurd rfl some_
  | cons field rest =>
    obtain ⟨key, item⟩ := field
    have absent : key ∉ known.map Prod.fst :=
      fun member => (List.nodup_append.1 distinct).2.2 key member key List.mem_cons_self rfl
    have first : Proper item := proper.1
    cases rest with
    | nil =>
      rw [fieldsText_singleton] at enough
      simp only [List.length_cons, List.length_append] at enough
      exact members_last first (reads.value first (by omega)) absent behind
    | cons next rest =>
      rw [fieldsText_cons] at enough
      simp only [List.length_cons, List.length_append] at enough
      have later : ((known ++ [(key, item)]).map Prod.fst ++ (next :: rest).map Prod.fst).Nodup := by
        rw [List.map_append, List.append_assoc]
        exact distinct
      apply members_more first (reads.value first (by omega)) absent
      rw [reads.members (List.cons_ne_nil _ _) proper.2 later (by omega) behind, List.append_assoc]
      rfl

theorem readsBy (fuel : Nat) : ReadsBy fuel := by
  induction fuel with
  | zero =>
    refine ⟨?_, fun _ _ short => absurd short (Nat.not_lt_zero _), fun _ _ _ short => absurd short (Nat.not_lt_zero _)⟩
    intro item proper short
    obtain ⟨c, later, chars, _⟩ := dumps_head proper
    rw [chars] at short
    exact absurd short (Nat.not_succ_le_zero _)
  | succ fuel ih => exact ⟨reads_value ih, reads_elements ih, reads_members ih⟩

/-- `json.loads(json.dumps(value))`, also behind blanks. -/
theorem loads_dumps {item : Json} (proper : Proper item) {blanks : List Char} (blank : ∀ c ∈ blanks, isBlank c = true) :
    Json.loads (String.ofList (blanks ++ item.dumps.toList)) = some item := by
  have stripped : skipBlank (blanks ++ item.dumps.toList) = item.dumps.toList := by
    have whole := skipBlank_dumps proper []
    rw [List.append_nil] at whole
    unfold skipBlank at whole ⊢
    rw [List.dropWhile_append_of_pos blank, whole]
  have enough : item.dumps.toList.length ≤ 2 * (String.ofList (blanks ++ item.dumps.toList)).length + 1 := by
    rw [String.length_ofList, List.length_append]
    omega
  have read := (readsBy _).value proper enough [] (fun c first => by cases first)
  rw [List.append_nil] at read
  unfold Json.loads
  rw [String.toList_ofList, stripped, read]
  rfl

end Values

end SoulClaw.Foundation.Loads
