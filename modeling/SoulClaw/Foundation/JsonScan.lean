import SoulClaw.Foundation.JsonText
import Mathlib.Data.List.TakeDrop
import Mathlib.Data.List.TakeWhile

/-! The lexical shape of a JSON text. Whatever the parser reads is scanned from the outside of all strings to the outside
of all strings, at the depth of brackets at which it began, and in between it does not come back to that depth. -/

namespace SoulClaw.Foundation.Loads

def isOpen (c : Char) : Bool := c = '[' ∨ c = '\x7b'

def isClose (c : Char) : Bool := c = ']' ∨ c = '\x7d'

/-- A character that stands outside of strings and is no bracket. -/
def isPlain (c : Char) : Bool := c.toNat < 0x80 ∧ c ∉ ['"', '\\', '[', ']', '\x7b', '\x7d']

def isEscape (c : Char) : Bool := c ∈ ['"', '\\', '/', 'b', 'f', 'n', 'r', 't', 'u']

/-- A character that stands for itself in a string. -/
def isLiteral (c : Char) : Bool := c ≠ '"' ∧ c ≠ '\\' ∧ 0x20 ≤ c.toNat

/-- The rest of a string behind its opening quote. -/
inductive Body : List Char → Prop where
  | close : Body ['"']
  | literal {c : Char} {rest : List Char} (itself : isLiteral c = true) (later : Body rest) : Body (c :: rest)
  | escape {c : Char} {rest : List Char} (known : isEscape c = true) (later : Body rest) : Body ('\\' :: c :: rest)

inductive Kind where
  | value
  /-- What stands behind an opening bracket, up to the closing one. -/
  | inside

inductive Shape : Kind → List Char → Prop where
  | scalar {read : List Char} (visible : read ≠ []) (plain : ∀ c ∈ read, isPlain c = true) : Shape .value read
  | string {read : List Char} (body : Body read) : Shape .value ('"' :: read)
  | brackets {c : Char} {read : List Char} (opens : isOpen c = true) (later : Shape .inside read) :
      Shape .value (c :: read)
  | close {c : Char} (closes : isClose c = true) : Shape .inside [c]
  | gap {c : Char} {read : List Char} (plain : isPlain c = true) (later : Shape .inside read) : Shape .inside (c :: read)
  | item {first read : List Char} (value : Shape .value first) (later : Shape .inside read) :
      Shape .inside (first ++ read)

/-! What the parser reads has a shape. -/

section Reading

theorem isPlain_of_isBlank {c : Char} (blank : isBlank c = true) : isPlain c = true := by
  unfold isBlank at blank
  rw [decide_eq_true_eq] at blank
  rcases blank with rfl | rfl | rfl | rfl <;> decide

theorem isPlain_of_isDigit {c : Char} (digit : c.isDigit = true) : isPlain c = true := by
  have bound : c.toNat < 0x80 := by
    unfold Char.isDigit at digit
    rw [Bool.and_eq_true, decide_eq_true_eq, decide_eq_true_eq] at digit
    have upper : c.val.toNat ≤ 57 := UInt32.le_iff_toNat_le.1 digit.2
    exact lt_of_le_of_lt upper (by decide)
  have other : c ∉ ['"', '\\', '[', ']', '\x7b', '\x7d'] := by
    intro member
    simp only [List.mem_cons, List.not_mem_nil, or_false] at member
    rcases member with rfl | rfl | rfl | rfl | rfl | rfl <;> exact absurd digit (by decide)
  exact decide_eq_true ⟨bound, other⟩

theorem skipBlank_eq (text : List Char) :
    ∃ blanks, text = blanks ++ skipBlank text ∧ ∀ c ∈ blanks, isBlank c = true :=
  ⟨text.takeWhile isBlank, List.takeWhile_append_dropWhile.symm, fun _ member => List.mem_takeWhile_imp member⟩

theorem Shape.blanks {blanks read : List Char} (blank : ∀ c ∈ blanks, isBlank c = true) (later : Shape .inside read) :
    Shape .inside (blanks ++ read) := by
  induction blanks with
  | nil => exact later
  | cons c rest ih =>
    exact .gap (isPlain_of_isBlank (blank c List.mem_cons_self)) (ih fun d member => blank d (List.mem_cons_of_mem _ member))

theorem word_eq {literal : String} {text rest : List Char} (read : word literal text = some rest) :
    text = literal.toList ++ rest := by
  unfold word at read
  split at read
  next starts =>
    obtain ⟨behind, rfl⟩ := List.isPrefixOf_iff_prefix.1 starts
    rw [List.drop_left] at read
    rw [Option.some.inj read]
  next => cases read

theorem digits_eq {text places rest : List Char} (read : digits text = (places, rest)) :
    text = places ++ rest ∧ ∀ c ∈ places, c.isDigit = true := by
  unfold digits at read
  rw [List.span_eq_takeWhile_dropWhile, Prod.mk.injEq] at read
  obtain ⟨rfl, rfl⟩ := read
  exact ⟨List.takeWhile_append_dropWhile.symm, fun _ member => List.mem_takeWhile_imp member⟩

/-- A character of a number. -/
def isNumeral (c : Char) : Bool := c.isDigit ∨ c ∈ ['.', 'e', 'E', '+', '-']

theorem isNumeral_of_isDigit {c : Char} (digit : c.isDigit = true) : isNumeral c = true := decide_eq_true (.inl digit)

theorem isPlain_of_isNumeral {c : Char} (numeral : isNumeral c = true) : isPlain c = true := by
  rcases of_decide_eq_true numeral with digit | mark
  · exact isPlain_of_isDigit digit
  · simp only [List.mem_cons, List.not_mem_nil, or_false] at mark
    rcases mark with rfl | rfl | rfl | rfl | rfl <;> decide

/-- A part of a number. -/
def Numerals (text places rest : List Char) : Prop := text = places ++ rest ∧ ∀ c ∈ places, isNumeral c = true

theorem digits_numerals {text places rest : List Char} (read : digits text = (places, rest)) :
    Numerals text places rest := by
  obtain ⟨same, digit⟩ := digits_eq read
  exact ⟨same, fun c member => isNumeral_of_isDigit (digit c member)⟩

theorem Numerals.cons {c : Char} {text places rest : List Char} (numeral : isNumeral c = true)
    (later : Numerals text places rest) : Numerals (c :: text) (c :: places) rest :=
  ⟨congrArg (c :: ·) later.1, List.forall_mem_cons.2 ⟨numeral, later.2⟩⟩

theorem Numerals.append {text middle rest first second : List Char} (earlier : Numerals text first middle)
    (later : Numerals middle second rest) : Numerals text (first ++ second) rest := by
  refine ⟨by rw [earlier.1, later.1, List.append_assoc], ?_⟩
  intro c member
  exact (List.mem_append.1 member).elim (earlier.2 c) (later.2 c)

theorem numerals_nil (text : List Char) : Numerals text [] text := ⟨rfl, fun _ member => absurd member List.not_mem_nil⟩

theorem fraction_numerals {text places rest : List Char} (read : fraction text = (places, rest)) :
    Numerals text places rest := by
  unfold fraction at read
  split at read
  · split at read
    · rw [Prod.mk.injEq] at read
      obtain ⟨rfl, rfl⟩ := read
      exact numerals_nil _
    next found =>
      rw [Prod.mk.injEq] at read
      obtain ⟨rfl, rfl⟩ := read
      exact (digits_numerals found).cons (by decide)
  · rw [Prod.mk.injEq] at read
    obtain ⟨rfl, rfl⟩ := read
    exact numerals_nil _

/-- The sign of an exponent, where one stands. -/
def signOf : List Char → List Char × List Char
  | '+' :: tail => (['+'], tail)
  | '-' :: tail => (['-'], tail)
  | tail => ([], tail)

theorem signOf_numerals (text : List Char) : Numerals text (signOf text).1 (signOf text).2 := by
  unfold signOf
  split
  · exact (numerals_nil _).cons (by decide)
  · exact (numerals_nil _).cons (by decide)
  · exact numerals_nil _

theorem exponent_cons (mark : Char) (rest : List Char) :
    exponent (mark :: rest) =
      if mark = 'e' ∨ mark = 'E' then
        match digits (signOf rest).2 with
        | ([], _) => ([], mark :: rest)
        | (places, tail) => (mark :: (signOf rest).1 ++ places, tail)
      else ([], mark :: rest) := rfl

theorem exponent_numerals {text places rest : List Char} (read : exponent text = (places, rest)) :
    Numerals text places rest := by
  cases text with
  | nil =>
    rw [exponent, Prod.mk.injEq] at read
    obtain ⟨rfl, rfl⟩ := read
    exact numerals_nil _
  | cons mark behind =>
    rw [exponent_cons] at read
    by_cases marked : mark = 'e' ∨ mark = 'E'
    · have numeral : isNumeral mark = true := by rcases marked with rfl | rfl <;> decide
      rw [if_pos marked] at read
      split at read
      · rw [Prod.mk.injEq] at read
        obtain ⟨rfl, rfl⟩ := read
        exact numerals_nil _
      next found =>
        rw [Prod.mk.injEq] at read
        obtain ⟨rfl, rfl⟩ := read
        exact ((signOf_numerals behind).append (digits_numerals found)).cons numeral
    · rw [if_neg marked, Prod.mk.injEq] at read
      obtain ⟨rfl, rfl⟩ := read
      exact numerals_nil _

theorem natural_numerals {text places rest : List Char} (read : natural text = some (places, rest)) :
    Numerals text places rest ∧ places ≠ [] := by
  unfold natural at read
  split at read
  · rw [Option.some.injEq, Prod.mk.injEq] at read
    obtain ⟨rfl, rfl⟩ := read
    exact ⟨(numerals_nil _).cons (by decide), List.cons_ne_nil _ _⟩
  · split at read
    · cases read
    next nonempty =>
      have found := Option.some.inj read
      exact ⟨digits_numerals found, fun empty => nonempty rest (by rw [found, empty])⟩

variable [NumberData]

omit [NumberData] in
/-- The sign of a number, where one stands. -/
def minusOf : List Char → List Char × List Char
  | '-' :: rest => (['-'], rest)
  | rest => ([], rest)

omit [NumberData] in
theorem minusOf_numerals (text : List Char) : Numerals text (minusOf text).1 (minusOf text).2 := by
  unfold minusOf
  split
  · exact (numerals_nil _).cons (by decide)
  · exact numerals_nil _

/-- The value of the parts of a number. -/
def numberValue (sign whole places power : List Char) : Json :=
  if places = [] ∧ power = [] then
    .int (if sign = [] then (Nat.ofDigitChars 10 whole 0 : Nat) else -(Nat.ofDigitChars 10 whole 0 : Nat))
  else .float (NumberData.floatRepr (String.ofList (sign ++ whole ++ places ++ power)))

theorem number_eq (text : List Char) :
    number text = (natural (minusOf text).2).map fun (whole, rest) =>
      let (places, rest) := fraction rest
      let (power, rest) := exponent rest
      (numberValue (minusOf text).1 whole places power, rest) := by
  have unfolded : number text = (natural (minusOf text).2).bind fun (whole, rest) =>
      let (places, rest) := fraction rest
      let (power, rest) := exponent rest
      if places = [] ∧ power = [] then
        let value : Int := Nat.ofDigitChars 10 whole 0
        some (.int (if (minusOf text).1 = [] then value else -value), rest)
      else some (.float (NumberData.floatRepr (String.ofList ((minusOf text).1 ++ whole ++ places ++ power))), rest) := rfl
  rw [unfolded]
  cases natural (minusOf text).2 with
  | none => rfl
  | some read =>
    unfold numberValue
    dsimp only [Option.bind_some, Option.map_some]
    split
    · rfl
    · rfl

theorem number_numerals {text rest : List Char} {value : Json} (read : number text = some (value, rest)) :
    ∃ places, Numerals text places rest ∧ places ≠ [] := by
  rw [number_eq] at read
  obtain ⟨⟨whole, middle⟩, found, same⟩ := Option.map_eq_some_iff.1 read
  obtain ⟨natural, visible⟩ := natural_numerals found
  dsimp only at same
  rw [Prod.mk.injEq] at same
  obtain ⟨_, rfl⟩ := same
  refine ⟨(minusOf text).1 ++ (whole ++ ((fraction middle).1 ++ (exponent (fraction middle).2).1)), ?_, ?_⟩
  · exact (minusOf_numerals text).append (natural.append ((fraction_numerals rfl).append (exponent_numerals rfl)))
  · intro empty
    exact visible (List.append_eq_nil_iff.1 (List.append_eq_nil_iff.1 empty).2).1

theorem scalar_shape {text rest : List Char} {value : Json} (read : scalar text = some (value, rest)) :
    ∃ places, text = places ++ rest ∧ Shape .value places := by
  unfold scalar at read
  split at read
  next found _ =>
    obtain rfl := Option.some.inj read
    obtain ⟨⟨literal, value⟩, known, found⟩ := List.exists_of_findSome?_eq_some ‹_›
    obtain ⟨behind, starts, same⟩ := Option.map_eq_some_iff.1 found
    obtain ⟨rfl, rfl⟩ := Prod.mk.inj same
    have all_ : ∀ entry ∈ constants, entry.1.toList ≠ [] ∧ entry.1.toList.all isPlain = true := by decide
    obtain ⟨visible, plain⟩ := all_ _ known
    exact ⟨literal.toList, word_eq starts, .scalar visible (List.all_eq_true.1 plain)⟩
  · obtain ⟨places, ⟨same, numeral⟩, visible⟩ := number_numerals read
    exact ⟨places, same, .scalar visible fun c member => isPlain_of_isNumeral (numeral c member)⟩

end Reading

section Strings

theorem isLiteral_of_hexValue {c : Char} {value : Nat} (read : hexValue c = some value) : isLiteral c = true := by
  have noQuote : c ≠ '"' := by
    rintro rfl
    exact absurd read (by decide +revert)
  have noEscape : c ≠ '\\' := by
    rintro rfl
    exact absurd read (by decide +revert)
  have visible : 0x20 ≤ c.toNat := by
    by_contra small
    have low : ∀ code < 0x20, hexValue (Char.ofNat code) = none := by decide
    have none_ := low c.toNat (Nat.lt_of_not_le small)
    rw [Char.ofNat_toNat, read] at none_
    cases none_
  exact decide_eq_true ⟨noQuote, noEscape, visible⟩

theorem hex4_eq {text rest : List Char} {value : Nat} (read : hex4 text = some (value, rest)) :
    ∃ unit : List Char, text = unit ++ rest ∧ ∀ c ∈ unit, isLiteral c = true := by
  unfold hex4 at read
  split at read
  next a b c d behind =>
    obtain ⟨first, isFirst, read⟩ := Option.bind_eq_some_iff.1 read
    obtain ⟨second, isSecond, read⟩ := Option.bind_eq_some_iff.1 read
    obtain ⟨third, isThird, read⟩ := Option.bind_eq_some_iff.1 read
    obtain ⟨fourth, isFourth, read⟩ := Option.bind_eq_some_iff.1 read
    obtain ⟨_, rfl⟩ := Prod.mk.inj (Option.some.inj read)
    refine ⟨[a, b, c, d], rfl, ?_⟩
    simp only [List.forall_mem_cons]
    exact ⟨isLiteral_of_hexValue isFirst, isLiteral_of_hexValue isSecond, isLiteral_of_hexValue isThird,
      isLiteral_of_hexValue isFourth, List.forall_mem_nil _⟩
  next => cases read

theorem Body.literals {chars rest : List Char} (literal : ∀ c ∈ chars, isLiteral c = true) (later : Body rest) :
    Body (chars ++ rest) := by
  induction chars with
  | nil => exact later
  | cons c behind ih =>
    exact .literal (literal c List.mem_cons_self) (ih fun d member => literal d (List.mem_cons_of_mem _ member))

/-- Behind a `\u` stands what keeps the body of a string a body. -/
theorem unicodeEscape_eq {text rest : List Char} {c : Char} (read : unicodeEscape text = some (c, rest)) :
    ∃ unit, text = unit ++ rest ∧ ∀ later, Body later → Body (unit ++ later) := by
  unfold unicodeEscape at read
  obtain ⟨⟨unit, behind⟩, found, decoded⟩ := Option.bind_eq_some_iff.1 read
  clear read
  obtain ⟨first, rfl, literal⟩ := hex4_eq found
  dsimp only at decoded
  split at decoded
  · split at decoded
    next tail =>
      obtain ⟨⟨second, last⟩, other, paired⟩ := Option.bind_eq_some_iff.1 decoded
      clear decoded found
      obtain ⟨low, rfl, literal'⟩ := hex4_eq other
      dsimp only at paired
      split at paired
      · obtain ⟨_, rfl⟩ := Prod.mk.inj (Option.some.inj paired)
        refine ⟨first ++ '\\' :: 'u' :: low, by simp, ?_⟩
        intro later body
        rw [List.append_assoc]
        exact Body.literals literal (.escape (by decide) (Body.literals literal' body))
      · cases paired
    next => cases decoded
  · split at decoded
    · cases decoded
    · obtain ⟨_, rfl⟩ := Prod.mk.inj (Option.some.inj decoded)
      exact ⟨first, rfl, fun later body => Body.literals literal body⟩

theorem isEscape_of_simpleEscape {c d : Char} (read : simpleEscape c = some d) : isEscape c = true := by
  unfold simpleEscape at read
  split at read
  all_goals first | rfl | cases read

theorem stringBody_body {fuel : Nat} {text chars rest : List Char} (read : stringBody fuel text = some (chars, rest)) :
    ∃ body, text = body ++ rest ∧ Body body := by
  induction fuel generalizing text chars with
  | zero => cases read
  | succ fuel ih =>
    unfold stringBody at read
    split at read
    next zero => cases zero
    next => cases read
    next =>
      obtain ⟨_, rfl⟩ := Prod.mk.inj (Option.some.inj read)
      exact ⟨['"'], rfl, .close⟩
    next known behind same =>
      obtain rfl := Nat.succ.inj same
      obtain ⟨⟨c, middle⟩, escaped, read⟩ := Option.bind_eq_some_iff.1 read
      obtain ⟨⟨tail, last⟩, found, read⟩ := Option.bind_eq_some_iff.1 read
      obtain ⟨_, rfl⟩ := Prod.mk.inj (Option.some.inj read)
      obtain ⟨unit, rfl, keeps⟩ := unicodeEscape_eq escaped
      obtain ⟨body, rfl, whole⟩ := ih found
      exact ⟨'\\' :: 'u' :: (unit ++ body), by simp, .escape (by decide) (keeps body whole)⟩
    next known c behind _ same =>
      obtain rfl := Nat.succ.inj same
      obtain ⟨d, escaped, read⟩ := Option.bind_eq_some_iff.1 read
      obtain ⟨⟨tail, last⟩, found, read⟩ := Option.bind_eq_some_iff.1 read
      obtain ⟨_, rfl⟩ := Prod.mk.inj (Option.some.inj read)
      obtain ⟨body, rfl, whole⟩ := ih found
      exact ⟨'\\' :: c :: body, rfl, .escape (isEscape_of_simpleEscape escaped) whole⟩
    next known c behind noQuote noUnicode noEscape same =>
      obtain rfl := Nat.succ.inj same
      dsimp only at read
      by_cases low : c.toNat < 0x20
      · rw [if_pos low] at read
        cases read
      · rw [if_neg low] at read
        obtain ⟨⟨tail, last⟩, found, read⟩ := Option.bind_eq_some_iff.1 read
        obtain ⟨_, rfl⟩ := Prod.mk.inj (Option.some.inj read)
        obtain ⟨body, rfl, whole⟩ := ih found
        have visible : c ≠ '\\' := by
          intro escape
          cases body with
          | nil => cases whole
          | cons d later => exact noEscape d _ escape rfl
        exact ⟨c :: body, rfl, .literal (decide_eq_true ⟨noQuote, visible, Nat.le_of_not_lt low⟩) whole⟩

end Strings

section Values

/-- What stands between the blanks behind an opening bracket. -/
theorem inside_of_skipBlank {text behind rest : List Char} (same : skipBlank text = behind)
    (inside : ∃ read, behind = read ++ rest ∧ Shape .inside read) : ∃ read, text = read ++ rest ∧ Shape .inside read := by
  obtain ⟨read, rfl, shape⟩ := inside
  obtain ⟨blanks, whole, blank⟩ := skipBlank_eq text
  rw [same, ← List.append_assoc] at whole
  exact ⟨blanks ++ read, whole, Shape.blanks blank shape⟩

theorem brackets_of_inside {c : Char} {text rest : List Char} (opens : isOpen c = true)
    (inside : ∃ read, text = read ++ rest ∧ Shape .inside read) :
    ∃ read, c :: text = read ++ rest ∧ Shape .value read := by
  obtain ⟨read, rfl, shape⟩ := inside
  exact ⟨c :: read, rfl, .brackets opens shape⟩

/-- A value, blanks and what stands behind them. -/
theorem inside_of_item {first text behind rest : List Char} (value : Shape .value first) (same : skipBlank text = behind)
    (inside : ∃ read, behind = read ++ rest ∧ Shape .inside read) :
    ∃ read, first ++ text = read ++ rest ∧ Shape .inside read := by
  obtain ⟨read, rfl, shape⟩ := inside_of_skipBlank same inside
  exact ⟨first ++ read, (List.append_assoc ..).symm, .item value shape⟩

theorem inside_of_gap {c : Char} {text rest : List Char} (plain : isPlain c = true)
    (inside : ∃ read, text = read ++ rest ∧ Shape .inside read) : ∃ read, c :: text = read ++ rest ∧ Shape .inside read := by
  obtain ⟨read, rfl, shape⟩ := inside
  exact ⟨c :: read, rfl, .gap plain shape⟩

variable [NumberData]

/-- What a parser with this fuel reads has a shape. -/
structure ShapedBy (fuel : Nat) : Prop where
  value : ∀ {text rest value}, Loads.value fuel text = some (value, rest) →
    ∃ read, text = read ++ rest ∧ Shape .value read
  elements : ∀ {text rest items}, Loads.elements fuel text = some (items, rest) →
    ∃ read, text = read ++ rest ∧ Shape .inside read
  members : ∀ {text rest known fields}, Loads.members fuel known text = some (fields, rest) →
    ∃ read, text = read ++ rest ∧ Shape .inside read

theorem shaped_value {fuel : Nat} (shaped : ShapedBy fuel) {text rest : List Char} {value : Json}
    (parsed : Loads.value (fuel + 1) text = some (value, rest)) : ∃ read, text = read ++ rest ∧ Shape .value read := by
  unfold Loads.value at parsed
  split at parsed
  next zero => cases zero
  next behind =>
    obtain ⟨⟨chars, last⟩, found, ended⟩ := Option.bind_eq_some_iff.1 parsed
    obtain ⟨_, rfl⟩ := Prod.mk.inj (Option.some.inj ended)
    obtain ⟨body, rfl, whole⟩ := stringBody_body found
    exact ⟨'"' :: body, rfl, .string whole⟩
  next known behind same =>
    obtain rfl := Nat.succ.inj same
    apply brackets_of_inside (by decide)
    split at parsed
    next last empty =>
      obtain ⟨_, rfl⟩ := Prod.mk.inj (Option.some.inj parsed)
      exact inside_of_skipBlank empty ⟨[']'], rfl, .close (by decide)⟩
    next =>
      obtain ⟨⟨items, last⟩, found, ended⟩ := Option.bind_eq_some_iff.1 parsed
      obtain ⟨_, rfl⟩ := Prod.mk.inj (Option.some.inj ended)
      exact inside_of_skipBlank rfl (shaped.elements found)
  next known behind same =>
    obtain rfl := Nat.succ.inj same
    apply brackets_of_inside (by decide)
    split at parsed
    next last empty =>
      obtain ⟨_, rfl⟩ := Prod.mk.inj (Option.some.inj parsed)
      exact inside_of_skipBlank empty ⟨['\x7d'], rfl, .close (by decide)⟩
    next =>
      obtain ⟨⟨fields, last⟩, found, ended⟩ := Option.bind_eq_some_iff.1 parsed
      obtain ⟨_, rfl⟩ := Prod.mk.inj (Option.some.inj ended)
      exact inside_of_skipBlank rfl (shaped.members found)
  next => exact scalar_shape parsed

theorem shaped_elements {fuel : Nat} (shaped : ShapedBy fuel) {text rest : List Char} {items : List Json}
    (parsed : Loads.elements (fuel + 1) text = some (items, rest)) :
    ∃ read, text = read ++ rest ∧ Shape .inside read := by
  unfold Loads.elements at parsed
  obtain ⟨⟨item, behind⟩, found, parsed⟩ := Option.bind_eq_some_iff.1 parsed
  apply inside_of_skipBlank rfl
  obtain ⟨first, whole, value⟩ := shaped.value found
  rw [whole]
  dsimp only at parsed
  split at parsed
  next last closed =>
    obtain ⟨_, rfl⟩ := Prod.mk.inj (Option.some.inj parsed)
    exact inside_of_item value closed ⟨[']'], rfl, .close (by decide)⟩
  next later separated =>
    obtain ⟨⟨others, last⟩, continued, ended⟩ := Option.bind_eq_some_iff.1 parsed
    obtain ⟨_, rfl⟩ := Prod.mk.inj (Option.some.inj ended)
    exact inside_of_item value separated (inside_of_gap (by decide) (shaped.elements continued))
  next => cases parsed

theorem shaped_members {fuel : Nat} (shaped : ShapedBy fuel) {text rest : List Char} {known fields : Dict}
    (parsed : Loads.members (fuel + 1) known text = some (fields, rest)) :
    ∃ read, text = read ++ rest ∧ Shape .inside read := by
  unfold Loads.members at parsed
  split at parsed
  next behind quoted =>
    obtain ⟨⟨key, afterKey⟩, keyed, valued⟩ := Option.bind_eq_some_iff.1 parsed
    clear parsed
    apply inside_of_skipBlank quoted
    obtain ⟨body, rfl, whole⟩ := stringBody_body keyed
    have quotedKey : Shape .value ('"' :: body) := .string whole
    dsimp only at valued
    split at valued
    next afterColon colon =>
      obtain ⟨⟨item, afterItem⟩, found, continued⟩ := Option.bind_eq_some_iff.1 valued
      refine inside_of_item quotedKey colon (inside_of_gap (by decide) (inside_of_skipBlank rfl ?_))
      obtain ⟨first, same, value⟩ := shaped.value found
      rw [same]
      dsimp only at continued
      split at continued
      next last closed =>
        obtain ⟨_, rfl⟩ := Prod.mk.inj (Option.some.inj continued)
        exact inside_of_item value closed ⟨['\x7d'], rfl, .close (by decide)⟩
      next later separated =>
        exact inside_of_item value separated (inside_of_gap (by decide) (shaped.members continued))
      next => cases continued
    next => cases valued
  next => cases parsed

theorem shapedBy (fuel : Nat) : ShapedBy fuel := by
  induction fuel with
  | zero =>
    refine ⟨?_, ?_, ?_⟩
    · intro text rest value parsed
      cases parsed
    · intro text rest items parsed
      cases parsed
    · intro text rest known fields parsed
      cases parsed
  | succ fuel ih => exact ⟨shaped_value ih, shaped_elements ih, shaped_members ih⟩

/-- A text that `json.loads` reads is a shape between blanks. -/
theorem shape_of_loads {text : String} {value : Json} (parsed : Json.loads text = some value) :
    ∃ before read after, text.toList = before ++ (read ++ after) ∧ (∀ c ∈ before, isBlank c = true) ∧
      Shape .value read ∧ ∀ c ∈ after, isBlank c = true := by
  unfold Json.loads at parsed
  obtain ⟨⟨result, rest⟩, found, ended⟩ := Option.bind_eq_some_iff.1 parsed
  obtain ⟨read, whole, shape⟩ := (shapedBy _).value found
  obtain ⟨before, same, blank⟩ := skipBlank_eq text.toList
  obtain ⟨after, behind, blank'⟩ := skipBlank_eq rest
  dsimp only at ended
  split at ended
  next empty =>
    rw [empty, List.append_nil] at behind
    rw [behind] at whole
    exact ⟨before, read, after, by rw [← whole]; exact same, blank, shape, blank'⟩
  next => cases ended

end Values

/-! Scanning. -/

inductive Mode where
  | outside
  | inside
  /-- Behind a backslash in a string. -/
  | escaped
  deriving DecidableEq, Repr

/-- The mode and the depth of brackets behind a character, where a text can go on with it. -/
def scanChar : Mode × Nat → Char → Option (Mode × Nat)
  | (.outside, depth), c =>
      if c = '"' then some (.inside, depth)
      else if isOpen c then some (.outside, depth + 1)
      else if isClose c then (if depth = 0 then none else some (.outside, depth - 1))
      else if isPlain c then some (.outside, depth)
      else none
  | (.inside, depth), c =>
      if c = '"' then some (.outside, depth)
      else if c = '\\' then some (.escaped, depth)
      else if isLiteral c then some (.inside, depth)
      else none
  | (.escaped, depth), c => if isEscape c then some (.inside, depth) else none

def scan (state : Mode × Nat) : List Char → Option (Mode × Nat)
  | [] => some state
  | c :: rest => (scanChar state c).bind (scan · rest)

section Scans

theorem scan_append (state : Mode × Nat) (first second : List Char) :
    scan state (first ++ second) = (scan state first).bind (scan · second) := by
  induction first generalizing state with
  | nil => rfl
  | cons c rest ih =>
    rw [List.cons_append, scan, scan, Option.bind_assoc]
    congr 1
    funext next
    exact ih next

theorem scan_cons_of {state next : Mode × Nat} {c : Char} (taken : scanChar state c = some next) (rest : List Char) :
    scan state (c :: rest) = scan next rest := by
  rw [scan, taken, Option.bind_some]

theorem scanChar_plain {c : Char} (plain : isPlain c = true) (depth : Nat) :
    scanChar (.outside, depth) c = some (.outside, depth) := by
  have parts := of_decide_eq_true plain
  simp only [List.mem_cons, List.not_mem_nil, or_false, not_or] at parts
  obtain ⟨_, quote, _, openList, closeList, openDict, closeDict⟩ := parts
  have noOpen : isOpen c = false := decide_eq_false (by simp [openList, openDict])
  have noClose : isClose c = false := decide_eq_false (by simp [closeList, closeDict])
  rw [scanChar, if_neg quote, noOpen, if_neg Bool.false_ne_true, noClose, if_neg Bool.false_ne_true, if_pos plain]

theorem scanChar_open {c : Char} (opens : isOpen c = true) (depth : Nat) :
    scanChar (.outside, depth) c = some (.outside, depth + 1) := by
  have quote : c ≠ '"' := by
    rintro rfl
    exact absurd opens (by decide)
  rw [scanChar, if_neg quote, if_pos opens]

theorem scanChar_close {c : Char} (closes : isClose c = true) (depth : Nat) :
    scanChar (.outside, depth + 1) c = some (.outside, depth) := by
  have other : c ≠ '"' ∧ isOpen c = false := by
    unfold isClose at closes
    rcases of_decide_eq_true closes with rfl | rfl <;> decide
  rw [scanChar, if_neg other.1, other.2, if_neg Bool.false_ne_true, if_pos closes, if_neg (Nat.succ_ne_zero depth)]
  rfl

theorem scanChar_literal {c : Char} (literal : isLiteral c = true) (depth : Nat) :
    scanChar (.inside, depth) c = some (.inside, depth) := by
  obtain ⟨quote, escape, _⟩ := of_decide_eq_true literal
  rw [scanChar, if_neg quote, if_neg escape, if_pos literal]

/-- One state is outside of a string where the other one is in it. -/
def Opposed (first second : Mode × Nat) : Prop :=
  first.1 = .outside ∧ second.1 = .inside ∨ first.1 = .inside ∧ second.1 = .outside

theorem Opposed.symm {first second : Mode × Nat} (opposed : Opposed first second) : Opposed second first := by
  rcases opposed with ⟨outside, inside⟩ | ⟨inside, outside⟩
  · exact .inr ⟨inside, outside⟩
  · exact .inl ⟨outside, inside⟩

/-- A character that both can go on with is a quote for both, or no change for either. -/
theorem opposed_scanChar {depth level : Nat} {c : Char} {first second : Mode × Nat}
    (outside : scanChar (.outside, depth) c = some first) (inside : scanChar (.inside, level) c = some second) :
    Opposed first second := by
  rw [scanChar] at outside
  rw [scanChar] at inside
  by_cases quote : c = '"'
  · rw [if_pos quote] at outside inside
    cases outside
    cases inside
    exact .inr ⟨rfl, rfl⟩
  · rw [if_neg quote] at outside inside
    have noEscape : c ≠ '\\' := by
      rintro rfl
      have kinds : isOpen '\\' = false ∧ isClose '\\' = false ∧ isPlain '\\' = false := by decide
      rw [kinds.1, kinds.2.1, kinds.2.2] at outside
      cases outside
    rw [if_neg noEscape] at inside
    have stays : first.1 = .outside := by
      split_ifs at outside <;> cases outside <;> rfl
    split_ifs at inside
    cases inside
    exact .inl ⟨stays, rfl⟩

/-- Two scans of a text, of which one is in a string and one is not, end as they begin. -/
theorem opposed_scan {text : List Char} {first second last final : Mode × Nat} (opposed : Opposed first second)
    (scanned : scan first text = some last) (scanned' : scan second text = some final) : Opposed last final := by
  induction text generalizing first second with
  | nil =>
    cases scanned
    cases scanned'
    exact opposed
  | cons c rest ih =>
    obtain ⟨next, taken, scanned⟩ := Option.bind_eq_some_iff.1 scanned
    obtain ⟨next', taken', scanned'⟩ := Option.bind_eq_some_iff.1 scanned'
    refine ih ?_ scanned scanned'
    obtain ⟨mode, depth⟩ := first
    obtain ⟨mode', level⟩ := second
    rcases opposed with ⟨rfl, rfl⟩ | ⟨rfl, rfl⟩
    · exact opposed_scanChar taken taken'
    · exact (opposed_scanChar taken' taken).symm

theorem scan_plain {chars : List Char} (plain : ∀ c ∈ chars, isPlain c = true) (depth : Nat) :
    scan (.outside, depth) chars = some (.outside, depth) := by
  induction chars with
  | nil => rfl
  | cons c rest ih =>
    rw [scan_cons_of (scanChar_plain (plain c List.mem_cons_self) depth)]
    exact ih fun d member => plain d (List.mem_cons_of_mem _ member)

/-- The body of a string stays inside of it up to its last character. -/
theorem Body.scanned {read : List Char} (body : Body read) (depth : Nat) :
    scan (.inside, depth) read = some (.outside, depth) ∧
      ∀ front back, read = front ++ back → back ≠ [] →
        ∃ mode, scan (.inside, depth) front = some (mode, depth) ∧ mode ≠ .outside := by
  induction body with
  | close =>
    refine ⟨rfl, ?_⟩
    intro front back same behind
    rcases List.singleton_eq_append_iff.1 same with ⟨rfl, _⟩ | ⟨_, empty⟩
    · exact ⟨.inside, rfl, by decide⟩
    · exact absurd empty behind
  | literal itself later ih =>
    refine ⟨by rw [scan_cons_of (scanChar_literal itself depth)]; exact ih.1, ?_⟩
    intro front back same behind
    rcases List.cons_eq_append_iff.1 same with ⟨rfl, _⟩ | ⟨front, rfl, tail⟩
    · exact ⟨.inside, rfl, by decide⟩
    · rw [scan_cons_of (scanChar_literal itself depth)]
      exact ih.2 front back tail behind
  | @escape c rest known later ih =>
    have first : scanChar (.inside, depth) '\\' = some (.escaped, depth) := rfl
    have second : scanChar (.escaped, depth) c = some (.inside, depth) := if_pos known
    refine ⟨by rw [scan_cons_of first, scan_cons_of second]; exact ih.1, ?_⟩
    intro front back same behind
    rcases List.cons_eq_append_iff.1 same with ⟨rfl, _⟩ | ⟨front, rfl, tail⟩
    · exact ⟨.inside, rfl, by decide⟩
    · rw [scan_cons_of first]
      rcases List.cons_eq_append_iff.1 tail with ⟨rfl, _⟩ | ⟨front, rfl, last⟩
      · exact ⟨.escaped, rfl, by decide⟩
      · rw [scan_cons_of second]
        exact ih.2 front back last behind

/-- What a scan finds in a shape: a value comes back to its depth at its end, and no bracket opens there before; the
inside of brackets ends one deeper than it began. -/
def Kind.Scanned : Kind → List Char → Prop
  | .value, read => ∀ depth, scan (.outside, depth) read = some (.outside, depth) ∧
      ∀ front back, read = front ++ back → back ≠ [] →
        ∃ mode level, scan (.outside, depth) front = some (mode, level) ∧ depth ≤ level ∧
          (front ≠ [] → mode = .outside → level = depth → ∀ c ∈ back.head?, isOpen c = false)
  | .inside, read => ∀ depth, scan (.outside, depth + 1) read = some (.outside, depth) ∧
      ∀ front back, read = front ++ back → back ≠ [] →
        ∃ mode level, scan (.outside, depth + 1) front = some (mode, level) ∧ depth < level

theorem isOpen_of_isPlain {c : Char} (plain : isPlain c = true) : isOpen c = false := by
  have parts := of_decide_eq_true plain
  apply decide_eq_false
  rintro (rfl | rfl) <;> exact parts.2 (by decide)

theorem scanned_scalar {read : List Char} (plain : ∀ c ∈ read, isPlain c = true) : Kind.value.Scanned read := by
  intro depth
  refine ⟨scan_plain plain depth, ?_⟩
  intro front back same behind
  subst same
  refine ⟨.outside, depth, scan_plain (fun c member => plain c (List.mem_append_left _ member)) depth, le_rfl, ?_⟩
  intro _ _ _ c first
  exact isOpen_of_isPlain (plain c (List.mem_append_right _ (List.mem_of_mem_head? first)))

theorem scanned_string {read : List Char} (body : Body read) : Kind.value.Scanned ('"' :: read) := by
  intro depth
  have first : scanChar (.outside, depth) '"' = some (.inside, depth) := rfl
  refine ⟨by rw [scan_cons_of first]; exact (body.scanned depth).1, ?_⟩
  intro front back same behind
  rcases List.cons_eq_append_iff.1 same with ⟨rfl, _⟩ | ⟨front, rfl, tail⟩
  · exact ⟨.outside, depth, rfl, le_rfl, fun nonempty => absurd rfl nonempty⟩
  · obtain ⟨mode, reached, within⟩ := (body.scanned depth).2 front back tail behind
    refine ⟨mode, depth, ?_, le_rfl, fun _ outside => absurd outside within⟩
    rw [scan_cons_of first]
    exact reached

theorem scanned_brackets {c : Char} {read : List Char} (opens : isOpen c = true) (inside : Kind.inside.Scanned read) :
    Kind.value.Scanned (c :: read) := by
  intro depth
  refine ⟨by rw [scan_cons_of (scanChar_open opens depth)]; exact (inside depth).1, ?_⟩
  intro front back same behind
  rcases List.cons_eq_append_iff.1 same with ⟨rfl, _⟩ | ⟨front, rfl, tail⟩
  · exact ⟨.outside, depth, rfl, le_rfl, fun nonempty => absurd rfl nonempty⟩
  · obtain ⟨mode, level, reached, deeper⟩ := (inside depth).2 front back tail behind
    refine ⟨mode, level, ?_, le_of_lt deeper, ?_⟩
    · rw [scan_cons_of (scanChar_open opens depth)]
      exact reached
    · intro _ _ equal
      omega

theorem scanned_close {c : Char} (closes : isClose c = true) : Kind.inside.Scanned [c] := by
  intro depth
  refine ⟨by rw [scan_cons_of (scanChar_close closes depth)]; rfl, ?_⟩
  intro front back same behind
  rcases List.singleton_eq_append_iff.1 same with ⟨rfl, _⟩ | ⟨_, empty⟩
  · exact ⟨.outside, depth + 1, rfl, Nat.lt_succ_self depth⟩
  · exact absurd empty behind

theorem scanned_gap {c : Char} {read : List Char} (plain : isPlain c = true) (inside : Kind.inside.Scanned read) :
    Kind.inside.Scanned (c :: read) := by
  intro depth
  refine ⟨by rw [scan_cons_of (scanChar_plain plain _)]; exact (inside depth).1, ?_⟩
  intro front back same behind
  rcases List.cons_eq_append_iff.1 same with ⟨rfl, _⟩ | ⟨front, rfl, tail⟩
  · exact ⟨.outside, depth + 1, rfl, Nat.lt_succ_self depth⟩
  · rw [scan_cons_of (scanChar_plain plain _)]
    exact (inside depth).2 front back tail behind

theorem scanned_item {first read : List Char} (value : Kind.value.Scanned first) (inside : Kind.inside.Scanned read) :
    Kind.inside.Scanned (first ++ read) := by
  intro depth
  have ends := (value (depth + 1)).1
  refine ⟨by rw [scan_append, ends, Option.bind_some]; exact (inside depth).1, ?_⟩
  intro front back same behind
  rcases List.append_eq_append_iff.1 same with ⟨middle, rfl, tail⟩ | ⟨middle, rfl, _⟩
  · rw [scan_append, ends, Option.bind_some]
    exact (inside depth).2 middle back tail behind
  · cases middle with
    | nil =>
      rw [List.append_nil] at ends
      exact ⟨.outside, depth + 1, ends, Nat.lt_succ_self depth⟩
    | cons c middle =>
      obtain ⟨mode, level, reached, deeper, _⟩ :=
        (value (depth + 1)).2 front (c :: middle) rfl (List.cons_ne_nil _ _)
      exact ⟨mode, level, reached, deeper⟩

theorem Shape.scanned {kind : Kind} {read : List Char} (shape : Shape kind read) : kind.Scanned read := by
  induction shape with
  | scalar visible plain => exact scanned_scalar plain
  | string body => exact scanned_string body
  | brackets opens later ih => exact scanned_brackets opens ih
  | close closes => exact scanned_close closes
  | gap plain later ih => exact scanned_gap plain ih
  | item value later first second => exact scanned_item first second

theorem not_isBlank_of_isOpen {c : Char} (opens : isOpen c = true) : isBlank c = false := by
  unfold isOpen at opens
  rcases of_decide_eq_true opens with rfl | rfl <;> decide

/-- A text can only go on behind a newline that stands outside of strings. -/
theorem scan_newline {state last : Mode × Nat} {front rest : List Char}
    (scanned : scan state (front ++ '\n' :: rest) = some last) :
    ∃ depth, scan state front = some (.outside, depth) ∧ scan (.outside, depth) rest = some last := by
  rw [scan_append] at scanned
  obtain ⟨⟨mode, depth⟩, reached, later⟩ := Option.bind_eq_some_iff.1 scanned
  cases mode with
  | outside => exact ⟨depth, reached, later⟩
  | inside => cases later
  | escaped => cases later

/-- A wide character stands inside of a string. -/
theorem scan_wide {state last : Mode × Nat} {front rest : List Char} {c : Char} (wide : 0x80 ≤ c.toNat)
    (scanned : scan state (front ++ c :: rest) = some last) : ∃ depth, scan state front = some (.inside, depth) := by
  have other : ∀ d : Char, d.toNat < 0x80 → c ≠ d := by
    rintro d small rfl
    exact absurd small (Nat.not_lt.2 wide)
  rw [scan_append] at scanned
  obtain ⟨⟨mode, depth⟩, reached, later⟩ := Option.bind_eq_some_iff.1 scanned
  rw [scan] at later
  obtain ⟨next, taken, _⟩ := Option.bind_eq_some_iff.1 later
  cases mode with
  | inside => exact ⟨depth, reached⟩
  | outside =>
    have noOpen : isOpen c = false := decide_eq_false (by simp [other '[' (by decide), other '\x7b' (by decide)])
    have noClose : isClose c = false := decide_eq_false (by simp [other ']' (by decide), other '\x7d' (by decide)])
    have noPlain : isPlain c = false := decide_eq_false fun plain => Nat.not_lt.2 wide plain.1
    rw [scanChar, if_neg (other '"' (by decide)), noOpen, noClose, noPlain] at taken
    cases taken
  | escaped =>
    have noEscape : isEscape c = false := by
      apply decide_eq_false
      simp only [List.mem_cons, List.not_mem_nil, or_false]
      rintro (rfl | rfl | rfl | rfl | rfl | rfl | rfl | rfl | rfl) <;> exact absurd wide (by decide)
    rw [scanChar, noEscape] at taken
    cases taken

variable [NumberData]

/-- A text that `json.loads` reads ends outside of its strings, at the depth at which it begins. -/
theorem scan_of_loads {text : String} {value : Json} (parsed : Json.loads text = some value) (depth : Nat) :
    scan (.outside, depth) text.toList = some (.outside, depth) := by
  obtain ⟨before, read, after, whole, blank, shape, blank'⟩ := shape_of_loads parsed
  rw [whole, scan_append, scan_plain (fun c member => isPlain_of_isBlank (blank c member)), Option.bind_some, scan_append,
    (shape.scanned depth).1, Option.bind_some, scan_plain fun c member => isPlain_of_isBlank (blank' c member)]

/-- In front of a bracket that opens at depth zero stands nothing else. -/
theorem isBlank_of_open {text : String} {value : Json} {front back : List Char} {c : Char}
    (parsed : Json.loads text = some value) (whole : text.toList = front ++ c :: back) (opens : isOpen c = true)
    (reached : scan (.outside, 0) front = some (.outside, 0)) : ∀ d ∈ front, isBlank d = true := by
  obtain ⟨before, read, after, same, blank, shape, blank'⟩ := shape_of_loads parsed
  have notAfter : c ∉ after := by
    intro member
    have isIt := blank' c member
    rw [not_isBlank_of_isOpen opens] at isIt
    cases isIt
  rw [whole] at same
  rcases List.append_eq_append_iff.1 same with ⟨middle, rfl, _⟩ | ⟨middle, rfl, behind⟩
  · exact fun d member => blank d (List.mem_append_left _ member)
  · rw [scan_append, scan_plain (fun d member => isPlain_of_isBlank (blank d member)), Option.bind_some] at reached
    rcases List.append_eq_append_iff.1 behind with ⟨rest, rfl, later⟩ | ⟨rest, rfl, later⟩
    · exact absurd (later ▸ List.mem_append_right _ List.mem_cons_self) notAfter
    · cases rest with
      | nil =>
        have member : c ∈ [] ++ after := later ▸ List.mem_cons_self
        exact absurd member notAfter
      | cons d rest =>
        obtain ⟨rfl, _⟩ := List.cons.inj later
        cases middle with
        | nil =>
          rw [List.append_nil]
          exact blank
        | cons e middle =>
          obtain ⟨mode, level, found, _, quiet⟩ :=
            (shape.scanned 0).2 (e :: middle) (c :: rest) rfl (List.cons_ne_nil _ _)
          rw [reached, Option.some.injEq, Prod.mk.injEq] at found
          have closed := quiet (List.cons_ne_nil _ _) found.1.symm found.2.symm c rfl
          rw [opens] at closed
          cases closed

end Scans

end SoulClaw.Foundation.Loads
