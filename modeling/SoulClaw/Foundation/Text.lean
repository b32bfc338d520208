import SoulClaw.Foundation.Json
import Mathlib.Data.List.Sort

/-! Python strings: the methods that the program calls on untrusted text, `repr`, and the
output of `json.dumps`. What these need to know about characters beyond ASCII is a table,
so every statement holds for every version of the Unicode data. -/

namespace SoulClaw.Foundation

def asciiSpace (c : Char) : Bool := c = ' ' ∨ ('\t' ≤ c ∧ c ≤ '\r') ∨ ('\x1c' ≤ c ∧ c ≤ '\x1f')

class CharData where
  lower : Char → List Char
  isSpace : Char → Bool
  isPrintable : Char → Bool
  lower_ascii : ∀ c, c.toNat < 0x80 → lower c = [c.toLower]
  isSpace_ascii : ∀ c, c.toNat < 0x80 → isSpace c = asciiSpace c

/-- The ASCII part of the tables; other characters are printable and have no case. -/
@[reducible] def CharData.ascii : CharData where
  lower c := [c.toLower]
  isSpace := asciiSpace
  isPrintable _ := true
  lower_ascii _ _ := rfl
  isSpace_ascii _ _ := rfl

namespace Text

/-- What holds of all ASCII characters is checked one by one. -/
theorem forall_ascii {property : Char → Prop} (checked : ∀ code : Fin 128, property (Char.ofNat code)) (c : Char)
    (small : c.toNat < 128) : property c := by
  have known := checked ⟨c.toNat, small⟩
  rwa [Char.ofNat_toNat] at known

/-- What holds of the characters of a list is checked in the list, and not in all characters. -/
theorem forall_listed {property : Char → Prop} [DecidablePred property] {chars : List Char}
    (checked : (chars.all fun c => decide (property c)) = true) : ∀ c ∈ chars, property c :=
  fun c member => of_decide_eq_true (List.all_eq_true.1 checked c member)

section Methods
variable [CharData]

def lower (text : String) : String := String.ofList (text.toList.flatMap CharData.lower)

def strip (text : String) : String :=
  String.ofList (((text.toList.dropWhile CharData.isSpace).reverse.dropWhile
    CharData.isSpace).reverse)

def isAscii (text : String) : Bool := text.toList.all fun c => c.toNat < 0x80

omit [CharData] in
theorem lt_of_isAscii {text : String} (ascii : isAscii text = true) {c : Char}
    (member : c ∈ text.toList) : c.toNat < 0x80 := by
  simpa using List.all_eq_true.1 ascii c member

theorem lower_of_ascii {text : String} (ascii : isAscii text = true) :
    lower text = String.ofList (text.toList.map Char.toLower) := by
  have same : ∀ chars : List Char, (∀ c ∈ chars, c.toNat < 0x80) →
      chars.flatMap CharData.lower = chars.map Char.toLower := by
    intro chars small
    induction chars with
    | nil => rfl
    | cons c rest ih =>
      rw [List.flatMap_cons, CharData.lower_ascii c (small c List.mem_cons_self),
        ih fun c member => small c (List.mem_cons_of_mem _ member)]
      rfl
  rw [lower, same _ fun c member => lt_of_isAscii ascii member]

/-- A text whose first and last characters are no white space is its own `strip`. -/
theorem strip_of_edges {text : String}
    (first : ∀ c ∈ text.toList.head?, CharData.isSpace c = false)
    (last : ∀ c ∈ text.toList.getLast?, CharData.isSpace c = false) : strip text = text := by
  have drop : ∀ chars : List Char, (∀ c ∈ chars.head?, CharData.isSpace c = false) →
      chars.dropWhile CharData.isSpace = chars := by
    intro chars edge
    cases chars with
    | nil => rfl
    | cons c rest => rw [List.dropWhile_cons_of_neg (by simp [edge c rfl])]
  rw [strip, drop _ first, drop, List.reverse_reverse, String.ofList_toList]
  rw [List.head?_reverse]
  exact last

/-- `part in text`. -/
def contains (text part : String) : Bool :=
  text.toList.tails.any fun tail => part.toList.isPrefixOf tail

end Methods

def hexDigits (width value : Nat) : List Char :=
  ((List.range width).reverse).map fun place => (value / 16 ^ place % 16).digitChar

section Repr
variable [CharData]

/-- One character of `repr` of a string that is quoted with `quote`. -/
def reprChar (quote c : Char) : List Char :=
  if c = '\\' ∨ c = quote then ['\\', c]
  else if c = '\n' then ['\\', 'n']
  else if c = '\r' then ['\\', 'r']
  else if c = '\t' then ['\\', 't']
  else if c.toNat < 0x20 ∨ c.toNat = 0x7f then '\\' :: 'x' :: hexDigits 2 c.toNat
  else if c.toNat < 0x7f ∨ CharData.isPrintable c then [c]
  else if c.toNat < 0x100 then '\\' :: 'x' :: hexDigits 2 c.toNat
  else if c.toNat < 0x10000 then '\\' :: 'u' :: hexDigits 4 c.toNat
  else '\\' :: 'U' :: hexDigits 8 c.toNat

def reprStr (text : String) : String :=
  let quote := if '\'' ∈ text.toList ∧ '"' ∉ text.toList then '"' else '\''
  String.ofList (quote :: text.toList.flatMap (reprChar quote) ++ [quote])

end Repr

/-- One character of a string that `json.dumps(..., ensure_ascii=False)` writes. -/
def dumpsChar (c : Char) : List Char :=
  if c = '"' ∨ c = '\\' then ['\\', c]
  else if c = '\n' then ['\\', 'n']
  else if c = '\r' then ['\\', 'r']
  else if c = '\t' then ['\\', 't']
  else if c = '\x0c' then ['\\', 'f']
  else if c = '\x08' then ['\\', 'b']
  else if c.toNat < 0x20 then '\\' :: 'u' :: hexDigits 4 c.toNat
  else [c]

def dumpsStr (text : String) : String :=
  String.ofList ('"' :: text.toList.flatMap dumpsChar ++ ['"'])

def joinWith (separator : String) : List String → String
  | [] => ""
  | [only] => only
  | first :: rest => first ++ separator ++ joinWith separator rest

/-- Two cuts of one text at a separator are the same, or the cut of one lies in a part of the
other. -/
theorem cut_eq_cut_iff {α : Type*} {first second tail other : List α} {separator : α} :
    first ++ separator :: tail = second ++ separator :: other ↔
      first = second ∧ tail = other ∨
      (∃ middle, second = first ++ separator :: middle ∧ tail = middle ++ separator :: other) ∨
      ∃ middle, first = second ++ separator :: middle ∧ other = middle ++ separator :: tail := by
  constructor
  · intro same
    rcases List.append_eq_append_iff.1 same with ⟨middle, heads, tails⟩ | ⟨middle, heads, tails⟩
    · cases middle with
      | nil => exact .inl ⟨by simpa using heads.symm, (List.cons.inj tails).2⟩
      | cons c middle =>
        obtain ⟨rfl, rest⟩ := List.cons.inj tails
        exact .inr (.inl ⟨middle, heads, rest⟩)
    · cases middle with
      | nil => exact .inl ⟨by simpa using heads, ((List.cons.inj tails).2).symm⟩
      | cons c middle =>
        obtain ⟨rfl, rest⟩ := List.cons.inj tails
        exact .inr (.inr ⟨middle, heads, rest⟩)
  · rintro (⟨rfl, rfl⟩ | ⟨middle, rfl, rfl⟩ | ⟨middle, rfl, rfl⟩) <;> simp

/-- A separator that occurs in neither head splits a text in only one way. -/
theorem cut_inj {α : Type*} {first second tail other : List α} {separator : α} (left : separator ∉ first)
    (right : separator ∉ second) (same : first ++ separator :: tail = second ++ separator :: other) :
    first = second ∧ tail = other := by
  rcases cut_eq_cut_iff.1 same with both | ⟨middle, longer, _⟩ | ⟨middle, longer, _⟩
  · exact both
  · exact absurd (longer ▸ by simp) right
  · exact absurd (longer ▸ by simp) left

/-- Heads that hold equally many separators are cut apart in only one way. -/
theorem cut_inj_of_count {α : Type*} [DecidableEq α] {first second tail other : List α} {separator : α}
    (counts : first.count separator = second.count separator)
    (same : first ++ separator :: tail = second ++ separator :: other) : first = second ∧ tail = other := by
  rcases cut_eq_cut_iff.1 same with both | ⟨middle, longer, _⟩ | ⟨middle, longer, _⟩
  · exact both
  · rw [longer, List.count_append, List.count_cons_self] at counts
    omega
  · rw [longer, List.count_append, List.count_cons_self] at counts
    omega

/-- A separator that occurs in neither tail splits a text in only one way. -/
theorem append_separator_inj {first second tail other : String} {separator : Char}
    (left : separator ∉ tail.toList) (right : separator ∉ other.toList)
    (same : first ++ (String.singleton separator ++ tail) =
      second ++ (String.singleton separator ++ other)) : first = second ∧ tail = other := by
  have chars := congrArg String.toList same
  simp only [String.toList_append, String.toList_singleton, List.singleton_append] at chars
  rcases cut_eq_cut_iff.1 chars with ⟨heads, tails⟩ | ⟨middle, _, tails⟩ | ⟨middle, _, tails⟩
  · exact ⟨String.toList_injective heads, String.toList_injective tails⟩
  · exact absurd (tails ▸ by simp) left
  · exact absurd (tails ▸ by simp) right

theorem colon_notMem_toString (n : Nat) : ':' ∉ (toString n).toList := by
  intro member
  rw [Nat.toString_eq_repr, Nat.toList_repr] at member
  have digit := Nat.isDigit_of_mem_toDigits (by decide) (by decide) member
  exact absurd digit (by decide)

theorem toString_nat_injective : Function.Injective (toString : Nat → String) := by
  intro m n same
  rw [Nat.toString_eq_repr, Nat.toString_eq_repr] at same
  have digits : Nat.toDigits 10 m = Nat.toDigits 10 n := by
    rw [← Nat.toList_repr, ← Nat.toList_repr, same]
  have values := congrArg (fun chars => Nat.ofDigitChars 10 chars 0) digits
  simpa [Nat.ofDigitChars_ten_toDigits] using values

end Text

namespace Json
variable [CharData]

mutual

/-- `repr(value)`. -/
def repr : Json → String
  | .null => "None"
  | .bool true => "True"
  | .bool false => "False"
  | .int value => toString value
  | .float text => text
  | .str value => Text.reprStr value
  | .arr items => "[" ++ Text.joinWith ", " (reprItems items) ++ "]"
  | .obj fields => "\x7b" ++ Text.joinWith ", " (reprFields fields) ++ "\x7d"

def reprItems : List Json → List String
  | [] => []
  | item :: rest => repr item :: reprItems rest

def reprFields : List (String × Json) → List String
  | [] => []
  | (key, value) :: rest => (Text.reprStr key ++ ": " ++ repr value) :: reprFields rest

end

/-- `str(value)`. -/
def toStr : Json → String
  | .str value => value
  | other => repr other

end Json

namespace Json

/-- A float as `json.dumps` writes it. -/
def dumpsFloat : String → String
  | "nan" => "NaN"
  | "inf" => "Infinity"
  | "-inf" => "-Infinity"
  | repr => repr

mutual

/-- `json.dumps(value, ensure_ascii=False)`. -/
def dumps : Json → String
  | .null => "null"
  | .bool true => "true"
  | .bool false => "false"
  | .int value => toString value
  | .float text => dumpsFloat text
  | .str value => Text.dumpsStr value
  | .arr items => "[" ++ Text.joinWith ", " (dumpsItems items) ++ "]"
  | .obj fields => "\x7b" ++ Text.joinWith ", " (dumpsFields fields) ++ "\x7d"

def dumpsItems : List Json → List String
  | [] => []
  | item :: rest => dumps item :: dumpsItems rest

def dumpsFields : List (String × Json) → List String
  | [] => []
  | (key, value) :: rest => (Text.dumpsStr key ++ ": " ++ dumps value) :: dumpsFields rest

end

mutual

/-- The value that `json.dumps(..., sort_keys=True)` writes in the order of its fields. -/
def sortKeys : Json → Json
  | .arr items => .arr (sortKeysItems items)
  | .obj fields => .obj ((sortKeysFields fields).insertionSort fun a b => a.1 ≤ b.1)
  | other => other

def sortKeysItems : List Json → List Json
  | [] => []
  | item :: rest => sortKeys item :: sortKeysItems rest

def sortKeysFields : List (String × Json) → List (String × Json)
  | [] => []
  | (key, value) :: rest => (key, sortKeys value) :: sortKeysFields rest

end

end Json

inductive ExceptionKind where
  | keyError
  | valueError
  | runtimeError
  | permissionError
  | indexError
  | typeError
  | attributeError
  | overflowError
  | zeroDivisionError
  | osError
  | yamlError
  | integrityError
  deriving DecidableEq, Repr

/-- An exception that the program raises, with the message it is raised with. -/
structure PyException where
  kind : ExceptionKind
  message : String
  deriving DecidableEq, Repr

/-- The error that an endpoint answers with. -/
structure HttpError where
  status : Nat
  detail : String
  deriving DecidableEq, Repr

/-- `str(exc)`, which quotes the message of a `KeyError`. -/
def PyException.str [CharData] (error : PyException) : String :=
  if error.kind = .keyError then Text.reprStr error.message else error.message

end SoulClaw.Foundation
