import SoulClaw.Foundation.Text

/-! Python's conversions between JSON values: `json.loads`, `list`, `int`, `dict`, and the
list operations that take a negative index. How a float literal is rounded, and what
`int` makes of a text, is a table. -/

namespace SoulClaw.Foundation

class NumberData where
  /-- `repr(float(literal))`. -/
  floatRepr : String → String
  intOfFloat : String → Option Int
  intOfText : String → Option Int

/-- Decimal integers, and floats that are written as their `repr`. -/
@[reducible] def NumberData.decimal : NumberData where
  floatRepr literal := literal
  intOfFloat _ := none
  intOfText text := text.toInt?

namespace Json

def typeName : Json → String
  | .null => "NoneType"
  | .bool _ => "bool"
  | .int _ => "int"
  | .float _ => "float"
  | .str _ => "str"
  | .arr _ => "list"
  | .obj _ => "dict"

/-- `list(value)`. -/
def toList : Json → Except PyException (List Json)
  | .arr items => .ok items
  | .str value => .ok (value.toList.map fun c => .str (String.singleton c))
  | .obj fields => .ok (fields.map fun field => .str field.1)
  | other => .error ⟨.typeError, "'" ++ other.typeName ++ "' object is not iterable"⟩

/-- `int(value)`. -/
def toInt [NumberData] : Json → Except PyException Int
  | .int value => .ok value
  | .bool value => .ok (if value then 1 else 0)
  | .float repr =>
      match NumberData.intOfFloat repr with
      | some value => .ok value
      | none => .error ⟨.valueError, "cannot convert float to integer"⟩
  | .str value =>
      match NumberData.intOfText value with
      | some value => .ok value
      | none => .error ⟨.valueError, "invalid literal for int() with base 10"⟩
  | other => .error ⟨.typeError, "int() argument must not be '" ++ other.typeName ++ "'"⟩

/-- The receiver of a `.get`, which has to be a dictionary. -/
def receiver : Json → Except PyException Dict
  | .obj fields => .ok fields
  | other => .error ⟨.attributeError, "'" ++ other.typeName ++ "' object has no attribute 'get'"⟩

/-- The key and the value of an item that `dict(items)` accepts. -/
def pair? : Json → Option (String × Json)
  | .arr [.str key, value] => some (key, value)
  | .str text =>
      match text.toList with
      | [key, value] => some (String.singleton key, .str (String.singleton value))
      | _ => none
  | _ => none

/-- `dict(value)`, as far as its keys are strings. -/
def toDict? : Json → Option Dict
  | .obj fields => some fields
  | .arr items => (items.mapM pair?).map fun pairs =>
      pairs.foldl (fun dict field => Dict.set dict field.1 field.2) []
  | _ => none

end Json

/-! `items[start:]` and `items[index] = value`. -/

def position (length : Nat) (index : Int) : Int := if index < 0 then length + index else index

def sliceFrom {α : Type*} (items : List α) (start : Int) : List α :=
  items.drop (position items.length start).toNat

def setItem {α : Type*} (items : List α) (index : Int) (value : α) : Except PyException (List α) :=
  let place := position items.length index
  if 0 ≤ place ∧ place < items.length then .ok (items.set place.toNat value)
  else .error ⟨.indexError, "list assignment index out of range"⟩

theorem sliceFrom_natCast {α : Type*} (items : List α) (start : Nat) :
    sliceFrom items start = items.drop start := by
  rw [sliceFrom, position, if_neg (by omega), Int.toNat_natCast]

theorem setItem_natCast {α : Type*} {items : List α} {index : Nat} (value : α)
    (bound : index < items.length) : setItem items index value = .ok (items.set index value) := by
  have place : position items.length (index : Int) = index := by
    rw [position, if_neg (by omega)]
  simp only [setItem, place]
  rw [if_pos ⟨by omega, by omega⟩, Int.toNat_natCast]

/-! `json.loads`. A parser takes the characters that are left and returns those behind what
it has read. -/

namespace Loads

abbrev Parser (α : Type) := List Char → Option (α × List Char)

def isBlank (c : Char) : Bool := c = ' ' ∨ c = '\t' ∨ c = '\n' ∨ c = '\r'

def skipBlank (text : List Char) : List Char := text.dropWhile isBlank

/-- The rest of the text behind a literal word. -/
def word (literal : String) (text : List Char) : Option (List Char) :=
  if literal.toList.isPrefixOf text then some (text.drop literal.toList.length) else none

def hexValue (c : Char) : Option Nat :=
  if '0' ≤ c ∧ c ≤ '9' then some (c.toNat - '0'.toNat)
  else if 'a' ≤ c ∧ c ≤ 'f' then some (c.toNat - 'a'.toNat + 10)
  else if 'A' ≤ c ∧ c ≤ 'F' then some (c.toNat - 'A'.toNat + 10)
  else none

def hex4 : Parser Nat
  | a :: b :: c :: d :: rest => do
      let a ← hexValue a
      let b ← hexValue b
      let c ← hexValue c
      let d ← hexValue d
      return (((a * 16 + b) * 16 + c) * 16 + d, rest)
  | _ => none

/-- The character of a `\u` escape, with the second half of a surrogate pair; half a pair is
no character. -/
def unicodeEscape : Parser Char := fun text => do
  let (unit, rest) ← hex4 text
  if 0xd800 ≤ unit ∧ unit ≤ 0xdbff then
    match rest with
    | '\\' :: 'u' :: tail =>
        let (second, rest) ← hex4 tail
        if 0xdc00 ≤ second ∧ second ≤ 0xdfff then
          return (Char.ofNat (0x10000 + (unit - 0xd800) * 0x400 + (second - 0xdc00)), rest)
        else none
    | _ => none
  else if 0xdc00 ≤ unit ∧ unit ≤ 0xdfff then none
  else return (Char.ofNat unit, rest)

def simpleEscape : Char → Option Char
  | '"' => some '"'
  | '\\' => some '\\'
  | '/' => some '/'
  | 'b' => some '\x08'
  | 'f' => some '\x0c'
  | 'n' => some '\n'
  | 'r' => some '\r'
  | 't' => some '\t'
  | _ => none

/-- The rest of a string behind its opening quote. -/
def stringBody : Nat → Parser (List Char)
  | 0, _ => none
  | _ + 1, [] => none
  | _ + 1, '"' :: rest => some ([], rest)
  | fuel + 1, '\\' :: 'u' :: rest => do
      let (c, rest) ← unicodeEscape rest
      let (tail, rest) ← stringBody fuel rest
      return (c :: tail, rest)
  | fuel + 1, '\\' :: c :: rest => do
      let c ← simpleEscape c
      let (tail, rest) ← stringBody fuel rest
      return (c :: tail, rest)
  | fuel + 1, c :: rest => do
      if c.toNat < 0x20 then none
      let (tail, rest) ← stringBody fuel rest
      return (c :: tail, rest)

def digits (text : List Char) : List Char × List Char := text.span Char.isDigit

/-- The fraction or the exponent of a number, where one stands. -/
def fraction : List Char → List Char × List Char
  | '.' :: rest =>
      match digits rest with
      | ([], _) => ([], '.' :: rest)
      | (places, tail) => ('.' :: places, tail)
  | text => ([], text)

def exponent (text : List Char) : List Char × List Char :=
  match text with
  | mark :: rest =>
      if mark = 'e' ∨ mark = 'E' then
        let (sign, tail) := match rest with
          | '+' :: tail => (['+'], tail)
          | '-' :: tail => (['-'], tail)
          | tail => ([], tail)
        match digits tail with
        | ([], _) => ([], text)
        | (places, tail) => (mark :: sign ++ places, tail)
      else ([], text)
  | [] => ([], [])

def natural : Parser (List Char)
  | '0' :: rest => some (['0'], rest)
  | text =>
      match digits text with
      | ([], _) => none
      | read => some read

def number [NumberData] (text : List Char) : Option (Json × List Char) := do
  let (sign, rest) := match text with
    | '-' :: rest => (['-'], rest)
    | rest => ([], rest)
  let (whole, rest) ← natural rest
  let (places, rest) := fraction rest
  let (power, rest) := exponent rest
  if places = [] ∧ power = [] then
    let value : Int := Nat.ofDigitChars 10 whole 0
    return (.int (if sign = [] then value else -value), rest)
  else return (.float (NumberData.floatRepr (String.ofList (sign ++ whole ++ places ++ power))), rest)

def constants : List (String × Json) :=
  [("null", .null), ("true", .bool true), ("false", .bool false), ("NaN", .float "nan"),
    ("Infinity", .float "inf"), ("-Infinity", .float "-inf")]

def scalar [NumberData] (text : List Char) : Option (Json × List Char) :=
  match constants.findSome? fun (literal, value) => (word literal text).map fun rest => (value, rest) with
  | some read => some read
  | none => number text

mutual

def value [NumberData] : Nat → Parser Json
  | 0, _ => none
  | _ + 1, '"' :: rest => do
      let (chars, rest) ← stringBody (rest.length + 1) rest
      return (.str (String.ofList chars), rest)
  | fuel + 1, '[' :: rest =>
      match skipBlank rest with
      | ']' :: rest => some (.arr [], rest)
      | rest => do
          let (items, rest) ← elements fuel rest
          return (.arr items, rest)
  | fuel + 1, '\x7b' :: rest =>
      match skipBlank rest with
      | '\x7d' :: rest => some (.obj [], rest)
      | rest => do
          let (fields, rest) ← members fuel [] rest
          return (.obj fields, rest)
  | _ + 1, text => scalar text

/-- The elements of a list up to its closing bracket. -/
def elements [NumberData] : Nat → Parser (List Json)
  | 0, _ => none
  | fuel + 1, text => do
      let (item, rest) ← value fuel (skipBlank text)
      match skipBlank rest with
      | ']' :: rest => return ([item], rest)
      | ',' :: rest =>
          let (items, rest) ← elements fuel rest
          return (item :: items, rest)
      | _ => none

/-- The members of a dictionary up to its closing brace; a repeated key keeps its place. -/
def members [NumberData] : Nat → Dict → Parser Dict
  | 0, _, _ => none
  | fuel + 1, known, text => do
      match skipBlank text with
      | '"' :: rest =>
          let (key, rest) ← stringBody (rest.length + 1) rest
          match skipBlank rest with
          | ':' :: rest =>
              let (item, rest) ← value fuel (skipBlank rest)
              let known := known.set (String.ofList key) item
              match skipBlank rest with
              | '\x7d' :: rest => return (known, rest)
              | ',' :: rest => members fuel known rest
              | _ => none
          | _ => none
      | _ => none

end

end Loads

/-- `json.loads(text)`, which raises a `ValueError` where this is `none`. -/
def Json.loads [NumberData] (text : String) : Option Json := do
  let (read, rest) ← Loads.value (2 * text.length + 1) (Loads.skipBlank text.toList)
  match Loads.skipBlank rest with
  | [] => return read
  | _ :: _ => none

example : @Json.loads NumberData.decimal "[1, \"a\"]" = some (.arr [.int 1, .str "a"]) := by
  decide +kernel

end SoulClaw.Foundation
