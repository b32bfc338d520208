import SoulClaw.Foundation.Text
import Mathlib.Data.Rat.Defs
import Mathlib.Algebra.Order.Ring.Rat
import Mathlib.Data.Rat.Floor

/-! The values that `yaml.safe_load` makes of a document, with the dictionary access, the truth
value, `str` and `float` that Python gives them. A float literal is kept as its `repr`; what a
literal stands for, and how floats and dates are written, is a table. -/

namespace SoulClaw.Foundation

theorem map_eq_ok {Error First Second : Type*} {change : First → Second} {result : Except Error First}
    {value : Second} : result.map change = .ok value ↔ ∃ first, result = .ok first ∧ change first = value := by
  cases result with
  | error raised => simp [Except.map]
  | ok first => simp [Except.map]

theorem bind_eq_ok {Error First Second : Type} {result : Except Error First} {rest : First → Except Error Second}
    {value : Second} : (result >>= rest) = .ok value ↔ ∃ first, result = .ok first ∧ rest first = .ok value := by
  cases result with
  | error raised => simp [bind, Except.bind]
  | ok first => simp [bind, Except.bind]

theorem toOption_eq_some {Error Result : Type*} {outcome : Except Error Result} {result : Result} :
    outcome.toOption = some result ↔ outcome = .ok result := by
  cases outcome with
  | error raised => simp [Except.toOption]
  | ok first => simp [Except.toOption]

/-- What an evaluation shows of a result, the result has. -/
theorem exists_ok {Error Result : Type*} {outcome : Except Error Result} {test : Result → Prop}
    [DecidablePred test] (holds : outcome.toOption.any (fun result => test result) = true) :
    ∃ result, outcome = .ok result ∧ test result := by
  cases outcome with
  | error raised => cases holds
  | ok result => exact ⟨result, rfl, of_decide_eq_true holds⟩

inductive PyFloat where
  | finite (value : Rat)
  | infinite (negative : Bool)
  | nan
  deriving DecidableEq

namespace PyFloat

/-- `first < second`, which is false when one of them is `nan`. -/
def lt : (first second : PyFloat) → Bool
  | .nan, _ | _, .nan => false
  | .infinite left, .infinite right => left && !right
  | .infinite left, .finite _ => left
  | .finite _, .infinite right => !right
  | .finite left, .finite right => left < right

/-- `min(first, second)`: the second only when it is smaller. -/
def min (first second : PyFloat) : PyFloat := if lt second first then second else first

/-- `max(first, second)`: the second only when it is larger. -/
def max (first second : PyFloat) : PyFloat := if lt first second then second else first

end PyFloat

/-- Microseconds on the clock of a time zone, whose offset is unknown for a naive time. -/
structure DateTime where
  ticks : Int
  offset : Option Int
  deriving DecidableEq, Repr

namespace DateTime

/-- `value if value.tzinfo else value.replace(tzinfo=UTC)`. -/
def orUtc (time : DateTime) : DateTime := { time with offset := some (time.offset.getD 0) }

/-- The same moment on the clock of UTC, on which two aware times compare. -/
def instant (time : DateTime) : Int := time.ticks - time.offset.getD 0

end DateTime

class FloatData where
  /-- `float(text)`, where it does not raise. -/
  parse : String → Option PyFloat
  /-- `float(value)`, where it does not overflow. -/
  ofInt : Int → Option PyFloat
  repr : PyFloat → String
  /-- `f"{value:.2f}"`. -/
  fixed2 : PyFloat → String

/-- A float that is a number of hundredths. -/
def hundredths : PyFloat → String
  | .finite value =>
      let count := (value * 100).floor.toNat
      toString (count / 100) ++ "." ++ toString (count / 10 % 10) ++ toString (count % 10)
  | .infinite _ => "inf"
  | .nan => "nan"

/-- Decimal literals without a sign, and floats that are written with two digits. -/
@[reducible] def FloatData.decimal : FloatData where
  parse text :=
    match text.toList.splitOn '.' with
    | [whole, part] =>
        if whole ≠ [] ∧ part ≠ [] ∧ (whole ++ part).all Char.isDigit then
          some (.finite (Nat.ofDigitChars 10 (whole ++ part) 0 / 10 ^ part.length))
        else none
    | _ => none
  ofInt value := some (.finite value)
  repr := hundredths
  fixed2 := hundredths

class DateData where
  /-- `datetime.fromisoformat(text)`, where it does not raise. -/
  fromisoformat : String → Option DateTime
  isoformat : DateTime → String
  str : DateTime → String
  repr : DateTime → String

/-- A table for documents without dates. -/
@[reducible] def DateData.undated : DateData where
  fromisoformat _ := none
  isoformat _ := ""
  str _ := ""
  repr _ := ""

inductive Yaml where
  | null
  | bool (value : Bool)
  | int (value : Int)
  | float (repr : String)
  | str (value : String)
  | date (year month day : Nat)
  | datetime (value : DateTime)
  | seq (items : List Yaml)
  | map (fields : List (Yaml × Yaml))
  deriving Inhabited

/-- A dictionary, in the order of the document. -/
abbrev Mapping := List (Yaml × Yaml)

namespace Mapping

def lookup : Mapping → String → Option Yaml
  | [], _ => none
  | (.str known, value) :: rest, key => if known = key then some value else lookup rest key
  | _ :: rest, key => lookup rest key

/-- `d.get(key)`. -/
def get (fields : Mapping) (key : String) : Yaml := (lookup fields key).getD .null

end Mapping

namespace Yaml

/-- `bool(value)`. -/
def truthy : Yaml → Bool
  | null => false
  | bool value => value
  | int value => value ≠ 0
  | float repr => repr ≠ "0.0" ∧ repr ≠ "-0.0"
  | str value => value ≠ ""
  | date .. | datetime _ => true
  | seq items => !items.isEmpty
  | map fields => !fields.isEmpty

/-- `value or fallback`. -/
def or (value fallback : Yaml) : Yaml := if value.truthy then value else fallback

/-- `text` with zeros in front. -/
def padded (width value : Nat) : String :=
  String.ofList (List.replicate (width - (toString value).length) '0') ++ toString value

section Texts
variable [CharData] [DateData]

mutual

/-- `repr(value)`. -/
def repr : Yaml → String
  | .null => "None"
  | .bool true => "True"
  | .bool false => "False"
  | .int value => toString value
  | .float text => text
  | .str value => Text.reprStr value
  | .date year month day =>
      "datetime.date(" ++ Text.joinWith ", " [toString year, toString month, toString day] ++ ")"
  | .datetime value => DateData.repr value
  | .seq items => "[" ++ Text.joinWith ", " (reprItems items) ++ "]"
  | .map fields => "\x7b" ++ Text.joinWith ", " (reprFields fields) ++ "\x7d"

def reprItems : List Yaml → List String
  | [] => []
  | item :: rest => repr item :: reprItems rest

def reprFields : List (Yaml × Yaml) → List String
  | [] => []
  | (key, value) :: rest => (repr key ++ ": " ++ repr value) :: reprFields rest

end

/-- `str(value)`. -/
def toStr : Yaml → String
  | .str value => value
  | .date year month day => Text.joinWith "-" [padded 4 year, padded 2 month, padded 2 day]
  | .datetime value => DateData.str value
  | other => repr other

end Texts

def typeName : Yaml → String
  | .null => "NoneType"
  | .bool _ => "bool"
  | .int _ => "int"
  | .float _ => "float"
  | .str _ => "str"
  | .date .. => "datetime.date"
  | .datetime _ => "datetime.datetime"
  | .seq _ => "list"
  | .map _ => "dict"

/-- `float(value)`. -/
def toFloat [FloatData] : Yaml → Except PyException PyFloat
  | .bool value => .ok (.finite (if value then 1 else 0))
  | .int value =>
      match FloatData.ofInt value with
      | some value => .ok value
      | none => .error ⟨.overflowError, "int too large to convert to float"⟩
  | .float text | .str text =>
      match FloatData.parse text with
      | some value => .ok value
      | none => .error ⟨.valueError, "could not convert string to float: " ++ text⟩
  | other =>
      .error ⟨.typeError,
        "float() argument must be a string or a real number, not '" ++ other.typeName ++ "'"⟩

/-- `[item for item in value if isinstance(item, dict)]` of a list, and nothing of other values. -/
def mappings : Yaml → List Mapping
  | .seq items => items.filterMap fun item => match item with
      | .map fields => some fields
      | _ => none
  | _ => []

/-- The keys that `json.dumps` writes as text. -/
def jsonableKey : Yaml → Bool
  | .null | .bool _ | .int _ | .float _ | .str _ => true
  | .date .. | .datetime _ | .seq _ | .map _ => false

mutual

/-- The values that `json.dumps` accepts. -/
def jsonable : Yaml → Bool
  | .date .. | .datetime _ => false
  | .seq items => jsonableItems items
  | .map fields => jsonableFields fields
  | .null | .bool _ | .int _ | .float _ | .str _ => true

def jsonableItems : List Yaml → Bool
  | [] => true
  | item :: rest => jsonable item && jsonableItems rest

def jsonableFields : List (Yaml × Yaml) → Bool
  | [] => true
  | (key, value) :: rest => jsonableKey key && jsonable value && jsonableFields rest

end

end Yaml

end SoulClaw.Foundation
