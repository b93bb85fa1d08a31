import FieldSelect.Value
import FieldSelect.Json.Writer
import FieldSelect.Decimal.Reading

/-! Values as documents and back, and the text of a value. -/
namespace FieldSelect
namespace Value

mutual

/-- Integers beyond 64 bits with a sign become floats. -/
def ofJson : Json → Value
  | .null => .null
  | .boolean truth => .boolean truth
  | .integer n =>
    match narrow? n with
    | some n => .integer n
    | none => .float (UInt64.ofNat n.toNat).toFloat
  | .float x => .float x
  | .string chars => .string chars
  | .array items => .array (ofJsonItems items)
  | .object entries => .object (ofJsonEntries entries)

def ofJsonItems : List Json → List Value
  | [] => []
  | item :: rest => ofJson item :: ofJsonItems rest

def ofJsonEntries : List (String × Json) → List (String × Value)
  | [] => []
  | (key, item) :: rest => (key, ofJson item) :: ofJsonEntries rest

end

mutual

/-- A record is written as the object of its declared fields, and a float that is not finite as null. -/
def toJson : Value → Json
  | .null => .null
  | .boolean truth => .boolean truth
  | .integer n => .integer n.toInt
  | .float x => if x.isFinite then .float x else .null
  | .string chars => .string chars
  | .array items => .array (toJsonItems items)
  | .object entries => .object (toJsonEntries entries)
  | .record _ fields => .object (toJsonEntries fields)

def toJsonItems : List Value → List Json
  | [] => []
  | item :: rest => item.toJson :: toJsonItems rest

def toJsonEntries : List (String × Value) → List (String × Json)
  | [] => []
  | (key, value) :: rest => (key, value.toJson) :: toJsonEntries rest

end

def compact (value : Value) : String := value.toJson.compact

def pretty (value : Value) : String := value.toJson.pretty

/-- A scalar stands for its own text and anything else for its document. -/
def plainText : Value → String
  | .string chars => chars
  | .float x => floatText x
  | .integer n => toString n.toInt
  | .boolean truth => if truth then "true" else "false"
  | .null => "null"
  | other => other.compact

end Value
end FieldSelect
