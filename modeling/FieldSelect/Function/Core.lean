import FieldSelect.Decimal.Binary
import FieldSelect.Function.Registry
import FieldSelect.Text.Case

/-! The functions that every filter can call unless they are left out. -/
namespace FieldSelect
namespace Core

def string (value : Value) : Except FunctionError String :=
  match value with
  | .string chars => .ok chars
  | other => .error (.mismatch "string" other)

def array (value : Value) : Except FunctionError (List Value) :=
  match value with
  | .array items => .ok items
  | other => .error (.mismatch "array" other)

def integer (value : Value) : Except FunctionError Int64 :=
  match value with
  | .integer n => .ok n
  | other => .error (.mismatch "integer" other)

def argument (arguments : List Value) (index : Nat) : Except FunctionError Value :=
  match arguments[index]? with
  | some value => .ok value
  | none => .error (.missingArgument index)

/-- The parts of an object; a record is one with its declared names. -/
def entries (value : Value) : Except FunctionError (Entries Value) :=
  match value with
  | .object entries => .ok entries
  | .record _ fields => .ok fields
  | other => .error (.mismatch "object" other)

/-! ### Strings -/

def reverseString : Body := fun input _ => do
  return .string (String.ofList (← string input).toList.reverse)

def upper : Body := fun input _ => return .string (upperText (← string input))

def lower : Body := fun input _ => return .string (lowerText (← string input))

def trim : Body := fun input _ => return .string (trimText (← string input))

/-- Without a separator between them, the characters are the pieces. -/
def splitString (separator text : String) : List String :=
  if separator.isEmpty then text.toList.map fun c => String.ofList [c] else splitText separator text

def split : Body := fun input arguments => do
  let text ← string input
  let separator ← string (← argument arguments 0)
  return .array ((splitString separator text).map .string)

/-- Bounds before the start and behind the end of a text are moved to its start and its end. -/
def clampIndex (n : Int64) (length : Nat) : Nat := min n.toInt.toNat length

/-- The characters from one bound up to another one, none when they are out of order. -/
def slice (text : List Char) (low high : Nat) : List Char := (text.take high).drop low

def substring : Body := fun input arguments => do
  let text := (← string input).toList
  let low := clampIndex (← integer (← argument arguments 0)) text.length
  let high ←
    match arguments[1]? with
    | some bound => pure (clampIndex (← integer bound) text.length)
    | none => pure text.length
  return .string (String.ofList (slice text low high))

def replace : Body := fun input arguments => do
  let text ← string input
  let target ← string (← argument arguments 0)
  let replacement ← string (← argument arguments 1)
  if target.isEmpty then throw .emptyPattern
  return .string (replaceText target replacement text)

/-- The pattern may match anywhere. -/
def matchesPattern : Body := fun input arguments => do
  let text ← string input
  let pattern ← string (← argument arguments 0)
  match Regex.read pattern with
  | .ok regex => return .boolean (regex.isMatch text)
  | .error fault => throw (.invalidRegex fault)

def prepend : Body := fun input arguments => do
  return .string ((← string (← argument arguments 0)) ++ input.plainText)

def append : Body := fun input arguments => do
  return .string (input.plainText ++ (← string (← argument arguments 0)))

/-! ### Sizes -/

def length : Body := fun input _ =>
  let count (n : Nat) : Except FunctionError Value := .ok (.integer (Int64.ofNat n))
  match input with
  | .string chars => count chars.length
  | .array items => count items.length
  | .object entries => count entries.length
  | .record _ fields => count fields.length
  | other => .error (.mismatch "string, array or object" other)

/-! ### Arrays -/

def reverseArray : Body := fun input _ => return .array (← array input).reverse

def first : Body := fun input _ => return (← array input).head?.getD .null

def last : Body := fun input _ => return (← array input).getLast?.getD .null

def compareFloats (a b : Float) : Ordering :=
  if a < b then .lt else if b < a then .gt else .eq

def compareBooleans : Bool → Bool → Ordering
  | false, true => .lt
  | true, false => .gt
  | _, _ => .eq

/-- Numbers are compared by value, integers as the nearest floats where one side is a float; what
cannot be compared is equal. -/
def compareValues : Value → Value → Ordering
  | .integer a, .integer b => compare a b
  | .float a, .float b => compareFloats a b
  | .integer a, .float b => compareFloats (integerFloat a) b
  | .float a, .integer b => compareFloats a (integerFloat b)
  | .string a, .string b => compare a b
  | .boolean a, .boolean b => compareBooleans a b
  | _, _ => .eq

/-- A value is placed before the values at the end that it is less than. The last placed stands first. -/
def place (placed : List Value) (value : Value) : List Value :=
  match placed with
  | [] => [value]
  | last :: others => if compareValues value last = .lt then last :: place others value else value :: placed

/-- Values are placed one after the other, so equal ones stay in their order. -/
def sortValues (values : List Value) : List Value := (values.foldl place []).reverse

def sort : Body := fun input _ => return .array (sortValues (← array input))

/-- The first of equal values stays. -/
def unique : Body := fun input _ => do
  return .array ((← array input).foldl (fun kept item => if kept.contains item then kept else kept ++ [item]) [])

/-- The items of inner arrays take the place of the arrays. -/
def flatten : Body := fun input _ => do
  return .array ((← array input).flatMap fun
    | .array items => items
    | other => [other])

def join : Body := fun input arguments => do
  let separator ← string (← argument arguments 0)
  return .string (separator.intercalate ((← array input).map Value.plainText))

/-! ### Objects -/

def keys : Body := fun input _ => return .array ((Entries.keys (← entries input)).map .string)

def values : Body := fun input _ => return .array (Entries.values (← entries input))

/-! ### Nulls -/

def defaultForNull : Body := fun _ arguments => argument arguments 0

def defaultForOthers : Body := fun input _ => .ok input

def offer (name : String) (input : ParamKind) (arguments : List ParamKind) (body : Body)
    (aliases : List String) : Candidate :=
  ⟨⟨name, ⟨input, arguments⟩, body⟩, aliases, true, false⟩

/-- All of them are exported, and the length of a value is also called its size. -/
def candidates : List Candidate :=
  [ offer "reverse" .string [] reverseString [],
    offer "upper" .string [] upper [],
    offer "lower" .string [] lower [],
    offer "trim" .string [] trim [],
    offer "split" .string [.string] split [],
    offer "substring" .string [.integer] substring [],
    offer "substring" .string [.integer, .integer] substring [],
    offer "replace" .string [.string, .string] replace [],
    offer "matches" .string [.string] matchesPattern [],
    offer "prefix" .any [.string] prepend [],
    offer "suffix" .any [.string] append [],
    offer "length" .string [] length ["size"],
    offer "length" .array [] length ["size"],
    offer "length" .object [] length ["size"],
    offer "reverse" .array [] reverseArray [],
    offer "first" .array [] first [],
    offer "last" .array [] last [],
    offer "sort" .array [] sort [],
    offer "unique" .array [] unique [],
    offer "flatten" .array [] flatten [],
    offer "join" .array [.string] join [],
    offer "keys" .object [] keys [],
    offer "values" .object [] values [],
    offer "default" .null [.any] defaultForNull [],
    offer "default" .any [.any] defaultForOthers [] ]

end Core

/-- A registry of the core functions only. -/
def Registry.core : Registry := (Registry.empty.registerModule Core.candidates .auto).1

end FieldSelect
