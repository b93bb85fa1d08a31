import FieldSelect.Entries
import FieldSelect.Decimal.Notation

/-! The values that a filter projects: documents with integers apart from floats, and typed records. -/
namespace FieldSelect

/-- Objects and records keep their entries in the order of the keys; a record's keys are declared names. -/
inductive Value where
  | null
  | boolean (truth : Bool)
  | integer (n : Int64)
  | float (x : Float)
  | string (chars : String)
  | array (items : List Value)
  | object (entries : List (String × Value))
  | record (typeName : String) (fields : List (String × Value))
  deriving Inhabited

/-- The bindings of `@name` references. -/
abbrev Bindings := Entries Value

namespace Value

/-- What a value is, without its contents. -/
inductive Kind where
  | null
  | boolean
  | integer
  | float
  | string
  | array
  | object
  | record
  deriving DecidableEq

def kind : Value → Kind
  | .null => .null
  | .boolean _ => .boolean
  | .integer _ => .integer
  | .float _ => .float
  | .string _ => .string
  | .array _ => .array
  | .object _ => .object
  | .record _ _ => .record

def Kind.name : Kind → String
  | .null => "null"
  | .boolean => "boolean"
  | .integer => "integer"
  | .float => "float"
  | .string => "string"
  | .array => "array"
  | .object => "object"
  | .record => "record"

mutual

/-- Values of different kinds differ, and floats compare by value: zero equals its negative, and no
number equals itself when it is not one. -/
def same : Value → Value → Bool
  | .null, .null => true
  | .boolean a, .boolean b => a == b
  | .integer a, .integer b => a == b
  | .float a, .float b => a == b
  | .string a, .string b => a == b
  | .array a, .array b => sameItems a b
  | .object a, .object b => sameEntries a b
  | .record s a, .record t b => s == t && sameEntries a b
  | _, _ => false

def sameItems : List Value → List Value → Bool
  | [], [] => true
  | a :: as, b :: bs => same a b && sameItems as bs
  | _, _ => false

def sameEntries : List (String × Value) → List (String × Value) → Bool
  | [], [] => true
  | (j, a) :: as, (k, b) :: bs => j == k && same a b && sameEntries as bs
  | _, _ => false

end

instance : BEq Value := ⟨same⟩

mutual

/-- How many arrays, objects and records stand inside one another. -/
def height : Value → Nat
  | .array items => heightItems items + 1
  | .object entries => heightEntries entries + 1
  | .record _ fields => heightEntries fields + 1
  | _ => 0

def heightItems : List Value → Nat
  | [] => 0
  | item :: rest => max item.height (heightItems rest)

def heightEntries : List (String × Value) → Nat
  | [] => 0
  | (_, value) :: rest => max value.height (heightEntries rest)

end

theorem height_le_of_mem_items {item : Value} {items : List Value} (member : item ∈ items) :
    item.height ≤ heightItems items := by
  induction items with
  | nil => cases member
  | cons head rest ih =>
    rw [heightItems]
    rcases List.mem_cons.1 member with rfl | inside
    · exact Nat.le_max_left ..
    · exact Nat.le_trans (ih inside) (Nat.le_max_right ..)

theorem height_le_of_mem_entries {key : String} {value : Value} {entries : List (String × Value)}
    (member : (key, value) ∈ entries) : value.height ≤ heightEntries entries := by
  induction entries with
  | nil => cases member
  | cons head rest ih =>
    obtain ⟨other, kept⟩ := head
    rw [heightEntries]
    rcases List.mem_cons.1 member with same | inside
    · cases same
      exact Nat.le_max_left ..
    · exact Nat.le_trans (ih inside) (Nat.le_max_right ..)

end Value
end FieldSelect
