import FieldSelect.Value

/-! The kinds of input and arguments that a function takes, and how closely values fit them. -/
namespace FieldSelect

/-- What one position of a function accepts. -/
inductive ParamKind where
  | any
  | null
  | boolean
  | integer
  | number
  | string
  | array
  | object
  deriving DecidableEq

namespace ParamKind

def name : ParamKind → String
  | .any => "any"
  | .null => "null"
  | .boolean => "boolean"
  | .integer => "integer"
  | .number => "number"
  | .string => "string"
  | .array => "array"
  | .object => "object"

/-- The kinds that a position is made for; records are objects, and only floats are plain numbers. -/
def isMadeFor : ParamKind → Value.Kind → Bool
  | .null, .null => true
  | .boolean, .boolean => true
  | .integer, .integer => true
  | .number, .float => true
  | .string, .string => true
  | .array, .array => true
  | .object, .object => true
  | .object, .record => true
  | _, _ => false

/-- Three for a value that the position is made for, two for an integer where any number will do, one
where anything will do. -/
def specificity? (param : ParamKind) (value : Value) : Option Nat :=
  if param.isMadeFor value.kind then some 3
  else
    match param, value.kind with
    | .any, _ => some 1
    | .number, .integer => some 2
    | _, _ => none

end ParamKind

/-- The kinds of the input and of the arguments behind it. -/
structure Shape where
  input : ParamKind
  arguments : List ParamKind
  deriving DecidableEq

namespace Shape

def arity (shape : Shape) : Nat := shape.arguments.length

def text (shape : Shape) : String :=
  shape.input.name ++ "(" ++ ", ".intercalate (shape.arguments.map ParamKind.name) ++ ")"

/-- The sum over all positions, when there are as many arguments as positions and each of them fits. -/
def argumentsFit? : List ParamKind → List Value → Option Nat
  | [], [] => some 0
  | param :: params, argument :: arguments => do
    return (← param.specificity? argument) + (← argumentsFit? params arguments)
  | _, _ => none

def specificity? (shape : Shape) (input : Value) (arguments : List Value) : Option Nat := do
  return (← shape.input.specificity? input) + (← argumentsFit? shape.arguments arguments)

theorem argumentsFit?_length {params : List ParamKind} {arguments : List Value} {total : Nat}
    (fits : argumentsFit? params arguments = some total) : arguments.length = params.length := by
  induction params generalizing arguments total with
  | nil => cases arguments <;> simp_all [argumentsFit?]
  | cons param params ih =>
    cases arguments with
    | nil => simp [argumentsFit?] at fits
    | cons argument arguments =>
      simp only [argumentsFit?] at fits
      cases first : param.specificity? argument with
      | none => simp [first] at fits
      | some head =>
        cases others : argumentsFit? params arguments with
        | none => simp [first, others] at fits
        | some tail => simp [ih others]

end Shape
end FieldSelect
