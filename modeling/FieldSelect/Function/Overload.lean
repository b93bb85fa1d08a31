import FieldSelect.Filter.Selector
import FieldSelect.Function.Shape

/-! Functions under one name: which of them answers a call, and how a function can fail. -/
namespace FieldSelect

/-- Why a function has no result. -/
inductive FunctionError where
  | typeMismatch (expected : String) (actual : Value.Kind)
  | missingArgument (index : Nat)
  | emptyPattern
  | invalidRegex (fault : Regex.Fault)
  | custom (text : String)
  deriving DecidableEq

def FunctionError.message : FunctionError → String
  | .typeMismatch expected actual => "expected " ++ expected ++ ", got " ++ actual.name
  | .missingArgument index => "missing argument " ++ toString (index + 1)
  | .emptyPattern => "replace() pattern cannot be empty"
  | .invalidRegex fault => "invalid regex: " ++ fault.message
  | .custom text => text

def FunctionError.mismatch (expected : String) (actual : Value) : FunctionError :=
  .typeMismatch expected actual.kind

/-- What a function does with its input and its arguments. -/
abbrev Body := Value → List Value → Except FunctionError Value

/-- One function with the values it takes. -/
structure Overload where
  name : String
  shape : Shape
  invoke : Body

/-- All functions under one name, in the order of their registration. -/
inductive OverloadSet where
  | single (only : Overload)
  | many (all : List Overload)

namespace OverloadSet

def definitions : OverloadSet → List Overload
  | .single only => [only]
  | .many all => all

def push (set : OverloadSet) (overload : Overload) : OverloadSet :=
  .many (set.definitions ++ [overload])

/-- The better of the best overload so far and the next one; the earlier one wins a tie. -/
def better (best : Option (Nat × Overload)) (next : Overload) (score : Option Nat) :
    Option (Nat × Overload) :=
  match score, best with
  | some score, some (top, _) => if top < score then some (score, next) else best
  | some score, none => some (score, next)
  | none, _ => best

/-- The first of the overloads that fit best. -/
def best? (overloads : List Overload) (input : Value) (arguments : List Value) : Option (Nat × Overload) :=
  overloads.foldl (fun best next => better best next (next.shape.specificity? input arguments)) none

def resolve? (set : OverloadSet) (input : Value) (arguments : List Value) : Option Overload :=
  match set with
  | .single only => (only.shape.specificity? input arguments).map fun _ => only
  | .many all => (best? all input arguments).map (·.2)

@[simp] theorem definitions_push (set : OverloadSet) (overload : Overload) :
    (set.push overload).definitions = set.definitions ++ [overload] := rfl

theorem resolve?_single (only : Overload) (input : Value) (arguments : List Value) :
    (single only).resolve? input arguments = (many [only]).resolve? input arguments := by
  simp only [resolve?, best?, List.foldl_cons, List.foldl_nil]
  cases only.shape.specificity? input arguments <;> rfl

end OverloadSet
end FieldSelect
