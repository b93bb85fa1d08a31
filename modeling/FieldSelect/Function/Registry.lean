import FieldSelect.Function.Overload
import FieldSelect.Text.Blank

/-! The functions that filters can call. A filter only names them; each call is resolved when it runs. -/
namespace FieldSelect

/-- Why a call has no function to run. -/
inductive UnresolvedCause where
  | unknownName
  | noOverload (input : Value.Kind) (arguments : List Value.Kind)
  | unboundVariable (name : String)
  deriving DecidableEq

structure UnresolvedCall where
  cause : UnresolvedCause
  function : String
  position : Position
  deriving DecidableEq

def UnresolvedCall.message (error : UnresolvedCall) : String :=
  (match error.cause with
    | .unknownName => "Unknown function '" ++ error.function ++ "'"
    | .noOverload input arguments =>
      "No overload of '" ++ error.function ++ "' accepts " ++ input.name ++ "(" ++
        ", ".intercalate (arguments.map Value.Kind.name) ++ ")"
    | .unboundVariable name =>
      "Unbound variable '@" ++ name ++ "' in call to '" ++ error.function ++ "'") ++
    " at " ++ error.position.describe

/-- Variables take their values from the request. -/
def Call.bind (call : Call) (bindings : Option Bindings) : Except UnresolvedCall (List Value) :=
  call.arguments.mapM fun argument =>
    match argument with
    | .literal value => .ok value
    | .variable name =>
      match bindings.bind (Entries.find? name) with
      | some value => .ok value
      | none => .error ⟨.unboundVariable name, call.name, call.position⟩

/-- Which functions of a module are registered. -/
inductive Strategy where
  | auto
  | explicit
  deriving DecidableEq

/-- A text that names no strategy. -/
structure UnknownStrategy where
  text : String
  deriving DecidableEq

def UnknownStrategy.message (error : UnknownStrategy) : String :=
  "Unknown registration strategy '" ++ error.text ++ "' (expected 'auto' or 'explicit')"

/-- Blanks around the name and the case of its letters do not matter. -/
def Strategy.read (text : String) : Except UnknownStrategy Strategy :=
  match (trimText text).toLower with
  | "auto" => .ok .auto
  | "explicit" => .ok .explicit
  | _ => .error ⟨text⟩

/-- A function that a module offers, under its own name and others. -/
structure Candidate where
  overload : Overload
  aliases : List String
  exported : Bool
  ignored : Bool

/-- An ignored function is never registered, and the explicit strategy asks for exported ones. -/
def Candidate.isSelected (candidate : Candidate) : Strategy → Bool
  | .auto => !candidate.ignored
  | .explicit => candidate.exported && !candidate.ignored

/-- Overload sets under their names, in the order of the names. -/
structure Registry where
  functions : Entries OverloadSet

namespace Registry

def empty : Registry := ⟨[]⟩

def overloads? (registry : Registry) (name : String) : Option OverloadSet :=
  Entries.find? name registry.functions

def contains (registry : Registry) (name : String) : Bool := (registry.overloads? name).isSome

/-- All names, sorted. -/
def names (registry : Registry) : List String := Entries.keys registry.functions

/-- The number of names. -/
def size (registry : Registry) : Nat := registry.functions.length

/-- A further function under a name comes last among those already there. -/
def add (registry : Registry) (name : String) (overload : Overload) : Registry :=
  let set :=
    match registry.overloads? name with
    | some existing => existing.push overload
    | none => .single overload
  ⟨Entries.insert name set registry.functions⟩

def register (registry : Registry) (overloads : List Overload) : Registry :=
  overloads.foldl (fun registry overload => registry.add overload.name overload) registry

/-- A function comes under its other names first and under its own name last. -/
def addCandidate (registry : Registry) (candidate : Candidate) : Registry :=
  (candidate.aliases ++ [candidate.overload.name]).foldl
    (fun registry name => registry.add name candidate.overload) registry

/-- The functions that the strategy selects are registered, and counted. -/
def registerModule (registry : Registry) (candidates : List Candidate) (strategy : Strategy) :
    Registry × Nat :=
  let selected := candidates.filter (·.isSelected strategy)
  (selected.foldl addCandidate registry, selected.length)

/-- The function that answers a call with these values. -/
def resolve (registry : Registry) (call : Call) (input : Value) (arguments : List Value) :
    Except UnresolvedCall Overload :=
  match registry.overloads? call.name with
  | none => .error ⟨.unknownName, call.name, call.position⟩
  | some set =>
    match set.resolve? input arguments with
    | some overload => .ok overload
    | none => .error ⟨.noOverload input.kind (arguments.map Value.kind), call.name, call.position⟩

theorem overloads?_add_self (registry : Registry) (name : String) (overload : Overload) :
    ((registry.add name overload).overloads? name).map OverloadSet.definitions =
      some (((registry.overloads? name).map OverloadSet.definitions).getD [] ++ [overload]) := by
  simp only [add, overloads?, Entries.find?_insert_self, Option.map_some]
  cases Entries.find? name registry.functions <;> rfl

theorem overloads?_add_of_ne {name wanted : String} (different : wanted ≠ name) (registry : Registry)
    (overload : Overload) : (registry.add name overload).overloads? wanted = registry.overloads? wanted := by
  simp [add, overloads?, Entries.find?_insert_of_ne different]

end Registry
end FieldSelect
