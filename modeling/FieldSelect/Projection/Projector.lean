import FieldSelect.Function.Registry
import FieldSelect.Schema.ViewTable

/-! What a projection works with, how it can fail, and how the calls of a selector run. -/
namespace FieldSelect

/-- Why a value cannot be projected. -/
inductive ProjectionError where
  | unresolved (error : UnresolvedCall)
  | function (name : String) (position : Position) (cause : FunctionError)
  | schema (error : SchemaError)
  deriving DecidableEq

def ProjectionError.message : ProjectionError → String
  | .unresolved error => error.message
  | .function name position cause =>
    "Function '" ++ name ++ "' failed at " ++ position.describe ++ ": " ++ cause.message
  | .schema error => error.message

/-- The surroundings of a projection. View tables come out of a monad, since looking one up may change
what is remembered; everything else about a projection is pure. -/
structure Projector (m : Type → Type) where
  registry : Registry
  tableOf : String → m (Except SchemaError ViewTable)
  bindings : Option Bindings
  /-- Unresolved calls and unknown types are errors, and not passed over. -/
  strict : Bool

/-- A step of a projection that may look up view tables and may fail. -/
abbrev Projection (m : Type → Type) := ExceptT ProjectionError m

namespace Projector
variable {m : Type → Type}

/-- A call that is passed over leaves its input as it is. -/
def passOver (projector : Projector m) (error : UnresolvedCall) (input : Value) : Except ProjectionError Value :=
  if projector.strict then .error (.unresolved error) else .ok input

def call (projector : Projector m) (input : Value) (call : Call) : Except ProjectionError Value :=
  match call.bind projector.bindings with
  | .error error => projector.passOver error input
  | .ok arguments =>
    match projector.registry.resolve call input arguments with
    | .error error => projector.passOver error input
    | .ok overload => (overload.invoke input arguments).mapError (.function call.name call.position)

/-- A call on a key has to give a key again. -/
def callKey (projector : Projector m) (key : String) (call : Call) : Except ProjectionError String := do
  match ← projector.call (.string key) call with
  | .string renamed => return renamed
  | other => throw (.function call.name call.position (.mismatch "string" other))

/-- The value of a field goes through its calls first, and then the key through its own. -/
def applyCalls (projector : Projector m) (selector : Selector) (key : String) (value : Value) :
    Except ProjectionError (String × Value) := do
  let value ← selector.valueCalls.foldlM projector.call value
  let key ← selector.keyCalls.foldlM projector.callKey key
  return (key, value)

theorem applyCalls_of_no_calls (projector : Projector m) {selector : Selector}
    (quiet : selector.hasCalls = false) (key : String) (value : Value) :
    projector.applyCalls selector key value = .ok (key, value) := by
  simp only [Selector.hasCalls, Bool.or_eq_false_iff, Bool.not_eq_false', List.isEmpty_iff] at quiet
  simp [applyCalls, quiet.1, quiet.2, pure, bind, Except.bind, Except.pure]

end Projector
end FieldSelect
