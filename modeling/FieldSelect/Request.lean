import FieldSelect.Value

/-! What belongs to one request: its variables, and the filters found for its types so far. -/
namespace FieldSelect

/-- A type with no filter is remembered as well as one with a filter. -/
structure Request where
  bindings : Bindings
  resolved : Entries (Option String)

namespace Request

def empty : Request := ⟨[], []⟩

def setVariable (request : Request) (name : String) (value : Value) : Request :=
  { request with bindings := Entries.insert name value request.bindings }

/-- The value bound to a name. -/
def binding? (request : Request) (name : String) : Option Value := Entries.find? name request.bindings

/-- The source is asked once for each key. What it answers, or the fallback where it has nothing, stands
until the resolved filters are forgotten. -/
def resolveFilter {m : Type → Type} [Monad m] (request : Request) (key : String)
    (source : String → m (Option String)) (fallback : Option String) : m (Option String × Request) :=
  match Entries.find? key request.resolved with
  | some filter => pure (filter, request)
  | none => do
    let answer ← source key
    let filter := answer <|> fallback
    return (filter, { request with resolved := Entries.insert key filter request.resolved })

/-- Variables stay. -/
def forgetFilters (request : Request) : Request := { request with resolved := [] }

end Request
end FieldSelect
