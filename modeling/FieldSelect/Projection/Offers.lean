import FieldSelect.Projection.Projector

/-! The fields that a record offers under a view, by the names under which they are shown. -/
namespace FieldSelect

structure Offer where
  name : String
  value : Value
  /-- A view that a selector names holds the field. -/
  byView : Bool

namespace ViewTable

/-- An exact name that is not negated can name a view. -/
def namedView? (table : ViewTable) (selector : Selector) : Option String :=
  match selector.name with
  | .exact view =>
    if !selector.negated && (table.hasView view || view == fullView) then some view else none
  | _ => none

/-- The properties of all views that selectors name. -/
def propertiesNamed (table : ViewTable) (selectors : List Selector) : NameSet :=
  (selectors.filterMap table.namedView?).foldr (fun view names => NameSet.union (table.propertiesIn view) names) []

/-- The field that a record holds for a property. -/
def held? (table : ViewTable) (fields : Entries Value) (external : String) : Option Value :=
  (table.declaredName? external).bind fun declared => Entries.find? declared fields

end ViewTable

namespace Projector
variable {m : Type → Type} [Monad m]

/-- Without strictness a type that nobody registered has no table. -/
def table? (projector : Projector m) (typeName : String) : Projection m (Option ViewTable) := do
  match ← projector.tableOf typeName with
  | .ok table => return some table
  | .error error =>
    if error.cause = .unknownType ∧ projector.strict = false then return none
    else throw (.schema error)

/-- What an unwrapped property offers in its place: the fields of its value, if that has any. -/
def splice (inner : String → Entries Value → Projection m (List Offer)) (byView : Bool) :
    Value → Projection m (List Offer)
  | .record typeName fields => do
    let offers ← inner typeName fields
    return offers.map fun offer => { offer with byView := offer.byView || byView }
  | .object entries => return entries.map fun (name, value) => ⟨name, value, byView⟩
  | _ => return []

/-- What one property offers, if the record holds it. -/
def propertyOffers (inner : String → Entries Value → Projection m (List Offer)) (table : ViewTable)
    (visible named : NameSet) (fields : Entries Value) (external : String) : Projection m (List Offer) :=
  match table.held? fields external with
  | none => return []
  | some value =>
    if table.isUnwrapped external then splice inner (!visible.contains external) value
    else return [⟨external, value, named.contains external⟩]

/-- The properties of the view and of the views that selectors name, sorted by their external names. A
record without a table offers its fields under their declared names. -/
def offersWith (projector : Projector m) (view : String) (selectors : List Selector)
    (inner : String → Entries Value → Projection m (List Offer)) (typeName : String)
    (fields : Entries Value) : Projection m (List Offer) := do
  match ← projector.table? typeName with
  | none => return fields.map fun (name, value) => ⟨name, value, false⟩
  | some table =>
    let visible := table.propertiesIn view
    let named := table.propertiesNamed selectors
    let offers ← (NameSet.union visible named).mapM (propertyOffers inner table visible named fields)
    return offers.flatten

/-- Records inside unwrapped properties are opened `levels` deep, which is enough for all of them when
the fields are no higher than that. -/
def recordOffers (projector : Projector m) (view : String) (selectors : List Selector) :
    Nat → String → Entries Value → Projection m (List Offer)
  | 0 => projector.offersWith view selectors fun _ _ => return []
  | levels + 1 => projector.offersWith view selectors (recordOffers projector view selectors levels)

end Projector
end FieldSelect
