import FieldSelect.Frontier
import FieldSelect.Projection.Offers

/-! Values walked in step with the selectors of a filter. -/
namespace FieldSelect

namespace Value

mutual

/-- A value without any of its fields; arrays keep their length. -/
def shell : Value → Value
  | .array items => .array (shellItems items)
  | .object _ => .object []
  | .record _ _ => .object []
  | scalar => scalar

def shellItems : List Value → List Value
  | [] => []
  | item :: rest => item.shell :: shellItems rest

end

end Value

namespace Projector
variable {m : Type → Type} [Monad m]

/-- A value with all of its fields, where records become objects of what their base view shows. The
number of levels is at least the height of the value. -/
def wholeWithin (projector : Projector m) : Nat → Value → Projection m Value
  | levels + 1, .array items => return .array (← items.mapM (wholeWithin projector levels))
  | levels + 1, .object entries => do
    let entries ← entries.mapM fun (key, field) => return (key, ← wholeWithin projector levels field)
    return .object entries
  | levels + 1, .record typeName fields => do
    let offers ← projector.recordOffers baseView [] levels typeName fields
    let entries ← offers.mapM fun offer => return (offer.name, ← wholeWithin projector levels offer.value)
    return .object (Entries.ofPairs entries)
  | _, scalar => return scalar

/-- The selector that keeps a field, if it is not only a view that does, and what is kept below. A field
that no selector matches is kept as a whole when a view brings it in. -/
def chosen? (projector : Projector m) (frontier : Frontier) (offer : Offer) :
    Option (Option Selector × Continuation) :=
  match frontier.resolve offer.name projector.bindings with
  | .included selector _ _ => some (some selector, frontier.next selector)
  | .unmatched => if offer.byView then some (none, .whole) else none
  | .excluded _ => none

/-- The part of a value that is kept. -/
def keep (projector : Projector m) (levels : Nat) (descend : Value → Frontier → Projection m Value)
    (value : Value) : Continuation → Projection m Value
  | .stop => return value.shell
  | .whole => projector.wholeWithin levels value
  | .descend frontier => descend value frontier

/-- The entry that becomes of an offered field, if it is kept. -/
def field (projector : Projector m) (levels : Nat) (descend : Value → Frontier → Projection m Value)
    (frontier : Frontier) (offer : Offer) : Projection m (Option (String × Value)) := do
  match projector.chosen? frontier offer with
  | none => return none
  | some (selector, continuation) =>
    let value ← projector.keep levels descend offer.value continuation
    match selector with
    | none => return some (offer.name, value)
    | some selector => return some (← liftExcept (projector.applyCalls selector offer.name value))

/-- Of the fields that end up under one key the last one stays. -/
def fields (projector : Projector m) (levels : Nat) (descend : Value → Frontier → Projection m Value)
    (frontier : Frontier) (offers : List Offer) : Projection m Value := do
  let kept ← offers.mapM (projector.field levels descend frontier)
  return .object (Entries.ofPairs (kept.filterMap id))

/-- One stage. Arrays are projected item by item; the number of levels is at least the height of the value. -/
def projectWithin (projector : Projector m) (view : String) : Nat → Value → Frontier → Projection m Value
  | levels + 1, .array items, frontier =>
    return .array (← items.mapM fun item => projectWithin projector view levels item frontier)
  | levels + 1, .object entries, frontier =>
    let offers := entries.map fun (name, value) => ⟨name, value, false⟩
    projector.fields levels (projectWithin projector view levels) frontier offers
  | levels + 1, .record typeName fields, frontier => do
    let offers ← projector.recordOffers view frontier.explicit levels typeName fields
    projector.fields levels (projectWithin projector view levels) frontier offers
  | _, scalar, _ => return scalar

def whole (projector : Projector m) (value : Value) : Projection m Value :=
  projector.wholeWithin value.height value

def projectStage (projector : Projector m) (tree : Tree) (view : String) (value : Value) (stage : Nat) :
    Projection m Value :=
  projector.projectWithin view value.height value (.top (tree.stage stage))

/-- Each stage projects what the one before it kept. -/
def project (projector : Projector m) (tree : Tree) (view : String) (value : Value) : Projection m Value :=
  if tree.stageCount = 0 then projector.whole value
  else (List.range tree.stageCount).foldlM (projector.projectStage tree view) value

end Projector
end FieldSelect
