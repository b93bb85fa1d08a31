import FieldSelect.Filter.Tree

/-! The selectors that can choose among the fields of one value, and what they decide for each of them. -/
namespace FieldSelect

/-- The selectors of one block, and the recursive ones of the blocks around it, nearest first, each with
the number of levels it stands above. -/
structure Frontier where
  explicit : List Selector
  inherited : List (Selector × Nat)

/-- What becomes of one field. -/
inductive Resolution where
  | included (selector : Selector) (score : Nat) (inherited : Bool)
  | excluded (selector : Selector)
  | unmatched

def Resolution.isIncluded : Resolution → Bool
  | .included .. => true
  | _ => false

/-- What is kept below an included field: none of its fields, all of them, or what a frontier decides. -/
inductive Continuation where
  | stop
  | whole
  | descend (frontier : Frontier)

namespace Frontier

/-- The frontier at the top of a value. -/
def top (selectors : List Selector) : Frontier := ⟨selectors, []⟩

def isEmpty (frontier : Frontier) : Bool := frontier.explicit.isEmpty && frontier.inherited.isEmpty

/-- Recursive selectors choose on their own level only when their bounds start there. -/
def takesPart (selector : Selector) : Bool := !selector.recursive || selector.recursesAt 0

/-- How closely an explicit selector fits a field name, if it takes part and fits at all. -/
def fit? (candidate : String) (bindings : Option Bindings) (selector : Selector) : Option Nat :=
  if takesPart selector then selector.name.score? candidate bindings else none

/-- The better of the best selector so far and the next one; the earlier one wins a tie. -/
def better (best : Option (Selector × Nat)) (next : Selector) (score : Option Nat) :
    Option (Selector × Nat) :=
  match score, best with
  | some score, some (_, top) => if top < score then some (next, score) else best
  | some score, none => some (next, score)
  | none, _ => best

/-- The first of the explicit selectors that fit best. -/
def best? (frontier : Frontier) (candidate : String) (bindings : Option Bindings) :
    Option (Selector × Nat) :=
  frontier.explicit.foldl (fun best selector => better best selector (fit? candidate bindings selector)) none

/-- The nearest inherited selector that is within its bounds and fits. -/
def nearest? (frontier : Frontier) (candidate : String) (bindings : Option Bindings) :
    Option (Selector × Nat) :=
  frontier.inherited.findSome? fun (selector, depth) =>
    if selector.recursesAt depth then
      (selector.name.score? candidate bindings).map fun score => (selector, score)
    else none

def verdict (inherited : Bool) : Selector × Nat → Resolution
  | (selector, score) => if selector.negated then .excluded selector else .included selector score inherited

/-- Inherited selectors are asked only when no explicit one fits. -/
def resolve (frontier : Frontier) (candidate : String) (bindings : Option Bindings) : Resolution :=
  match frontier.best? candidate bindings with
  | some found => verdict false found
  | none =>
    match frontier.nearest? candidate bindings with
    | some found => verdict true found
    | none => .unmatched

/-- The recursive selectors one level down, as far as they can still match there or deeper. -/
def passedDown (frontier : Frontier) : List (Selector × Nat) :=
  let recursive := (frontier.explicit.filter (·.recursive)).map fun selector => (selector, 0)
  (recursive ++ frontier.inherited).filterMap fun (selector, depth) =>
    if selector.reaches (depth + 1) then some (selector, depth + 1) else none

/-- A block decides what is kept below its field; a recursive selector goes on by itself. -/
def next (frontier : Frontier) (selector : Selector) : Continuation :=
  if selector.emptyNested then .stop
  else if selector.nested then .descend ⟨selector.children, frontier.passedDown⟩
  else if selector.recursive then .descend ⟨[], frontier.passedDown⟩
  else .whole

end Frontier
end FieldSelect
