import FieldSelect.Filter.Selector

/-! Blocks of sibling selectors: siblings that open the same block become one, and a block that only
drops fields keeps all others. -/
namespace FieldSelect
namespace Block

/-- Two siblings open the same block when they agree in all but what they do and hold. -/
def mergeable (a b : Selector) : Bool :=
  a.name == b.name && a.negated == b.negated && a.nested && b.nested && !a.emptyNested && !b.emptyNested &&
    a.minDepth == b.minDepth && a.maxDepth == b.maxDepth

/-- The earlier sibling stays; the later one adds its children and its calls. -/
def combine (finish : List Selector → List Selector) (a b : Selector) : Selector :=
  { a with
    children := finish (a.children ++ b.children)
    keyCalls := a.keyCalls ++ b.keyCalls
    valueCalls := a.valueCalls ++ b.valueCalls }

/-- A selector joins the first sibling that opens the same block, and else stands last. -/
def merge (finish : List Selector → List Selector) : List Selector → Selector → List Selector
  | [], selector => [selector]
  | sibling :: rest, selector =>
    if mergeable sibling selector then combine finish sibling selector :: rest
    else sibling :: merge finish rest selector

/-- Where all selectors drop fields, `*` keeps the others. -/
def complete (selectors : List Selector) : List Selector :=
  match selectors.getLast? with
  | some last =>
    if selectors.all (·.negated) then selectors ++ [Selector.named .anyShallow last.position]
    else selectors
  | none => []

def finishAt : Nat → List Selector → List Selector
  | 0, selectors => selectors
  | levels + 1, selectors => complete (selectors.foldl (merge (finishAt levels)) [])

/-- Merging joins blocks one level down, so the height of the block bounds the levels. -/
def finish (selectors : List Selector) : List Selector :=
  finishAt (Selector.heightAll selectors) selectors

end Block
end FieldSelect
