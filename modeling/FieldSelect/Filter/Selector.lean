import FieldSelect.Filter.Name
import FieldSelect.Filter.Position

/-! The selectors of a filter: a name pattern, what it does to the fields it keeps, and what it keeps below them. -/
namespace FieldSelect

inductive Argument where
  | literal (value : Value)
  | variable (name : String)

def Argument.same : Argument → Argument → Bool
  | .literal a, .literal b => a == b
  | .variable a, .variable b => a == b
  | _, _ => false

instance : BEq Argument := ⟨Argument.same⟩

/-- A function named in a filter, with the arguments written behind it. -/
structure Call where
  name : String
  arguments : List Argument
  position : Position

def Call.arity (call : Call) : Nat := call.arguments.length

def Call.same (a b : Call) : Bool :=
  a.name == b.name && a.arguments == b.arguments && a.position == b.position

instance : BEq Call := ⟨Call.same⟩

/-- One selector. `nested` says that a block was written behind it and `emptyNested` that the block was
empty; `recursive` selectors go on to match below the level where they stand, within their depth bounds. -/
structure Selector where
  position : Position
  name : Name
  children : List Selector
  stage : Nat
  keyCalls : List Call
  valueCalls : List Call
  negated : Bool
  nested : Bool
  emptyNested : Bool
  recursive : Bool
  minDepth : Option Nat
  maxDepth : Option Nat

namespace Selector

/-- A selector that is nothing but a name. -/
def named (name : Name) (position : Position) : Selector :=
  { position, name, children := [], stage := 0, keyCalls := [], valueCalls := [], negated := false,
    nested := false, emptyNested := false, recursive := name.isAnyDeep, minDepth := none, maxDepth := none }

def hasCalls (selector : Selector) : Bool :=
  !selector.keyCalls.isEmpty || !selector.valueCalls.isEmpty

/-- The selector can match `depth` levels below its own or anywhere deeper. -/
def reaches (selector : Selector) (depth : Nat) : Bool :=
  selector.recursive && selector.maxDepth.all (depth < ·)

/-- The selector matches `depth` levels below its own: the lower bound is included, the upper one is not. -/
def recursesAt (selector : Selector) (depth : Nat) : Bool :=
  selector.recursive && selector.minDepth.all (· ≤ depth) && selector.maxDepth.all (depth < ·)

def withName (selector : Selector) (name : Name) : Selector := { selector with name }

def withChildren (selector : Selector) (children : List Selector) : Selector := { selector with children }

mutual

/-- The selector and all below it, moved to another stage. -/
def withStage (stage : Nat) : Selector → Selector
  | ⟨position, name, children, _, keyCalls, valueCalls, negated, nested, emptyNested, recursive, low, high⟩ =>
    ⟨position, name, allWithStage stage children, stage, keyCalls, valueCalls, negated, nested, emptyNested,
      recursive, low, high⟩

def allWithStage (stage : Nat) : List Selector → List Selector
  | [] => []
  | selector :: rest => withStage stage selector :: allWithStage stage rest

end

mutual

/-- Everything about a selector counts, its place included. -/
def same : Selector → Selector → Bool
  | ⟨p, n, cs, s, ks, vs, neg, nest, empty, recurs, low, high⟩,
    ⟨p', n', cs', s', ks', vs', neg', nest', empty', recurs', low', high'⟩ =>
    p == p' && n == n' && sameAll cs cs' && s == s' && ks == ks' && vs == vs' && neg == neg' &&
      nest == nest' && empty == empty' && recurs == recurs' && low == low' && high == high'

def sameAll : List Selector → List Selector → Bool
  | [], [] => true
  | a :: as, b :: bs => same a b && sameAll as bs
  | _, _ => false

end

instance : BEq Selector := ⟨same⟩

mutual

/-- How many selectors stand inside one another. -/
def height : Selector → Nat
  | ⟨_, _, children, _, _, _, _, _, _, _, _, _⟩ => heightAll children + 1

def heightAll : List Selector → Nat
  | [] => 0
  | selector :: rest => max selector.height (heightAll rest)

end

theorem recursesAt_reaches {selector : Selector} {depth : Nat} (inside : selector.recursesAt depth = true) :
    selector.reaches depth = true := by
  simp only [recursesAt, reaches, Bool.and_eq_true] at inside ⊢
  exact ⟨inside.1.1, inside.2⟩

theorem allWithStage_eq_map (stage : Nat) (selectors : List Selector) :
    allWithStage stage selectors = selectors.map (withStage stage) := by
  induction selectors with
  | nil => rfl
  | cons selector rest ih => rw [allWithStage, ih, List.map_cons]

end Selector
end FieldSelect
