/-! Sets of code points as arithmetic runs, and the runs that a case map moves as one block. -/
namespace FieldSelect

/-- Every `step`-th code point from `first` to `last`, both included. -/
structure Stretch where
  first : Nat
  last : Nat
  step : Nat

def Stretch.holds (run : Stretch) (point : Nat) : Bool :=
  run.first ≤ point && point ≤ run.last && (point - run.first) % run.step == 0

/-- A character belongs to a table when one of its runs holds the code point. -/
def Stretch.anyHolds (table : List Stretch) (c : Char) : Bool :=
  table.any (·.holds c.toNat)

/-- A stretch whose first member goes to `target` and every other member keeps its distance. -/
structure Shift where
  first : Nat
  last : Nat
  step : Nat
  target : Nat

def Shift.source (move : Shift) : Stretch := ⟨move.first, move.last, move.step⟩

/-- Where the move takes a code point, if it takes it at all. -/
def Shift.image? (move : Shift) (point : Nat) : Option Nat :=
  if move.source.holds point then some (move.target + (point - move.first)) else none

/-- The first move that takes a character decides; without one the character stays. -/
def Shift.apply (table : List Shift) (c : Char) : Char :=
  match table.findSome? (·.image? c.toNat) with
  | some point => Char.ofNat point
  | none => c

end FieldSelect
