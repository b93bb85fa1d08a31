import FieldSelect.Decimal.Binary

/-! The decimal with the fewest digits that still reads back as a given float. -/
namespace FieldSelect

/-- The value `digits * 10 ^ exponent`. -/
structure Decimal where
  digits : Nat
  exponent : Int
  deriving DecidableEq

/-- Which of two equally near decimals is written. -/
inductive Tie where
  | away
  | even
  deriving DecidableEq

namespace Binary

/-- Half the way to the next float below: it is nearer where the exponent field changes. -/
def lowerReach (x : Binary) : Nat :=
  if x.significand = Nat.pow 2 52 ∧ Binary.lowest < x.exponent then 1 else 2

/-- One step of the decimal grid, counted in `1 / scale` of a quarter of the last bit. -/
def gridStep (x : Binary) (power : Int) : Nat :=
  Nat.pow 10 power.toNat * Nat.pow 2 (2 - x.exponent).toNat

/-- A quarter of the last bit, in the same count. -/
def quarterBit (x : Binary) (power : Int) : Nat :=
  Nat.pow 2 (x.exponent - 2).toNat * Nat.pow 10 (-power).toNat

/-- All decimals in this interval read back as the float; its ends do when the significand is even. -/
def reads (x : Binary) (d : Decimal) : Bool :=
  let point := d.digits * x.gridStep d.exponent
  let low := (4 * x.significand - x.lowerReach) * x.quarterBit d.exponent
  let high := (4 * x.significand + 2) * x.quarterBit d.exponent
  if x.significand % 2 = 0 then low ≤ point && point ≤ high else low < point && point < high

/-- The neighbours of the float on one decimal grid, if one of them reads back. -/
def hit? (x : Binary) (tie : Tie) (power : Int) : Option Decimal :=
  let whole := 4 * x.significand * x.quarterBit power
  let step := x.gridStep power
  let below : Decimal := ⟨whole / step, power⟩
  let above : Decimal := ⟨whole / step + 1, power⟩
  let twice := 2 * (whole % step)
  match x.reads below, x.reads above with
  | false, false => none
  | true, false => some below
  | false, true => some above
  | true, true =>
    if twice < step then some below
    else if step < twice then some above
    else
      match tie with
      | .away => some above
      | .even => some (if below.digits % 2 = 0 then below else above)

/-- Grids are tried from the coarsest on; the float itself stands on one of them. -/
def refine (x : Binary) (tie : Tie) : Nat → Int → Decimal
  | 0, power => ⟨4 * x.significand * x.quarterBit power / x.gridStep power, power⟩
  | steps + 1, power => (x.hit? tie power).getD (x.refine tie steps (power - 1))

/-- A power of ten above the float, from its number of bits. -/
def coarsest (x : Binary) : Int :=
  ((x.significand.log2 : Int) + x.exponent + 1) * 30103 / 100000 + 1

/-- Twenty grids reach from above the float to its seventeenth digit. -/
def shortest (x : Binary) (tie : Tie) : Decimal := x.refine tie 20 x.coarsest

end Binary
end FieldSelect
