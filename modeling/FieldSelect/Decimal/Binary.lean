/-! Finite floats as integers times powers of two, and the float nearest to a quotient. -/
namespace FieldSelect

/-- The value `significand * 2 ^ exponent` of a finite float without its sign. -/
structure Binary where
  significand : Nat
  exponent : Int
  deriving DecidableEq

/-- The lowest power of two that any float uses. -/
def Binary.lowest : Int := -1074

/-- The fraction field is extended by its hidden bit, except for the lowest exponent field. -/
def Binary.ofFloat? (x : Float) : Option Binary :=
  let bits := x.toBits.toNat
  let fraction := bits % Nat.pow 2 52
  let field := bits / Nat.pow 2 52 % Nat.pow 2 11
  if field = 2047 then none
  else if field = 0 then some ⟨fraction, Binary.lowest⟩
  else some ⟨fraction + Nat.pow 2 52, Binary.lowest + (field - 1 : Nat)⟩

def signBit (x : Float) : Bool := x.toBits.toNat / Nat.pow 2 63 == 1

/-- The integer nearest to a quotient; of two equally near ones the even one. -/
def roundEven (num den : Nat) : Nat :=
  let floor := num / den
  let twice := 2 * (num % den)
  if twice < den then floor else if den < twice then floor + 1 else floor + floor % 2

/-- A quotient scaled by a power of two, as a quotient again. -/
def scaled (num den : Nat) (power : Int) : Nat × Nat :=
  (num * Nat.pow 2 (-power).toNat, den * Nat.pow 2 power.toNat)

/-- The highest bit weight at which the significand stays below `2 ^ 53`. -/
def unitFor (num den : Nat) : Int :=
  let guess := max ((num.log2 : Int) - (den.log2 : Int) - 53) Binary.lowest
  let (top, bottom) := scaled num den guess
  if top / bottom < Nat.pow 2 53 then guess else guess + 1

/-- The float nearest to `num / den`, ties to the even significand; beyond the largest float it is infinite. -/
def nearestFloat (num den : Nat) : Float :=
  if num = 0 then 0.0
  else
    let unit := unitFor num den
    let (top, bottom) := scaled num den unit
    let bits := (unit - Binary.lowest).toNat * Nat.pow 2 52 + roundEven top bottom
    Float.ofBits (UInt64.ofNat (min bits (2047 * Nat.pow 2 52)))

/-- The float nearest to an integer, ties to the even significand. -/
def integerFloat (n : Int64) : Float :=
  let x := nearestFloat n.toInt.natAbs 1
  if n.toInt < 0 then -x else x

theorem roundEven_exact (n : Nat) {den : Nat} (positive : 0 < den) : roundEven (n * den) den = n := by
  simp [roundEven, Nat.mul_div_cancel n positive, positive]

end FieldSelect
