import FieldSelect.Decimal.Binary

/-! Numbers read from decimal text. -/
namespace FieldSelect

/-- An integer that the 64-bit range can hold. -/
def narrow? (n : Int) : Option Int64 :=
  if -0x8000000000000000 ≤ n ∧ n < 0x8000000000000000 then some (Int64.ofInt n) else none

theorem narrow?_toInt (n : Int64) : narrow? n.toInt = some n := by
  have low := n.le_toInt
  have high := n.toInt_lt
  simp only [narrow?]
  rw [if_pos ⟨low, high⟩, Int64.ofInt_toInt]

def digitsValue (digits : List Char) : Nat :=
  digits.foldl (fun value c => 10 * value + (c.toNat - '0'.toNat)) 0

/-- The digits of a text up to its first other character, and the rest. -/
def spanDigits (text : List Char) : List Char × List Char := text.span Char.isDigit

/-- The float nearest to `digits * 10 ^ exponent`; exponents far out of range need no arithmetic. -/
def decimalFloat (digits : Nat) (exponent : Int) : Float :=
  if digits = 0 then 0.0
  else if 400 < exponent then Float.ofBits 0x7FF0000000000000
  else if exponent + (digits.log2 : Int) < -800 then 0.0
  else if 0 ≤ exponent then nearestFloat (digits * Nat.pow 10 exponent.toNat) 1
  else nearestFloat digits (Nat.pow 10 (-exponent).toNat)

/-- Digits with a fraction, read as one number. -/
def fractionFloat (whole fraction : List Char) (exponent : Int) : Float :=
  decimalFloat (digitsValue (whole ++ fraction)) (exponent - fraction.length)

def exponentOf? : List Char → Option Int
  | [] => some 0
  | e :: rest =>
    if e == 'e' || e == 'E' then
      let (negative, digits) :=
        match rest with
        | '-' :: digits => (true, digits)
        | '+' :: digits => (false, digits)
        | digits => (false, digits)
      if digits.isEmpty || !digits.all Char.isDigit then none
      else some (if negative then -(digitsValue digits : Int) else digitsValue digits)
    else none

def unsignedFloat? (text : List Char) : Option Float :=
  let word := (String.ofList text).toLower
  if word == "inf" || word == "infinity" then some (Float.ofBits 0x7FF0000000000000)
  else if word == "nan" then some (Float.ofBits 0x7FF8000000000000)
  else
    let (whole, rest) := spanDigits text
    let (fraction, rest) :=
      match rest with
      | '.' :: digits => spanDigits digits
      | other => ([], other)
    if whole.isEmpty && fraction.isEmpty then none
    else (exponentOf? rest).map (fractionFloat whole fraction)

/-- A signed decimal with an optional fraction and exponent, or a name of infinity or of no number. -/
def readFloat? (text : String) : Option Float :=
  match text.toList with
  | '-' :: rest => (unsignedFloat? rest).map fun x => -x
  | '+' :: rest => unsignedFloat? rest
  | rest => unsignedFloat? rest

end FieldSelect
