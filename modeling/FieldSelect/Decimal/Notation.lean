import FieldSelect.Decimal.Shortest

/-! How floats are written: the shortest digits, placed by one record of layout decisions. -/
namespace FieldSelect

/-- The decisions of one way to write floats. -/
structure FloatLayout where
  tie : Tie
  /-- Whole numbers keep `.0`. -/
  keepsPoint : Bool
  /-- Decimal exponents written without an exponent; without bounds all are. -/
  plainExponents : Option (Int × Int)

/-- Plain text never has an exponent, drops a zero fraction, and rounds a tie away from zero. -/
def FloatLayout.plain : FloatLayout := ⟨.away, false, none⟩

/-- Document text has a point or an exponent, and rounds a tie to the even digit. -/
def FloatLayout.document : FloatLayout := ⟨.even, true, some (-5, 15)⟩

def zeros (n : Nat) : List Char := List.replicate n '0'

def FloatLayout.isPlain (layout : FloatLayout) (exponent : Int) : Bool :=
  match layout.plainExponents with
  | none => true
  | some (low, high) => low ≤ exponent && exponent ≤ high

def placePoint (layout : FloatLayout) (digits : List Char) (exponent : Int) : List Char :=
  let point := digits.length + exponent
  if 0 ≤ exponent then
    digits ++ zeros exponent.toNat ++ (if layout.keepsPoint then ['.', '0'] else [])
  else if 0 < point then
    digits.take point.toNat ++ '.' :: digits.drop point.toNat
  else
    '0' :: '.' :: zeros (-point).toNat ++ digits

/-- One digit stands before the point, and the exponent always carries its sign. -/
def placeExponent (digits : List Char) (exponent : Int) : List Char :=
  let mantissa :=
    match digits with
    | first :: second :: rest => first :: '.' :: second :: rest
    | few => few
  let power := digits.length + exponent - 1
  mantissa ++ 'e' :: (if power < 0 then '-' else '+') :: (toString power.natAbs).toList

def Decimal.write (d : Decimal) (layout : FloatLayout) : List Char :=
  let digits := (toString d.digits).toList
  if layout.isPlain (digits.length + d.exponent - 1) then placePoint layout digits d.exponent
  else placeExponent digits d.exponent

/-- The text of a finite float; zero keeps its sign. -/
def writeFinite (layout : FloatLayout) (x : Float) (magnitude : Binary) : String :=
  let unsigned :=
    if magnitude.significand = 0 then placePoint layout ['0'] 0
    else (magnitude.shortest layout.tie).write layout
  String.ofList (if signBit x then '-' :: unsigned else unsigned)

/-- A document has no text for floats that are not finite. -/
def FloatLayout.write? (layout : FloatLayout) (x : Float) : Option String :=
  (Binary.ofFloat? x).map (writeFinite layout x)

def floatText (x : Float) : String :=
  match FloatLayout.plain.write? x with
  | some text => text
  | none => if x.isNaN then "NaN" else if signBit x then "-inf" else "inf"

end FieldSelect
