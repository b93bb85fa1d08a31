import FieldSelect.Json.Basic
import FieldSelect.Decimal.Reading

/-! Documents read from text. -/
namespace FieldSelect
namespace Json

inductive ReadError where
  | unexpectedEnd
  | unexpected (c : Char)
  | controlCharacter
  | invalidEscape
  | loneSurrogate
  | invalidNumber
  | numberOutOfRange
  | nestedTooDeep
  | trailingText
  deriving DecidableEq

def ReadError.message : ReadError → String
  | .unexpectedEnd => "unexpected end of input"
  | .unexpected c => "unexpected character '" ++ c.toString ++ "'"
  | .controlCharacter => "control character in a string"
  | .invalidEscape => "invalid escape"
  | .loneSurrogate => "lone surrogate in a string"
  | .invalidNumber => "invalid number"
  | .numberOutOfRange => "number out of range"
  | .nestedTooDeep => "nested too deeply"
  | .trailingText => "trailing characters"

/-- A reader answers what it read and the text that follows. -/
abbrev Reader (α : Type) := List Char → Except ReadError (α × List Char)

def isSpace (c : Char) : Bool := c == ' ' || c == '\n' || c == '\t' || c == '\r'

def skipSpace (text : List Char) : List Char := text.dropWhile isSpace

def refuse {α : Type} : List Char → Except ReadError α
  | [] => .error .unexpectedEnd
  | c :: _ => .error (.unexpected c)

/-! ### Numbers -/

def largestSignificand : Nat := Nat.pow 2 64 - 1

/-- Digits join the significand until one more would leave 64 bits; the remaining digits are handed back. -/
def gather (significand : Nat) : List Char → Nat × List Char
  | [] => (significand, [])
  | c :: rest =>
    let next := 10 * significand + (c.toNat - '0'.toNat)
    if next ≤ largestSignificand then gather next rest else (significand, c :: rest)

/-- The largest power of ten that a float holds. -/
def topPower : Nat := 308

/-- Divided by one power of ten, after as many of the largest ones as it takes; zero stays. -/
def shrink (x : Float) (power : Nat) : Float :=
  if power ≤ topPower then x / decimalFloat 1 power
  else if x == 0.0 then x
  else shrink (x / decimalFloat 1 topPower) (power - topPower)
termination_by power
decreasing_by simp only [topPower] at *; omega

/-- The significand is rounded first and scaled by one multiplication or division, which may round again. -/
def scaleSignificand (significand : Nat) (exponent : Int) : Except ReadError Float :=
  let x := (UInt64.ofNat significand).toFloat
  if exponent < 0 then .ok (shrink x (-exponent).toNat)
  else if exponent ≤ topPower then
    let scaled := x * decimalFloat 1 exponent
    if scaled.isFinite then .ok scaled else .error .numberOutOfRange
  else if significand = 0 then .ok 0.0
  else .error .numberOutOfRange

def withExponent (significand : Nat) (exponent : Int) : Reader Float
  | e :: text =>
    if e == 'e' || e == 'E' then do
      let (negative, text) :=
        match text with
        | '-' :: rest => (true, rest)
        | '+' :: rest => (false, rest)
        | rest => (false, rest)
      let (digits, rest) := spanDigits text
      if digits.isEmpty then refuse rest
      else
        let power := digitsValue digits
        if power < Nat.pow 2 31 then
          let x ← scaleSignificand significand (if negative then exponent - power else exponent + power)
          pure (x, rest)
        else if significand = 0 || negative then pure (0.0, rest)
        else throw .numberOutOfRange
    else return (← scaleSignificand significand exponent, e :: text)
  | [] => return (← scaleSignificand significand exponent, [])

/-- Fraction digits past the significand's range are read over. -/
def withFraction (significand : Nat) (exponent : Int) (text : List Char) :
    Except ReadError (Float × List Char) :=
  let (digits, rest) := spanDigits text
  if digits.isEmpty then refuse rest
  else
    let (significand, dropped) := gather significand digits
    withExponent significand (exponent - (digits.length - dropped.length : Nat)) rest

def signed (negative : Bool) (x : Float) : Json := .float (if negative then -x else x)

/-- Whole numbers beyond the integers, and negative zero, become floats. -/
def wholeNumber (negative : Bool) (significand : Nat) : Json :=
  if !negative then .integer significand
  else if significand = 0 ∨ Nat.pow 2 63 < significand then signed true (UInt64.ofNat significand).toFloat
  else .integer (-significand)

def readNumber (negative : Bool) (text : List Char) : Except ReadError (Json × List Char) := do
  let (digits, rest) := spanDigits text
  match digits with
  | [] => refuse rest
  | first :: more =>
    if first == '0' && !more.isEmpty then throw .invalidNumber
    let (significand, dropped) := gather 0 digits
    match rest with
    | '.' :: after =>
      let (x, rest) ← withFraction significand dropped.length after
      pure (signed negative x, rest)
    | rest =>
      let exponentFollows := rest.head? == some 'e' || rest.head? == some 'E'
      if dropped.isEmpty && !exponentFollows then pure (wholeNumber negative significand, rest)
      else
        let (x, rest) ← withExponent significand dropped.length rest
        pure (signed negative x, rest)

/-! ### Strings -/

def hexValue? (c : Char) : Option Nat :=
  if c.isDigit then some (c.toNat - '0'.toNat)
  else if 'a' ≤ c ∧ c ≤ 'f' then some (c.toNat - 'a'.toNat + 10)
  else if 'A' ≤ c ∧ c ≤ 'F' then some (c.toNat - 'A'.toNat + 10)
  else none

def unit? (a b c d : Char) : Option Nat := do
  return (((← hexValue? a) * 16 + (← hexValue? b)) * 16 + (← hexValue? c)) * 16 + (← hexValue? d)

def simpleEscape? : Char → Option Char
  | '"' => some '"'
  | '\\' => some '\\'
  | '/' => some '/'
  | 'b' => some '\x08'
  | 'f' => some '\x0c'
  | 'n' => some '\n'
  | 'r' => some '\r'
  | 't' => some '\t'
  | _ => none

def push (c : Char) : Except ReadError (List Char × List Char) → Except ReadError (List Char × List Char) :=
  Except.map fun (chars, rest) => (c :: chars, rest)

/-- The characters up to the closing quote; `high` is a first surrogate that waits for its second. -/
def readChars : Option Nat → Reader (List Char)
  | none, '"' :: rest => .ok ([], rest)
  | none, '\\' :: 'u' :: a :: b :: c :: d :: rest =>
    match unit? a b c d with
    | none => .error .invalidEscape
    | some unit =>
      if 0xDC00 ≤ unit ∧ unit < 0xE000 then .error .loneSurrogate
      else if 0xD800 ≤ unit ∧ unit < 0xDC00 then readChars (some unit) rest
      else push (Char.ofNat unit) (readChars none rest)
  | none, '\\' :: e :: rest =>
    match simpleEscape? e with
    | some c => push c (readChars none rest)
    | none => .error .invalidEscape
  | some high, '\\' :: 'u' :: a :: b :: c :: d :: rest =>
    match unit? a b c d with
    | none => .error .invalidEscape
    | some low =>
      if 0xDC00 ≤ low ∧ low < 0xE000 then
        push (Char.ofNat (0x10000 + (high - 0xD800) * 0x400 + (low - 0xDC00))) (readChars none rest)
      else .error .loneSurrogate
  | some _, _ => .error .loneSurrogate
  | none, [] => .error .unexpectedEnd
  | none, c :: rest =>
    if c == '\\' then .error .unexpectedEnd
    else if c.toNat < 32 then .error .controlCharacter
    else push c (readChars none rest)

def readText : Reader String := fun text =>
  (readChars none text).map fun (chars, rest) => (String.ofList chars, rest)

/-! ### Values -/

/-- Items up to the closing bracket; each one takes text, so the length of the text bounds the steps. -/
def readItems (element : Reader Json) : Nat → Reader (List Json)
  | 0, _ => .error .unexpectedEnd
  | steps + 1, text => do
    let (item, rest) ← element text
    match skipSpace rest with
    | ',' :: rest =>
      let (items, rest) ← readItems element steps rest
      pure (item :: items, rest)
    | ']' :: rest => pure ([item], rest)
    | other => refuse other

def readEntry (element : Reader Json) (text : List Char) :
    Except ReadError ((String × Json) × List Char) := do
  match skipSpace text with
  | '"' :: rest =>
    let (key, rest) ← readText rest
    match skipSpace rest with
    | ':' :: rest =>
      let (value, rest) ← element rest
      pure ((key, value), rest)
    | other => refuse other
  | other => refuse other

def readEntries (element : Reader Json) : Nat → Reader (List (String × Json))
  | 0, _ => .error .unexpectedEnd
  | steps + 1, text => do
    let (entry, rest) ← readEntry element text
    match skipSpace rest with
    | ',' :: rest =>
      let (entries, rest) ← readEntries element steps rest
      pure (entry :: entries, rest)
    | '\x7d' :: rest => pure ([entry], rest)
    | other => refuse other

/-- One value, whose parts are read by `element`; without it no part may be nested any deeper. -/
def readWith (element : Option (Reader Json)) (text : List Char) :
    Except ReadError (Json × List Char) := do
  match skipSpace text, element with
  | '[' :: _, none | '\x7b' :: _, none => throw .nestedTooDeep
  | '[' :: rest, some element =>
    match skipSpace rest with
    | ']' :: rest => pure (.array [], rest)
    | rest =>
      let (items, rest) ← readItems element rest.length rest
      pure (.array items, rest)
  | '\x7b' :: rest, some element =>
    match skipSpace rest with
    | '\x7d' :: rest => pure (.object [], rest)
    | rest =>
      let (entries, rest) ← readEntries element rest.length rest
      pure (.object (Entries.ofPairs entries), rest)
  | '"' :: rest, _ =>
    let (chars, rest) ← readText rest
    pure (.string chars, rest)
  | 'n' :: 'u' :: 'l' :: 'l' :: rest, _ => pure (.null, rest)
  | 't' :: 'r' :: 'u' :: 'e' :: rest, _ => pure (.boolean true, rest)
  | 'f' :: 'a' :: 'l' :: 's' :: 'e' :: rest, _ => pure (.boolean false, rest)
  | '-' :: rest, _ => readNumber true rest
  | rest, _ => readNumber false rest

def readValue : Nat → Reader Json
  | 0 => readWith none
  | levels + 1 => readWith (some (readValue levels))

/-- Arrays and objects may stand inside one another this many times. -/
def nestingLimit : Nat := 127

/-- A text is one value with blanks around it. -/
def read (text : String) : Except ReadError Json := do
  let (document, rest) ← readValue nestingLimit text.toList
  match skipSpace rest with
  | [] => pure document
  | _ => throw .trailingText

end Json
end FieldSelect
