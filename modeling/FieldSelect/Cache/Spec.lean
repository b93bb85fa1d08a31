import FieldSelect.Decimal.Reading
import FieldSelect.Text.Blank
import FieldSelect.Text.Pieces

/-! How much a cache keeps and for how long, read from texts such as `maximumSize=500,expireAfterWrite=10m`. -/
namespace FieldSelect

/-- Times are counted in milliseconds. The initial capacity changes nothing but the text. -/
structure CacheSpec where
  maximumSize : Option Nat
  initialCapacity : Option Nat
  expireAfterAccess : Option Nat
  expireAfterWrite : Option Nat
  deriving DecidableEq

/-- What is wrong with the text of a spec. -/
inductive SpecFault where
  | notKeyValue (part : String)
  | repeatedKey (key : String)
  | unknownKey (key : String)
  | notCount (text : String)
  | notDuration (text : String)
  | unknownUnit (unit : String)
  deriving DecidableEq

structure SpecError where
  spec : String
  fault : SpecFault
  deriving DecidableEq

def SpecFault.message : SpecFault → String
  | .notKeyValue part => "expected key=value, got '" ++ part ++ "'"
  | .repeatedKey key => "'" ++ key ++ "' given more than once"
  | .unknownKey key => "unknown key '" ++ key ++ "'"
  | .notCount text => "'" ++ text ++ "' is not a non-negative integer"
  | .notDuration text => "'" ++ text ++ "' is not a duration"
  | .unknownUnit unit => "unknown duration unit '" ++ unit ++ "'"

def SpecError.message (error : SpecError) : String :=
  "Invalid cache spec '" ++ error.spec ++ "': " ++ error.fault.message

namespace CacheSpec

def unbounded : CacheSpec := ⟨none, none, none, none⟩

/-- The spec used where none is given. -/
def standard : CacheSpec := { unbounded with maximumSize := some 1000 }

def isBounded (spec : CacheSpec) : Bool :=
  spec.maximumSize.isSome || spec.expireAfterAccess.isSome || spec.expireAfterWrite.isSome

def text (spec : CacheSpec) : String :=
  let part (key unit : String) (value : Option Nat) : List String :=
    value.toList.map fun n => key ++ "=" ++ toString n ++ unit
  ",".intercalate <|
    part "maximumSize" "" spec.maximumSize ++ part "initialCapacity" "" spec.initialCapacity ++
      part "expireAfterAccess" "ms" spec.expireAfterAccess ++
      part "expireAfterWrite" "ms" spec.expireAfterWrite

/-! ### Reading -/

/-- The largest number of 64 bits. -/
def largestCount : Nat := Nat.pow 2 64 - 1

/-- Digits alone, and no more than 64 bits hold. -/
def readDigits? (text : List Char) : Option Nat :=
  if text.isEmpty || !text.all Char.isDigit then none
  else if digitsValue text ≤ largestCount then some (digitsValue text)
  else none

/-- A count may have a plus sign in front. -/
def readCount (text : String) : Except SpecFault Nat :=
  let digits :=
    match text.toList with
    | '+' :: rest => rest
    | rest => rest
  match readDigits? digits with
  | some n => .ok n
  | none => .error (.notCount text)

/-- The seconds in a minute, an hour and a day. -/
def secondsIn? : String → Option Nat
  | "m" => some 60
  | "h" => some (60 * 60)
  | "d" => some (24 * 60 * 60)
  | _ => none

/-- Digits and a unit; seconds need none. Long units are held at the largest number of seconds. -/
def readDuration (text : String) : Except SpecFault Nat :=
  let digits := text.toList.takeWhile Char.isDigit
  let unit := String.ofList (text.toList.dropWhile Char.isDigit)
  match readDigits? digits with
  | none => .error (.notDuration text)
  | some amount =>
    if unit = "ms" then .ok amount
    else if unit = "" ∨ unit = "s" then .ok (1000 * amount)
    else
      match secondsIn? unit with
      | some seconds => .ok (1000 * min (amount * seconds) largestCount)
      | none => .error (.unknownUnit unit)

/-- A key may be set once; that is checked before its value is read. -/
def once (key : String) (current : Option Nat) (value : Except SpecFault Nat)
    (set : Option Nat → CacheSpec) : Except SpecFault CacheSpec :=
  if current.isSome then .error (.repeatedKey key) else value.map fun n => set (some n)

def readPart (spec : CacheSpec) (part : List Char) : Except SpecFault CacheSpec :=
  match splitOnce? '=' part with
  | none => .error (.notKeyValue (String.ofList part))
  | some (before, after) =>
    let key := String.ofList (trimBlank before)
    let value := String.ofList (trimBlank after)
    match key with
    | "maximumSize" => once key spec.maximumSize (readCount value) fun n => { spec with maximumSize := n }
    | "initialCapacity" =>
      once key spec.initialCapacity (readCount value) fun n => { spec with initialCapacity := n }
    | "expireAfterAccess" =>
      once key spec.expireAfterAccess (readDuration value) fun n => { spec with expireAfterAccess := n }
    | "expireAfterWrite" =>
      once key spec.expireAfterWrite (readDuration value) fun n => { spec with expireAfterWrite := n }
    | other => .error (.unknownKey other)

/-- Parts apart by commas, blank ones left out. -/
def parts (text : String) : List (List Char) :=
  ((pieces [','] text.toList).map trimBlank).filter fun part => !part.isEmpty

def read (text : String) : Except SpecError CacheSpec :=
  ((parts text).foldlM readPart unbounded).mapError fun fault => ⟨text, fault⟩

end CacheSpec
end FieldSelect
