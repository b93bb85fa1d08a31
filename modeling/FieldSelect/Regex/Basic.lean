import FieldSelect.Text.CharSet

/-! Regular expressions with anchors, and where in a text a match can end. -/
namespace FieldSelect

/-- A place in a text: how many characters stand before it, the nearest of them, and what follows. -/
structure Spot where
  index : Nat
  before : Option Char
  rest : List Char

namespace Spot

def start (text : List Char) : Spot := ⟨0, none, text⟩

/-- All places of a text from this one on. -/
def onward (index : Nat) (before : Option Char) : List Char → List Spot
  | [] => [⟨index, before, []⟩]
  | c :: rest => ⟨index, before, c :: rest⟩ :: onward (index + 1) (some c) rest

def all (text : List Char) : List Spot := (onward 0 none text).reverse

def next (spot : Spot) : Option Char := spot.rest.head?

/-- A place takes its turn among those in order of their index, the last of them first, in the stead of one
with the same index; what comes behind it is left to `more`. -/
def insertThen (spot : Spot) (more : List Spot → List Spot) : List Spot → List Spot
  | [] => spot :: more []
  | other :: others =>
    if spot.index < other.index then other :: insertThen spot more others
    else if other.index = spot.index then spot :: more others
    else spot :: more (other :: others)

/-- Places of one text, the last of them first, each of them once. -/
def union : List Spot → List Spot → List Spot
  | [] => id
  | spot :: rest => insertThen spot (union rest)

/-- A place is kept unless one of the others has its index; the places behind it are left to `more`. -/
def keepThen (spot : Spot) (more : List Spot → List Spot) : List Spot → List Spot
  | [] => spot :: more []
  | other :: others =>
    if spot.index < other.index then keepThen spot more others
    else if other.index = spot.index then more others
    else spot :: more (other :: others)

/-- The places of the first list that are not in the second. -/
def without : List Spot → List Spot → List Spot
  | [] => fun _ => []
  | spot :: rest => keepThen spot (without rest)

/-- The place behind the next character, if that is one of a set. -/
def step? (set : CharSet) (spot : Spot) : Option Spot :=
  match spot.rest with
  | c :: rest => if set.holds c then some ⟨spot.index + 1, some c, rest⟩ else none
  | [] => none

end Spot

/-- Conditions on a place that take no character. -/
inductive Look where
  | textStart
  | textEnd
  | lineStart
  | lineEnd
  | lineStartCRLF
  | lineEndCRLF
  | boundary (word : CharSet)
  | notBoundary (word : CharSet)
  | wordStart (word : CharSet)
  | wordEnd (word : CharSet)
  | wordStartHalf (word : CharSet)
  | wordEndHalf (word : CharSet)
  deriving DecidableEq

def Look.holds (look : Look) (spot : Spot) : Bool :=
  match look with
  | .textStart => spot.before.isNone
  | .textEnd => spot.rest.isEmpty
  | .lineStart => spot.before.isNone || spot.before == some '\n'
  | .lineEnd => spot.rest.isEmpty || spot.next == some '\n'
  | .lineStartCRLF =>
    spot.before.isNone || spot.before == some '\n' ||
      (spot.before == some '\r' && spot.next != some '\n')
  | .lineEndCRLF =>
    spot.rest.isEmpty || spot.next == some '\r' ||
      (spot.next == some '\n' && spot.before != some '\r')
  | .boundary word => spot.before.any word.holds != spot.next.any word.holds
  | .notBoundary word => spot.before.any word.holds == spot.next.any word.holds
  | .wordStart word => !spot.before.any word.holds && spot.next.any word.holds
  | .wordEnd word => spot.before.any word.holds && !spot.next.any word.holds
  | .wordStartHalf word => !spot.before.any word.holds
  | .wordEndHalf word => !spot.next.any word.holds

/-- A group may keep what it matched; a repetition without an upper bound may go on for ever. -/
inductive Regex where
  | empty
  | oneOf (set : CharSet)
  | look (condition : Look)
  | seq (first second : Regex)
  | alt (first second : Regex)
  | grouped (keeps : Bool) (body : Regex)
  | repeated (body : Regex) (low : Nat) (high : Option Nat)

namespace Regex

/-- The places reached so far, and all that at most so many more steps reach from the newest of them. -/
def closure (step : List Spot → List Spot) : Nat → List Spot → List Spot → List Spot
  | 0, _, reached => reached
  | rounds + 1, newest, reached =>
    match Spot.without (step newest) reached with
    | [] => reached
    | more => closure step rounds more (Spot.union more reached)

/-- All places reached by exactly `rounds` steps. -/
def iterate (step : List Spot → List Spot) : Nat → List Spot → List Spot
  | 0, spots => spots
  | rounds + 1, spots => iterate step rounds (step spots)

/-- The places where a match can end that starts at one of the given places, in a text of at most `length`
characters. More rounds of a repetition than characters must hold an empty one, and empty rounds can be
added and dropped at will. -/
def ends (length : Nat) : Regex → List Spot → List Spot
  | .empty, spots => spots
  | .oneOf set, spots => spots.filterMap (Spot.step? set)
  | .look condition, spots => spots.filter condition.holds
  | .seq first second, spots => second.ends length (first.ends length spots)
  | .alt first second, spots => Spot.union (first.ends length spots) (second.ends length spots)
  | .grouped _ body, spots => body.ends length spots
  | .repeated body low high, spots =>
    let required := iterate (body.ends length) (min low (length + 1)) spots
    let rounds := high.elim (length + 1) fun high => min (high - low) (length + 1)
    closure (body.ends length) rounds required required

/-- Some part of the text matches, be it empty. -/
def isMatch (regex : Regex) (text : String) : Bool :=
  let chars := text.toList
  !(regex.ends chars.length (Spot.all chars)).isEmpty

/-- Parts one after the other. -/
def sequence : List Regex → Regex
  | [] => .empty
  | [part] => part
  | part :: rest => .seq part (sequence rest)

/-- One of several branches. -/
def choice : List Regex → Regex
  | [] => .empty
  | [branch] => branch
  | branch :: rest => .alt branch (choice rest)

end Regex
end FieldSelect
