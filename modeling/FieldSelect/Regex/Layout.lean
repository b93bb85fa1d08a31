import Std.Data.TreeMap
import FieldSelect.Regex.Plan

/-! The room that a plan takes as a program of states that read a byte each. There are two programs: one reads
a text forwards and finds where a match ends, the other reads it backwards and finds where it begins. -/
namespace FieldSelect
namespace Regex

/-- A program built so far: its states, and the bytes for what some of them hold beyond their own size. -/
structure Layout where
  states : Nat
  extra : Nat

/-- A part of a program, which goes on from its last state; that may be a fork, with a list of ways on. -/
structure Segment where
  layout : Layout
  forks : Bool

namespace Layout

def stateBytes : Nat := 32

/-- A step from a state that has several of them. -/
def stepBytes : Nat := 8

/-- A way on from a fork. -/
def wayBytes : Nat := 4

def bytes (layout : Layout) : Nat := stateBytes * layout.states + layout.extra

def sizeLimit : Nat := 10485760

/-- More states, and more bytes beside them, as long as all of it stays in the limit. -/
def grow (layout : Layout) (states extra : Nat) : Option Layout :=
  let grown : Layout := ⟨layout.states + states, layout.extra + extra⟩
  if sizeLimit < grown.bytes then none else some grown

theorem bytes_le_of_grow {layout grown : Layout} {states extra : Nat}
    (grows : layout.grow states extra = some grown) : grown.bytes ≤ sizeLimit := by
  simp only [grow, Option.ite_none_left_eq_some, Option.some.injEq] at grows
  obtain ⟨small, rfl⟩ := grows
  exact Nat.not_lt.1 small

end Layout

namespace Segment

/-- What follows is one more way on, if the last state is a fork. -/
def follow (segment : Segment) : Option Layout :=
  segment.layout.grow 0 (if segment.forks then Layout.wayBytes else 0)

/-- More states in front of what follows. -/
def close (segment : Segment) (states extra : Nat) : Option Layout := do
  (← segment.follow).grow states extra

/-- Copies of a part, each in front of the next. -/
def copies (part : Layout → Option Segment) : Nat → Segment → Option Segment
  | 0, segment => some segment
  | count + 1, segment => do copies part count (← part (← segment.follow))

/-- Copies of a part, with a fork before each of them that can leave out all the rest. -/
def optionalCopies (part : Layout → Option Segment) : Nat → Segment → Option Segment
  | 0, segment => some segment
  | count + 1, segment => do
    optionalCopies part count (← part (← segment.close 1 (2 * Layout.wayBytes)))

end Segment

namespace Layout

/-- No copy at all takes a state that reads nothing. -/
def exactly (part : Layout → Option Segment) : Nat → Layout → Option Segment
  | 0, layout => do return ⟨← layout.grow 1 0, false⟩
  | count + 1, layout => do Segment.copies part count (← part layout)

/-! ### Sets of characters -/

/-- States made for one set, to be used again: each has its slot by a hash of what it does, and keeps it until
another one takes it. -/
abbrev States := Std.TreeMap UInt64 (List Nat × Nat)

/-- Numbers mixed into one, each of them by an exclusive or and a product. -/
def hash (parts : List Nat) : UInt64 :=
  parts.foldl (fun hash part => (hash ^^^ part.toUInt64) * 1099511628211) 14695981039346656037

def forwardSlots : UInt64 := 10000

def backwardSlots : UInt64 := 1000

/-- The state that does what some numbers say; it is made unless its slot holds it. -/
def shareState (slots : UInt64) (parts : List Nat) (extra : Nat) (layout : Layout) (made : States) :
    Option (Nat × Layout × States) :=
  let slot := hash parts % slots
  match made[slot]? with
  | some (held, state) => if held == parts then some (state, layout, made) else fresh slot
  | none => fresh slot
where
  fresh (slot : UInt64) : Option (Nat × Layout × States) := do
    let grown ← layout.grow 1 extra
    return (layout.states, grown, made.insert slot (parts, layout.states))

/-- The state that reads one of some sequences of bytes and then goes on to a target: states behind it come
first, and sequences that begin with the same range share the step through it. -/
def readSequences (target : Nat) : Nat → List (List Utf8.ByteRange) → Layout → States →
    Option (Nat × Layout × States)
  | 0, _, layout, made => some (target, layout, made)
  | depth + 1, sequences, layout, made => do
    let groups := sequences.splitBy fun first second => first.head? == second.head?
    let (steps, layout, made) ← groups.foldlM (fun (steps, layout, made) group =>
      match group.head? with
      | some (range :: rest) => do
        let (next, layout, made) ←
          if rest.isEmpty then some (target, layout, made)
          else readSequences target depth (group.map List.tail) layout made
        return (next :: range.last :: range.first :: steps, layout, made)
      | _ => some (steps, layout, made)) (([] : List Nat), layout, made)
    shareState forwardSlots steps.reverse (stepBytes * groups.length) layout made

/-- Backwards, a fork leads to the last byte of every sequence, and each state to that of the byte before it. -/
def readBackwards (target : Nat) (sequence : List Utf8.ByteRange) (layout : Layout) (made : States) :
    Option (Layout × States) := do
  let (_, layout, made) ← sequence.foldlM (fun (next, layout, made) range =>
    shareState backwardSlots [next, range.first, range.last] 0 layout made) (target, layout, made)
  return (← layout.grow 0 wayBytes, made)

/-- No character takes more bytes. -/
def longestSequence : Nat := 4

/-- Members among the first 128 characters need a single state that reads a byte. -/
def ofSet (backward : Bool) (set : CharSet) (layout : Layout) : Option Segment := do
  if set.isBelow 128 then
    return ⟨← layout.grow 2 (stepBytes * set.ranges.length), false⟩
  let sequences := Utf8.sequences set
  if backward then
    let target := layout.states + 1
    let (layout, _) ← sequences.foldlM (fun (layout, made) sequence =>
      readBackwards target sequence layout made) (← layout.grow 2 0, (∅ : States))
    return ⟨layout, false⟩
  else
    let (_, layout, _) ← readSequences layout.states longestSequence sequences (← layout.grow 1 0) ∅
    return ⟨layout, false⟩

/-! ### Choices between texts -/

/-- Words one after the other, parted where one of them ends; words that end first of all count once. -/
def endings (words : List (List Nat)) : List (List (List Nat)) :=
  let ended := words.takeWhile List.isEmpty
  (ended.take 1 ++ words.drop ended.length).foldr (fun word parts =>
    match word, parts with
    | _ :: _, part :: rest => (word :: part) :: rest
    | _, parts => [] :: parts) [[]]

/-- The words behind each of the letters that some words begin with. -/
def byFirst (words : List (List Nat)) : List (List (List Nat)) :=
  (words.filterMap List.head?).eraseDups.map fun first =>
    words.filterMap fun word => if word.head? == some first then word.tail? else none

/-- States that tell words apart letter by letter. Where some go on there is a fork: a way for the letters up
to each place where a word ends, and one for each such end. -/
def readWords : Nat → List (List Nat) → Layout → Option Layout
  | 0, _, layout => some layout
  | depth + 1, words, layout =>
    if words.all List.isEmpty then some layout
    else do
      let parts := endings words
      let steps := (parts.filter fun part => !part.isEmpty).map byFirst
      let layout ← steps.foldlM (fun layout groups => do
        let layout ← layout.grow 1 (if groups.length == 1 then 0 else stepBytes * groups.length)
        groups.foldlM (fun layout group => readWords depth group layout) layout) layout
      layout.grow 1 (wayBytes * (steps.length + (parts.length - 1)))

end Layout

namespace Plan

def bytes (points : List Nat) : List Nat := points.flatMap Utf8.encode

def text? : Plan → Option (List Nat)
  | .text points => some (bytes points)
  | _ => none

mutual

/-- A plan behind the states of a program. In a repetition, a fork stands before what may be left out, and one
behind what may come once more. -/
def layOut (backward : Bool) : Plan → Layout → Option Segment
  | .empty, layout | .look _, layout => do return ⟨← layout.grow 1 0, false⟩
  | .text points, layout => do return ⟨← layout.grow (bytes points).length 0, false⟩
  | .oneOf set, layout => layout.ofSet backward set
  | .kept body, layout => do
    if backward then layOut backward body layout
    else
      let segment ← layOut backward body (← layout.grow 1 0)
      return ⟨← segment.close 1 0, false⟩
  | .inOrder parts, layout => layOutParts backward parts layout
  | .anyOf branches, layout => do
    match branches.mapM text? with
    | some words =>
      let words := if backward then words.map List.reverse else words
      let longest := (words.map List.length).foldl max 0
      return ⟨← Layout.readWords (longest + 1) words (← layout.grow 1 0), false⟩
    | none => return ⟨← layOutBranches backward 0 branches layout, false⟩
  | .repeated body low high, layout => do
    let part := layOut backward body
    match low, high with
    | 0, some 1 =>
      let segment ← part (← layout.grow 1 0)
      return ⟨← segment.close 1 (2 * Layout.wayBytes), false⟩
    | 0, none =>
      if (extent body).least.any (0 < ·) then
        let segment ← part (← layout.grow 1 0)
        return ⟨← segment.close 0 Layout.wayBytes, true⟩
      else
        let segment ← part layout
        return ⟨← segment.close 3 (4 * Layout.wayBytes), false⟩
    | low, none =>
      let segment ← Layout.exactly part low layout
      return ⟨← segment.close 1 Layout.wayBytes, true⟩
    | low, some high =>
      let segment ← Layout.exactly part low layout
      if low == high then return segment
      let segment ← Segment.optionalCopies part (high - low) ⟨← segment.layout.grow 1 0, segment.forks⟩
      return ⟨← segment.follow, false⟩

/-- Backwards the last part comes first. -/
def layOutParts (backward : Bool) : List Plan → Layout → Option Segment
  | [], layout => some ⟨layout, false⟩
  | [part], layout => layOut backward part layout
  | part :: rest, layout => do
    if backward then
      let segment ← layOutParts backward rest layout
      layOut backward part (← segment.follow)
    else
      let segment ← layOut backward part layout
      layOutParts backward rest (← segment.follow)

/-- The fork before the branches and the state behind them are made once there are two branches. -/
def layOutBranches (backward : Bool) (before : Nat) : List Plan → Layout → Option Layout
  | [], layout => some layout
  | branch :: rest, layout => do
    let segment ← layOut backward branch layout
    let layout ← segment.close (if before == 1 then 2 else 0) Layout.wayBytes
    layOutBranches backward (before + 1) rest layout

end

/-- A loop passes over the text in front of a match, unless it is known where a match begins. -/
def start (anchored : Bool) : Layout :=
  if anchored then ⟨1, 0⟩ else ⟨3, 2 * Layout.wayBytes + Layout.stepBytes⟩

/-- The program that reads forwards; the whole match is kept like a group, and the last state reports it. -/
def forwards (plan : Plan) : Option Layout := do
  let segment ← layOut false (.kept plan) (start (extent plan).fromStart)
  segment.close 1 0

/-- The program that reads backwards; no groups are kept. -/
def backwards (plan : Plan) : Option Layout := do
  let segment ← layOut true plan (start (extent plan).toEnd)
  segment.close 1 0

end Plan

/-- The programs of an expression stay in the limit of their size. -/
def fits (regex : Regex) : Bool :=
  let plan := Plan.ofRegex regex
  plan.forwards.isSome && plan.backwards.isSome

end Regex
end FieldSelect
