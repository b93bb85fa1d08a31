import FieldSelect.Regex.Basic
import FieldSelect.Text.Utf8

/-! Plans: regular expressions in the simplest form that is made into a program. Texts are joined, branches
that are sets become one set, and what all branches begin with stands in front of them once. -/
namespace FieldSelect
namespace Regex

/-- A sequence has at least two parts and a choice at least two branches; neither has another one of its
kind directly in it. -/
inductive Plan where
  | empty
  | text (points : List Nat)
  | oneOf (set : CharSet)
  | look (condition : Look)
  | kept (body : Plan)
  | inOrder (parts : List Plan)
  | anyOf (branches : List Plan)
  | repeated (body : Plan) (low : Nat) (high : Option Nat)

/-- How many bytes a match takes at least and at most, if it is bounded and there can be one, and whether
it has to begin where the text does and to end where the text does. -/
structure Extent where
  least : Option Nat
  most : Option Nat
  fromStart : Bool
  toEnd : Bool

namespace Extent

def ofBytes (least most : Option Nat) : Extent := ⟨least, most, false, false⟩

/-- A condition on a place holds of the outermost parts up to the first that takes a character. -/
def outermost (condition : Extent → Bool) : List Extent → Bool
  | [] => false
  | part :: rest => condition part || (part.most == some 0 && outermost condition rest)

def total (bytes : List Nat) : Nat := bytes.foldr (· + ·) 0

def inOrder (parts : List Extent) : Extent :=
  ⟨(parts.mapM least).map total, (parts.mapM most).map total, outermost fromStart parts,
    outermost toEnd parts.reverse⟩

def anyOf (branches : List Extent) : Extent :=
  ⟨(branches.mapM least).bind List.min?, (branches.mapM most).bind List.max?,
    branches.all fromStart, branches.all toEnd⟩

def repeated (body : Extent) (low : Nat) (high : Option Nat) : Extent :=
  ⟨body.least.map (low * ·), high.bind fun high => body.most.map (high * ·),
    0 < low && body.fromStart, 0 < low && body.toEnd⟩

end Extent

namespace Plan

mutual

def extent : Plan → Extent
  | .empty => .ofBytes (some 0) (some 0)
  | .text points =>
    let length := (points.map fun point => (Utf8.encode point).length).sum
    .ofBytes (some length) (some length)
  | .oneOf set =>
    .ofBytes (set.ranges.head?.map fun range => (Utf8.encode range.1).length)
      (set.ranges.getLast?.map fun range => (Utf8.encode range.2).length)
  | .look condition => ⟨some 0, some 0, condition == .textStart, condition == .textEnd⟩
  | .kept body => extent body
  | .inOrder parts => .inOrder (extents parts)
  | .anyOf branches => .anyOf (extents branches)
  | .repeated body low high => (extent body).repeated low high

def extents : List Plan → List Extent
  | [] => []
  | plan :: rest => extent plan :: extents rest

end

mutual

/-- Plans that can stand for each other; no two groups can, since each keeps a match of its own. -/
def same : Plan → Plan → Bool
  | .empty, .empty => true
  | .text first, .text second => first == second
  | .oneOf first, .oneOf second => first == second
  | .look first, .look second => first == second
  | .inOrder first, .inOrder second => sameAll first second
  | .anyOf first, .anyOf second => sameAll first second
  | .repeated first low high, .repeated second low' high' =>
    low == low' && high == high' && same first second
  | _, _ => false

def sameAll : List Plan → List Plan → Bool
  | [], [] => true
  | first :: firsts, second :: seconds => same first second && sameAll firsts seconds
  | _, _ => false

end

/-- A set with one member is a text. -/
def ofSet (set : CharSet) : Plan :=
  let set := set.inter Utf8.encodable
  match set.only? with
  | some point => .text [point]
  | none => .oneOf set

/-- A part in front of others; texts that meet become one. -/
def inFront : Plan → List Plan → List Plan
  | .text first, .text second :: rest => .text (first ++ second) :: rest
  | part, rest => part :: rest

/-- The parts of a sequence; anything else that takes a place is its only part. -/
def parts : Plan → List Plan
  | .empty => []
  | .inOrder parts => parts
  | part => [part]

def ofParts : List Plan → Plan
  | [] => .empty
  | [part] => part
  | parts => .inOrder parts

/-- Some parts, and behind them a plan. -/
def before (parts : List Plan) (plan : Plan) : Plan := ofParts (parts.foldr inFront plan.parts)

def branches : Plan → List Plan
  | .anyOf branches => branches
  | branch => [branch]

def character? : Plan → Option CharSet
  | .text [point] => some ⟨[point, point + 1]⟩
  | _ => none

def set? : Plan → Option CharSet
  | .oneOf set => some set
  | _ => none

/-- One of several branches. Characters alone, and sets alone, make one set. -/
def oneBranch (plans : List Plan) : Plan :=
  match plans.flatMap branches with
  | [branch] => branch
  | branches =>
    match branches.mapM character? <|> branches.mapM set? with
    | some sets => ofSet (CharSet.join sets)
    | none => .anyOf branches

/-- The parts of a branch that others may begin with too. -/
def opening : Plan → List Plan
  | .inOrder parts => parts
  | _ => []

/-- The parts that two sequences have in common at their beginning. -/
def commonOpening (first second : List Plan) : List Plan :=
  ((first.zip second).takeWhile fun (first, second) => same first second).map Prod.fst

/-- What all branches begin with stands once in front of what is left of them. -/
def choice : List Plan → Plan
  | [plan] => plan
  | plans =>
    let branches := plans.flatMap branches
    let openings := branches.map opening
    match openings.tail.foldl commonOpening (openings.headD []) with
    | [] => oneBranch branches
    | shared => before shared (oneBranch (openings.map fun parts => ofParts (parts.drop shared.length)))

/-- What takes no character is repeated once at most; no repetition at all is nothing, and a single one is
the body itself. -/
def repeatedly (body : Plan) (low : Nat) (high : Option Nat) : Plan :=
  let (low, high) :=
    if (extent body).most == some 0 then (min low 1, some (min (high.getD 1) 1)) else (low, high)
  if low == 0 && high == some 0 then .empty
  else if low == 1 && high == some 1 then body
  else .repeated body low high

/-- The plans of all branches of an expression. -/
def ofBranches : Regex → List Plan
  | .empty => [.empty]
  | .oneOf set => [ofSet set]
  | .look condition => [.look condition]
  | .seq first second => [before (choice (ofBranches first)).parts (choice (ofBranches second))]
  | .alt first second => choice (ofBranches first) :: ofBranches second
  | .grouped keeps body =>
    let body := choice (ofBranches body)
    [if keeps then .kept body else body]
  | .repeated body low high => [repeatedly (choice (ofBranches body)) low high]

def ofRegex (regex : Regex) : Plan := choice (ofBranches regex)

end Plan
end Regex
end FieldSelect
