import FieldSelect.Text.Stretch

/-! Sets of characters given by their edges, and the algebra of such sets. -/
namespace FieldSelect

/-- The edges of a set are the code points, ascending, where membership changes: the first one opens it. -/
structure CharSet where
  edges : List Nat
  deriving DecidableEq

namespace CharSet

/-- Whether a point lies inside, when points before the first edge do or do not. -/
def insideAt (inside : Bool) : List Nat → Nat → Bool
  | [], _ => inside
  | edge :: rest, point => if point < edge then inside else insideAt (!inside) rest point

def holds (set : CharSet) (c : Char) : Bool := insideAt false set.edges c.toNat

def empty : CharSet := ⟨[]⟩

def all : CharSet := ⟨[0]⟩

/-- The first 128 characters. -/
def ascii : CharSet := ⟨[0, 128]⟩

/-- The halves of surrogate pairs, which have code points but are no characters. -/
def surrogates : CharSet := ⟨[0xD800, 0xE000]⟩

/-- All characters between two, both included. -/
def range (low high : Char) : CharSet := ⟨[low.toNat, high.toNat + 1]⟩

def single (c : Char) : CharSet := range c c

def isEmpty (set : CharSet) : Bool := set.edges.isEmpty

/-- No member has a code point above a bound. -/
def isBelow (set : CharSet) (bound : Nat) : Bool :=
  set.edges.length % 2 == 0 && set.edges.all (· ≤ bound)

/-! ### Algebra -/

def keepIf (changes : Bool) (edge : Nat) (rest : List Nat) : List Nat :=
  if changes then edge :: rest else rest

/-- The edges of a combination, which has one wherever an edge of either set changes its value. -/
def combineEdges (op : Bool → Bool → Bool) (inA inB : Bool) : List Nat → List Nat → List Nat
  | [], [] => []
  | a :: as, [] => keepIf (op inA inB != op (!inA) inB) a (combineEdges op (!inA) inB as [])
  | [], b :: bs => keepIf (op inA inB != op inA (!inB)) b (combineEdges op inA (!inB) [] bs)
  | a :: as, b :: bs =>
    if a < b then
      keepIf (op inA inB != op (!inA) inB) a (combineEdges op (!inA) inB as (b :: bs))
    else if b < a then
      keepIf (op inA inB != op inA (!inB)) b (combineEdges op inA (!inB) (a :: as) bs)
    else
      keepIf (op inA inB != op (!inA) (!inB)) a (combineEdges op (!inA) (!inB) as bs)
termination_by as bs => as.length + bs.length

def combine (op : Bool → Bool → Bool) (a b : CharSet) : CharSet :=
  ⟨combineEdges op false false a.edges b.edges⟩

def union : CharSet → CharSet → CharSet := combine (· || ·)

def inter : CharSet → CharSet → CharSet := combine (· && ·)

def without : CharSet → CharSet → CharSet := combine fun inA inB => inA && !inB

def differ : CharSet → CharSet → CharSet := combine (· != ·)

/-- An edge at the first code point is set or taken away, and all others stay. -/
def compl (set : CharSet) : CharSet :=
  match set.edges with
  | 0 :: rest => ⟨rest⟩
  | edges => ⟨0 :: edges⟩

def join (sets : List CharSet) : CharSet := sets.foldl union empty

/-! ### From and to lists of code points -/

/-- A run of code points in front of later ones; runs that touch become one. -/
def openRun (first behind : Nat) : List Nat → List Nat
  | [] => [first, behind]
  | edge :: rest => if edge = behind then first :: rest else first :: behind :: edge :: rest

/-- The edges of a stretch in front of those of later ones. -/
def stretchEdges (run : Stretch) (rest : List Nat) : List Nat :=
  if run.step = 1 then openRun run.first (run.last + 1) rest
  else
    (List.range ((run.last - run.first) / run.step + 1)).foldr
      (fun n rest => openRun (run.first + n * run.step) (run.first + n * run.step + 1) rest) rest

/-- The set of all members of stretches that follow one another. -/
def ofRuns (runs : List Stretch) : CharSet := ⟨runs.foldr stretchEdges []⟩

/-- The set of some code points. -/
def ofPoints (points : List Nat) : CharSet :=
  ⟨(points.mergeSort.eraseReps).foldr (fun point rest => openRun point (point + 1) rest) []⟩

/-- The last code point of all. -/
def lastPoint : Nat := 0x10FFFF

/-- First and last code point of every unbroken run of members. -/
def blocks : List Nat → List (Nat × Nat)
  | first :: behind :: rest => (first, behind - 1) :: blocks rest
  | [first] => [(first, lastPoint)]
  | [] => []

def ranges (set : CharSet) : List (Nat × Nat) := blocks set.edges

/-- The only member of a set, if it has just one. -/
def only? (set : CharSet) : Option Nat :=
  match set.ranges with
  | [(first, last)] => if first = last then some first else none
  | _ => none

/-! ### Laws -/

theorem insideAt_not (inside : Bool) (edges : List Nat) (point : Nat) :
    insideAt (!inside) edges point = !insideAt inside edges point := by
  induction edges generalizing inside with
  | nil => rfl
  | cons edge rest ih =>
    simp only [insideAt]
    split
    · rfl
    · exact ih (!inside)

/-- The complement holds just those characters that the set does not. -/
theorem holds_compl (set : CharSet) (c : Char) : set.compl.holds c = !set.holds c := by
  obtain ⟨edges⟩ := set
  match edges with
  | [] => rfl
  | 0 :: rest => simpa [compl, holds, insideAt] using insideAt_not true rest c.toNat
  | (n + 1) :: rest => exact insideAt_not false _ _

@[simp] theorem holds_all (c : Char) : all.holds c = true := rfl

@[simp] theorem holds_empty (c : Char) : empty.holds c = false := rfl

theorem holds_range (low high c : Char) :
    (range low high).holds c = (decide (low ≤ c) && decide (c ≤ high)) := by
  have lower : low ≤ c ↔ low.toNat ≤ c.toNat := Iff.rfl
  have upper : c ≤ high ↔ c.toNat ≤ high.toNat := Iff.rfl
  simp only [range, holds, insideAt, lower, upper]
  by_cases below : c.toNat < low.toNat
  · simp [below, Nat.not_le.2 below]
  · by_cases above : c.toNat < high.toNat + 1
    · simp [below, above, Nat.not_lt.1 below, Nat.lt_succ_iff.1 above]
    · simp [below, above, Nat.not_le.2 (Nat.lt_of_succ_le (Nat.not_lt.1 above))]

theorem holds_single (d c : Char) : (single d).holds c = decide (c = d) := by
  rw [single, holds_range]
  by_cases same : c = d
  · subst same; simp
  · simp only [same, decide_false, Bool.and_eq_false_iff, decide_eq_false_iff_not]
    by_cases low : d ≤ c
    · exact Or.inr fun high => same (Char.le_antisymm high low)
    · exact Or.inl low

end CharSet
end FieldSelect
