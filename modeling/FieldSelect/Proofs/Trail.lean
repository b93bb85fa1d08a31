import FieldSelect.Filter.Reader
import FieldSelect.Proofs.Frontier
import FieldSelect.Proofs.Pairing
import Mathlib

/-! The frontiers along a path of field names. A frontier inherits the recursive selectors of the blocks above it that
can still match there or deeper, and the others are not missed. -/
namespace FieldSelect
namespace Frontier

/-- The frontier below a field, if the field is kept and some frontier decides there. -/
def below? (next : Frontier → Selector → Continuation) (bindings : Option Bindings) (frontier : Frontier)
    (name : String) : Option Frontier :=
  match frontier.resolve name bindings with
  | .included selector _ _ =>
    match next frontier selector with
    | .descend lower => some lower
    | _ => none
  | _ => none

/-- The frontiers that a path of field names leads through, the first one included, as far as there are any. -/
def trail (next : Frontier → Selector → Continuation) (bindings : Option Bindings) (frontier : Frontier) :
    List String → List Frontier
  | [] => [frontier]
  | name :: names =>
    match frontier.below? next bindings name with
    | some lower => frontier :: trail next bindings lower names
    | none => [frontier]

/-- The selectors of the block at a level of a trail. -/
def explicitAt (trail : List Frontier) (level : Nat) : List Selector := (trail[level]?.map explicit).getD []

/-- The selectors of the blocks above a level that count there, the nearest block first, each with the number of levels
it stands above. -/
def listAbove (counts : Selector → Nat → Bool) (trail : List Frontier) (level : Nat) : List (Selector × Nat) :=
  (List.range level).reverse.flatMap fun above =>
    ((explicitAt trail above).filter (counts · (level - above))).map (·, level - above)

/-- The inherited selectors that are within their bounds. -/
def consulted (frontier : Frontier) : List (Selector × Nat) :=
  frontier.inherited.filter fun (selector, depth) => selector.recursesAt depth

/-! ### Without dropping anything -/

/-- The recursive selectors one level down, whether or not they can still match there or deeper. -/
def keptDown (frontier : Frontier) : List (Selector × Nat) :=
  (frontier.explicit.filter (·.recursive)).map (·, 1) ++
    frontier.inherited.map fun (selector, depth) => (selector, depth + 1)

/-- What is kept below a field when no recursive selector is ever dropped. -/
def nextKeeping (frontier : Frontier) (selector : Selector) : Continuation :=
  match frontier.next selector with
  | .descend lower => .descend { lower with inherited := frontier.keptDown }
  | other => other

/-- The same frontier, but for inherited selectors that can match neither here nor deeper. -/
structure Trims (frontier keeping : Frontier) : Prop where
  explicit : frontier.explicit = keeping.explicit
  inherited : frontier.inherited = keeping.inherited.filter fun (selector, depth) => selector.reaches depth

variable {frontier keeping lower : Frontier} {bindings : Option Bindings} {selector : Selector}
  {next : Frontier → Selector → Continuation}

theorem passedDown_eq_filter (frontier : Frontier) :
    frontier.passedDown = frontier.keptDown.filter fun (selector, depth) => selector.reaches depth := by
  rw [passedDown, keptDown, List.filterMap_append, List.filter_append]
  have shifted : ∀ inherited : List (Selector × Nat),
      (inherited.filterMap fun (selector, depth) =>
        if selector.reaches (depth + 1) then some (selector, depth + 1) else none) =
      (inherited.map fun (selector, depth) => (selector, depth + 1)).filter fun (selector, depth) =>
        selector.reaches depth := by
    intro inherited
    induction inherited with
    | nil => rfl
    | cons head rest ih =>
      obtain ⟨selector, depth⟩ := head
      by_cases reaches : selector.reaches (depth + 1) = true <;> simp [reaches, ih]
  simp only [shifted, List.map_map]
  rfl

theorem nearest?_eq_consulted (frontier : Frontier) (candidate : String) (bindings : Option Bindings) :
    frontier.nearest? candidate bindings =
      frontier.consulted.findSome? fun (selector, _) =>
        (selector.name.score? candidate bindings).map fun score => (selector, score) := by
  rw [nearest?, consulted]
  induction frontier.inherited with
  | nil => rfl
  | cons head rest ih =>
    obtain ⟨selector, depth⟩ := head
    by_cases inside : selector.recursesAt depth = true
    · cases scored : selector.name.score? candidate bindings with
      | none => simpa [inside, scored] using ih
      | some score => simp [inside, scored]
    · simpa [List.findSome?_cons, inside] using ih

/-! ### One level down -/

theorem reaches_of_succ {depth : Nat} (reaches : selector.reaches (depth + 1) = true) :
    selector.reaches depth = true := by
  rw [Selector.reaches, Bool.and_eq_true] at reaches ⊢
  apply And.intro reaches.1
  cases bound : selector.maxDepth with
  | none => rfl
  | some high =>
    have below := reaches.2
    simp only [bound, Option.all_some, decide_eq_true_eq] at below ⊢
    omega

theorem recursive_of_reaches {depth : Nat} (reaches : selector.reaches depth = true) : selector.recursive = true := by
  rw [Selector.reaches, Bool.and_eq_true] at reaches
  exact reaches.1

theorem Trims.consulted (trims : frontier.Trims keeping) : frontier.consulted = keeping.consulted := by
  rw [Frontier.consulted, Frontier.consulted, trims.inherited, List.filter_filter]
  apply List.filter_congr
  intro (selector, depth) _
  cases inside : selector.recursesAt depth with
  | false => simp [inside]
  | true => simp [inside, Selector.recursesAt_reaches inside]

/-- What was dropped decides for no field. -/
theorem Trims.resolve (trims : frontier.Trims keeping) (candidate : String) (bindings : Option Bindings) :
    frontier.resolve candidate bindings = keeping.resolve candidate bindings := by
  have explicit : frontier.best? candidate bindings = keeping.best? candidate bindings := by
    rw [best?, best?, trims.explicit]
  have inherited : frontier.nearest? candidate bindings = keeping.nearest? candidate bindings := by
    rw [nearest?_eq_consulted, nearest?_eq_consulted, trims.consulted]
  rw [Frontier.resolve, Frontier.resolve, explicit, inherited]

/-- Nor would it be passed further down. -/
theorem Trims.passedDown (trims : frontier.Trims keeping) :
    frontier.passedDown = keeping.keptDown.filter fun (selector, depth) => selector.reaches depth := by
  rw [passedDown_eq_filter, keptDown, keptDown, trims.explicit, trims.inherited]
  simp only [List.filter_append, List.filter_map, List.filter_filter]
  congr 2
  apply List.filter_congr
  intro (selector, depth) _
  cases deeper : selector.reaches (depth + 1) with
  | false => simp [deeper]
  | true => simp [deeper, reaches_of_succ deeper]

theorem Trims.below? (trims : frontier.Trims keeping) (bindings : Option Bindings) (name : String) :
    Option.Rel Trims (frontier.below? Frontier.next bindings name) (keeping.below? nextKeeping bindings name) := by
  rw [Frontier.below?, Frontier.below?, trims.resolve]
  cases keeping.resolve name bindings with
  | included selector score inherited =>
    have passed := trims.passedDown
    simp only [nextKeeping, Frontier.next]
    by_cases empty : selector.emptyNested = true
    · simp only [empty, if_true]
      exact .none
    · by_cases nested : selector.nested = true
      · simp only [empty, nested, if_true, Bool.false_eq_true, if_false]
        exact .some ⟨rfl, passed⟩
      · by_cases recursive : selector.recursive = true
        · simp only [empty, nested, recursive, if_true, Bool.false_eq_true, if_false]
          exact .some ⟨rfl, passed⟩
        · simp only [empty, nested, recursive, Bool.false_eq_true, if_false]
          exact .none
  | excluded selector => exact .none
  | unmatched => exact .none

theorem inherited_of_below? {name : String} (found : frontier.below? nextKeeping bindings name = some lower) :
    lower.inherited = frontier.keptDown := by
  rw [below?] at found
  split at found
  · rename_i selector _ _ _
    rw [nextKeeping] at found
    cases next : frontier.next selector with
    | descend under =>
      rw [next] at found
      cases found
      rfl
    | stop => simp [next] at found
    | whole => simp [next] at found
  · cases found

/-! ### Along a path -/

theorem trail_zero (names : List String) : (frontier.trail next bindings names)[0]? = some frontier := by
  cases names with
  | nil => rfl
  | cons name names =>
    rw [trail]
    split <;> rfl

/-- Each frontier of a trail but the first one lies right below the one before. -/
theorem exists_above {names : List String} {level : Nat}
    (reached : (frontier.trail next bindings names)[level + 1]? = some lower) :
    ∃ above name, (frontier.trail next bindings names)[level]? = some above ∧
      above.below? next bindings name = some lower := by
  induction names generalizing frontier level with
  | nil => cases reached
  | cons name names ih =>
    rw [trail] at reached ⊢
    cases found : frontier.below? next bindings name with
    | none => simp [found] at reached
    | some first =>
      simp only [found, List.getElem?_cons_succ] at reached ⊢
      cases level with
      | zero =>
        rw [trail_zero] at reached
        cases reached
        exact ⟨frontier, name, rfl, found⟩
      | succ level => exact ih reached

theorem trims_trail (trims : frontier.Trims keeping) (bindings : Option Bindings) (names : List String) :
    List.Forall₂ Trims (frontier.trail Frontier.next bindings names) (keeping.trail nextKeeping bindings names) := by
  induction names generalizing frontier keeping with
  | nil => exact .cons trims .nil
  | cons name names ih =>
    rw [trail, trail]
    have below := trims.below? bindings name
    generalize frontier.below? Frontier.next bindings name = lower at below ⊢
    generalize keeping.below? nextKeeping bindings name = under at below ⊢
    cases below with
    | none => exact .cons trims .nil
    | some trims' => exact .cons trims (ih trims')

theorem listAbove_succ (trail : List Frontier) (level : Nat) :
    listAbove (fun selector _ => selector.recursive) trail (level + 1) =
      ((explicitAt trail level).filter (·.recursive)).map (·, 1) ++
        (listAbove (fun selector _ => selector.recursive) trail level).map fun (selector, depth) =>
          (selector, depth + 1) := by
  rw [listAbove, listAbove, List.range_succ, List.reverse_append, List.reverse_singleton, List.singleton_append,
    List.flatMap_cons, List.map_flatMap, Nat.add_sub_cancel_left]
  congr 1
  apply List.flatMap_congr
  intro above member
  have higher : above < level := by simpa using member
  have farther : level + 1 - above = level - above + 1 := by omega
  simp [farther]

theorem listAbove_eq_filter {counts : Selector → Nat → Bool}
    (recursive : ∀ selector depth, counts selector depth = true → selector.recursive = true)
    (trail : List Frontier) (level : Nat) :
    listAbove counts trail level =
      (listAbove (fun selector _ => selector.recursive) trail level).filter fun (selector, depth) =>
        counts selector depth := by
  rw [listAbove, listAbove, List.filter_flatMap]
  apply List.flatMap_congr
  intro above _
  rw [List.filter_map, List.filter_filter]
  congr 1
  apply List.filter_congr
  intro selector _
  cases counted : counts selector (level - above) with
  | false => simp [counted]
  | true => simp [counted, recursive selector _ counted]

/-- When none is dropped, all recursive selectors of the blocks above are inherited. -/
theorem inherited_of_keeping {selectors : List Selector} {names : List String} {level : Nat}
    (reached : ((top selectors).trail nextKeeping bindings names)[level]? = some frontier) :
    frontier.inherited =
      listAbove (fun selector _ => selector.recursive) ((top selectors).trail nextKeeping bindings names) level := by
  induction level generalizing frontier with
  | zero =>
    rw [trail_zero] at reached
    cases reached
    rfl
  | succ level ih =>
    obtain ⟨above, name, present, found⟩ := exists_above reached
    rw [inherited_of_below? found, listAbove_succ, keptDown, ih present, explicitAt, present]
    rfl

theorem listAbove_congr {trail other : List Frontier}
    (same : List.Forall₂ (fun frontier keeping : Frontier => frontier.explicit = keeping.explicit) trail other)
    (counts : Selector → Nat → Bool) (level : Nat) : listAbove counts trail level = listAbove counts other level := by
  have explicit : explicitAt trail = explicitAt other := by
    funext level
    have paired := getElem?_of_forall₂ same level
    rw [explicitAt, explicitAt]
    generalize trail[level]? = here at paired ⊢
    generalize other[level]? = there at paired ⊢
    cases paired with
    | none => rfl
    | some equal => exact equal
  rw [listAbove, listAbove, explicit]

theorem mem_listAbove {counts : Selector → Nat → Bool} {trail : List Frontier} {level above : Nat}
    (higher : above < level) :
    (selector, level - above) ∈ listAbove counts trail level ↔
      selector ∈ explicitAt trail above ∧ counts selector (level - above) = true := by
  simp only [listAbove, List.mem_flatMap, List.mem_reverse, List.mem_range, List.mem_map, List.mem_filter,
    Prod.mk.injEq]
  constructor
  · rintro ⟨other, below, _, ⟨present, counted⟩, rfl, distance⟩
    have same : other = above := by omega
    subst same
    exact ⟨present, counted⟩
  · intro ⟨present, counted⟩
    exact ⟨above, higher, selector, ⟨present, counted⟩, rfl, rfl⟩

theorem recursesAt_iff {depth : Nat} :
    selector.recursesAt depth = true ↔
      selector.recursive = true ∧ (∀ low ∈ selector.minDepth, low ≤ depth) ∧
        ∀ high ∈ selector.maxDepth, depth < high := by
  simp [Selector.recursesAt, Option.all_eq_true, and_assoc]

end Frontier

namespace Tree
open Frontier

/-- On every level the inherited selectors are just the recursive ones of the blocks above that can still match there or
deeper, nearest first. Those that are asked are within their bounds, and the ones that were dropped on the way would
not have changed what becomes of any field. -/
theorem inherited_eq_listAbove (tree : Tree) (stage : Nat) (bindings : Option Bindings) (names : List String) :
    let trail := (top (tree.stage stage)).trail Frontier.next bindings names
    let keeping := (top (tree.stage stage)).trail nextKeeping bindings names
    (∀ level frontier, trail[level]? = some frontier →
      frontier.inherited = listAbove Selector.reaches trail level ∧
      frontier.consulted = listAbove Selector.recursesAt trail level ∧
      (∀ candidate bindings, frontier.nearest? candidate bindings =
        frontier.consulted.findSome? fun (selector, _) =>
          (selector.name.score? candidate bindings).map fun score => (selector, score)) ∧
      ∀ above < level, ∀ selector ∈ explicitAt trail above, selector.recursive = true →
        ((selector, level - above) ∈ frontier.consulted ↔
          (∀ low ∈ selector.minDepth, low ≤ level - above) ∧ ∀ high ∈ selector.maxDepth, level - above < high)) ∧
    (∀ level frontier, keeping[level]? = some frontier →
      frontier.inherited = listAbove (fun selector _ => selector.recursive) keeping level) ∧
    List.Forall₂ (fun frontier kept => frontier.explicit = kept.explicit ∧
      ∀ candidate bindings, frontier.resolve candidate bindings = kept.resolve candidate bindings) trail keeping := by
  intro trail keeping
  have trimmed : List.Forall₂ Trims trail keeping := trims_trail ⟨rfl, rfl⟩ bindings names
  have same : List.Forall₂ (fun frontier kept : Frontier => frontier.explicit = kept.explicit) trail keeping :=
    trimmed.imp fun _ _ trims => trims.explicit
  refine ⟨?_, ?_, ?_⟩
  · intro level frontier reached
    have paired := getElem?_of_forall₂ trimmed level
    rw [reached] at paired
    generalize found : keeping[level]? = kept at paired
    obtain ⟨trims⟩ := paired
    have inherited : frontier.inherited = listAbove Selector.reaches trail level := by
      rw [trims.inherited, inherited_of_keeping found, listAbove_congr same,
        listAbove_eq_filter fun _ _ => recursive_of_reaches]
    have consulted : frontier.consulted = listAbove Selector.recursesAt trail level := by
      rw [trims.consulted, Frontier.consulted, inherited_of_keeping found, listAbove_congr same,
        listAbove_eq_filter fun _ _ inside => recursive_of_reaches (Selector.recursesAt_reaches inside)]
    refine ⟨inherited, consulted, frontier.nearest?_eq_consulted, ?_⟩
    intro above higher selector present recursive
    rw [consulted, mem_listAbove higher, recursesAt_iff]
    simp [present, recursive]
  · intro level frontier reached
    exact inherited_of_keeping reached
  · exact trimmed.imp fun _ _ trims => ⟨trims.explicit, trims.resolve⟩

/-- It matches one and two levels below its own. -/
private def fromFirstToThird : Selector :=
  { Selector.named .anyDeep ⟨1, 6⟩ with minDepth := some 1, maxDepth := some 3 }

private def bounded : Tree :=
  ⟨"v\x7bx\x7d,**\x7b1,3\x7d",
    [{ Selector.named (.exact "v") .start with nested := true, children := [.named (.exact "x") ⟨1, 3⟩] },
      fromFirstToThird]⟩

theorem inherited_eq_listAbove_of_bounded :
    let trail := (top (bounded.stage 0)).trail Frontier.next none ["v", "y", "z"]
    FieldSelect.compile bounded.source = .ok bounded ∧ trail.length = 4 ∧
      trail.map (fun frontier : Frontier => frontier.explicit) =
        [bounded.selectors, [.named (.exact "x") ⟨1, 3⟩], [], []] ∧
      (∀ frontier, trail[1]? = some frontier → frontier.consulted = [(fromFirstToThird, 1)]) ∧
      (∀ frontier, trail[2]? = some frontier → frontier.consulted = [(fromFirstToThird, 2)]) ∧
      ∀ frontier, trail[3]? = some frontier → frontier.inherited = [] := by
  intro trail
  obtain ⟨each, _, _⟩ := inherited_eq_listAbove bounded 0 none ["v", "y", "z"]
  have compiled : FieldSelect.compile bounded.source = .ok bounded := by cbv
  refine ⟨compiled, rfl, rfl, ?_, ?_, ?_⟩
  · intro frontier reached
    exact (each 1 frontier reached).2.1
  · intro frontier reached
    exact (each 2 frontier reached).2.1
  · intro frontier reached
    exact (each 3 frontier reached).1

end Tree
end FieldSelect
