import FieldSelect.Filter.Block
import FieldSelect.Proofs.Frontier

/-! Selectors apart from where they were written. Neither blocks nor frontiers depend on places and stages. -/
namespace FieldSelect

/-- The call without its place. -/
def Call.bare (call : Call) : Call := { call with position := .start }

namespace Selector

mutual

/-- The selector without its place and its stage, and so for all below it. -/
def bare : Selector → Selector
  | ⟨_, name, children, _, keyCalls, valueCalls, negated, nested, emptyNested, recursive, low, high⟩ =>
    ⟨.start, name, bareAll children, 0, keyCalls.map Call.bare, valueCalls.map Call.bare, negated, nested,
      emptyNested, recursive, low, high⟩

def bareAll : List Selector → List Selector
  | [] => []
  | selector :: rest => selector.bare :: bareAll rest

end

theorem bareAll_eq_map (selectors : List Selector) : bareAll selectors = selectors.map bare := by
  induction selectors with
  | nil => rfl
  | cons selector rest ih => rw [bareAll, ih, List.map_cons]

theorem bare_eq (selector : Selector) :
    selector.bare =
      { selector with
        position := .start, stage := 0, children := selector.children.map bare
        keyCalls := selector.keyCalls.map Call.bare, valueCalls := selector.valueCalls.map Call.bare } := by
  cases selector
  rw [bare, bareAll_eq_map]

@[simp] theorem bare_name (selector : Selector) : selector.bare.name = selector.name := by rw [bare_eq]
@[simp] theorem bare_position (selector : Selector) : selector.bare.position = .start := by rw [bare_eq]
@[simp] theorem bare_negated (selector : Selector) : selector.bare.negated = selector.negated := by rw [bare_eq]
@[simp] theorem bare_nested (selector : Selector) : selector.bare.nested = selector.nested := by rw [bare_eq]
@[simp] theorem bare_emptyNested (selector : Selector) : selector.bare.emptyNested = selector.emptyNested := by
  rw [bare_eq]
@[simp] theorem bare_recursive (selector : Selector) : selector.bare.recursive = selector.recursive := by
  rw [bare_eq]
@[simp] theorem bare_minDepth (selector : Selector) : selector.bare.minDepth = selector.minDepth := by rw [bare_eq]
@[simp] theorem bare_maxDepth (selector : Selector) : selector.bare.maxDepth = selector.maxDepth := by rw [bare_eq]
@[simp] theorem bare_children (selector : Selector) : selector.bare.children = selector.children.map bare := by
  rw [bare_eq]
@[simp] theorem bare_keyCalls (selector : Selector) : selector.bare.keyCalls = selector.keyCalls.map Call.bare := by
  rw [bare_eq]
@[simp] theorem bare_valueCalls (selector : Selector) :
    selector.bare.valueCalls = selector.valueCalls.map Call.bare := by rw [bare_eq]

@[simp] theorem bare_named (name : Name) (position : Position) : (named name position).bare = named name .start := by
  rw [bare_eq]
  rfl

section Updates
variable {selector other : Selector} (same : selector.bare = other.bare)
include same

theorem bare_withSign (negated : Bool) :
    ({ selector with negated } : Selector).bare = ({ other with negated } : Selector).bare := by
  simp only [bare_eq, Selector.mk.injEq] at same ⊢
  simp only [same, and_self]

theorem bare_withEmptyBlock :
    ({ selector with nested := true, emptyNested := true } : Selector).bare =
      ({ other with nested := true, emptyNested := true } : Selector).bare := by
  simp only [bare_eq, Selector.mk.injEq] at same ⊢
  simp only [same, and_self]

theorem bare_withBlock {children others : List Selector} (same' : children.map bare = others.map bare) :
    ({ selector with nested := true, children } : Selector).bare =
      ({ other with nested := true, children := others } : Selector).bare := by
  simp only [bare_eq, Selector.mk.injEq] at same ⊢
  simp only [same, same', and_self]

end Updates

mutual

theorem height_bare : ∀ selector : Selector, selector.bare.height = selector.height
  | ⟨_, _, children, _, _, _, _, _, _, _, _, _⟩ => by rw [bare, height, height, heightAll_bareAll children]

theorem heightAll_bareAll : ∀ selectors : List Selector, heightAll (bareAll selectors) = heightAll selectors
  | [] => rfl
  | selector :: rest => by rw [bareAll, heightAll, heightAll, height_bare selector, heightAll_bareAll rest]

end

mutual

theorem bare_withStage (stage : Nat) : ∀ selector : Selector, (selector.withStage stage).bare = selector.bare
  | ⟨_, _, children, _, _, _, _, _, _, _, _, _⟩ => by
    rw [withStage, bare, bare, bareAll_allWithStage stage children]

theorem bareAll_allWithStage (stage : Nat) :
    ∀ selectors : List Selector, bareAll (allWithStage stage selectors) = bareAll selectors
  | [] => rfl
  | selector :: rest => by
    rw [allWithStage, bareAll, bareAll, bare_withStage stage selector, bareAll_allWithStage stage rest]

end

mutual

/-- Neither the selector nor any below it has calls. -/
def isQuiet : Selector → Bool
  | ⟨_, _, children, _, keyCalls, valueCalls, _, _, _, _, _, _⟩ =>
    keyCalls.isEmpty && valueCalls.isEmpty && allQuiet children

def allQuiet : List Selector → Bool
  | [] => true
  | selector :: rest => selector.isQuiet && allQuiet rest

end

theorem isQuiet_eq (selector : Selector) :
    selector.isQuiet = (!selector.hasCalls && allQuiet selector.children) := by
  cases selector
  simp [isQuiet, hasCalls]

theorem allQuiet_iff {selectors : List Selector} :
    allQuiet selectors = true ↔ ∀ selector ∈ selectors, selector.isQuiet = true := by
  induction selectors with
  | nil => simp [allQuiet]
  | cons selector rest ih => simp [allQuiet, ih]

theorem allQuiet_append (front back : List Selector) :
    allQuiet (front ++ back) = (allQuiet front && allQuiet back) := by
  induction front with
  | nil => rfl
  | cons selector rest ih => rw [List.cons_append, allQuiet, allQuiet, ih, Bool.and_assoc]

mutual

theorem isQuiet_bare : ∀ selector : Selector, selector.bare.isQuiet = selector.isQuiet
  | ⟨_, _, children, _, _, _, _, _, _, _, _, _⟩ => by
    rw [bare, isQuiet, isQuiet, allQuiet_bareAll children, List.isEmpty_map, List.isEmpty_map]

theorem allQuiet_bareAll : ∀ selectors : List Selector, allQuiet (bareAll selectors) = allQuiet selectors
  | [] => rfl
  | selector :: rest => by rw [bareAll, allQuiet, allQuiet, isQuiet_bare selector, allQuiet_bareAll rest]

end

end Selector

namespace Block
open Selector

theorem mergeable_bare (a b : Selector) : mergeable a.bare b.bare = mergeable a b := by
  simp [mergeable]

section
variable {finish : List Selector → List Selector}
  (commutes : ∀ selectors, (finish selectors).map bare = finish (selectors.map bare))

include commutes

theorem combine_bare (a b : Selector) : (combine finish a b).bare = combine finish a.bare b.bare := by
  rw [combine, combine, bare_eq, bare_eq]
  simp [commutes]

theorem merge_bare (selectors : List Selector) (selector : Selector) :
    (merge finish selectors selector).map bare = merge finish (selectors.map bare) selector.bare := by
  induction selectors with
  | nil => rfl
  | cons sibling rest ih =>
    rw [merge, List.map_cons, merge, mergeable_bare]
    split
    · rw [List.map_cons, combine_bare commutes]
    · rw [List.map_cons, ih]

theorem foldl_merge_bare (selectors merged : List Selector) :
    (selectors.foldl (merge finish) merged).map bare =
      (selectors.map bare).foldl (merge finish) (merged.map bare) := by
  induction selectors generalizing merged with
  | nil => rfl
  | cons selector rest ih => rw [List.foldl_cons, ih, merge_bare commutes, List.map_cons, List.foldl_cons]

end

theorem complete_bare (selectors : List Selector) :
    (complete selectors).map bare = complete (selectors.map bare) := by
  have negated : (selectors.map bare).all (·.negated) = selectors.all (·.negated) := by
    rw [List.all_map]
    congr 1
    exact funext bare_negated
  rw [complete, complete, List.getLast?_map, negated]
  cases selectors.getLast? with
  | none => rfl
  | some last =>
    simp only [Option.map_some]
    split
    · simp
    · rfl

theorem finishAt_bare (levels : Nat) (selectors : List Selector) :
    (finishAt levels selectors).map bare = finishAt levels (selectors.map bare) := by
  induction levels generalizing selectors with
  | zero => rfl
  | succ levels ih => rw [finishAt, finishAt, complete_bare, foldl_merge_bare ih, List.map_nil]

theorem finish_bare (selectors : List Selector) :
    (finish selectors).map bare = finish (selectors.map bare) := by
  rw [finish, finish, finishAt_bare, ← bareAll_eq_map, heightAll_bareAll]

end Block

/-- The same decision by a bare selector. -/
def Resolution.bare : Resolution → Resolution
  | .included selector score inherited => .included selector.bare score inherited
  | .excluded selector => .excluded selector.bare
  | .unmatched => .unmatched

/-- The frontier with all selectors bare. -/
def Frontier.bare (frontier : Frontier) : Frontier :=
  ⟨frontier.explicit.map Selector.bare, frontier.inherited.map (Prod.map Selector.bare id)⟩

/-- The same continuation with bare selectors. -/
def Continuation.bare : Continuation → Continuation
  | .stop => .stop
  | .whole => .whole
  | .descend frontier => .descend frontier.bare

namespace Frontier
variable (frontier : Frontier) (candidate : String) (bindings : Option Bindings)

theorem recursesAt_bare (selector : Selector) (depth : Nat) :
    selector.bare.recursesAt depth = selector.recursesAt depth := by
  simp [Selector.recursesAt]

theorem reaches_bare (selector : Selector) (depth : Nat) :
    selector.bare.reaches depth = selector.reaches depth := by
  simp [Selector.reaches]

theorem fit?_bare (selector : Selector) :
    fit? candidate bindings selector.bare = fit? candidate bindings selector := by
  simp [fit?, takesPart, recursesAt_bare]

theorem better_bare (best : Option (Selector × Nat)) (next : Selector) (score : Option Nat) :
    better (best.map (Prod.map Selector.bare id)) next.bare score =
      (better best next score).map (Prod.map Selector.bare id) := by
  rcases best with _ | ⟨selector, top⟩ <;> cases score <;>
    simp only [better, Option.map_none, Option.map_some, Prod.map, id]
  split <;> rfl

theorem best?_bare :
    frontier.bare.best? candidate bindings =
      (frontier.best? candidate bindings).map (Prod.map Selector.bare id) := by
  rw [best?, best?, bare]
  induction frontier.explicit using List.reverseRecOn with
  | nil => rfl
  | append_singleton selectors next ih =>
    simp only [List.map_append, List.map_cons, List.map_nil, List.foldl_append, List.foldl_cons, List.foldl_nil] at ih ⊢
    rw [ih, fit?_bare, better_bare]

theorem nearest?_bare :
    frontier.bare.nearest? candidate bindings =
      (frontier.nearest? candidate bindings).map (Prod.map Selector.bare id) := by
  rw [nearest?, nearest?, bare, List.findSome?_map, List.map_findSome?]
  congr 1
  funext inherited
  obtain ⟨selector, depth⟩ := inherited
  simp only [Function.comp_apply, Prod.map, id, recursesAt_bare, Selector.bare_name]
  split
  · rw [Option.map_map]
    rfl
  · rfl

theorem verdict_bare (inherited : Bool) (found : Selector × Nat) :
    verdict inherited (found.1.bare, found.2) = (verdict inherited found).bare := by
  rw [verdict, verdict, Selector.bare_negated]
  split <;> rfl

theorem resolve_bare : frontier.bare.resolve candidate bindings = (frontier.resolve candidate bindings).bare := by
  rw [resolve, resolve, best?_bare, nearest?_bare]
  cases frontier.best? candidate bindings with
  | some found => exact verdict_bare false found
  | none =>
    cases frontier.nearest? candidate bindings with
    | some found => exact verdict_bare true found
    | none => rfl

theorem passedDown_bare :
    frontier.bare.passedDown = frontier.passedDown.map (Prod.map Selector.bare id) := by
  have recursive : (frontier.explicit.map Selector.bare).filter (·.recursive) =
      (frontier.explicit.filter (·.recursive)).map Selector.bare := by
    rw [List.filter_map]
    congr 2
    exact funext Selector.bare_recursive
  have together : ((frontier.explicit.map Selector.bare).filter (·.recursive)).map (fun selector => (selector, 0)) ++
        frontier.bare.inherited =
      ((frontier.explicit.filter fun selector : Selector => selector.recursive).map (fun selector => (selector, 0)) ++
        frontier.inherited).map (Prod.map Selector.bare id) := by
    rw [recursive, List.map_append, List.map_map, List.map_map]
    rfl
  rw [passedDown, passedDown]
  refine (congrArg (List.filterMap _) together).trans ?_
  rw [List.filterMap_map, List.map_filterMap]
  congr 1
  funext passed
  obtain ⟨selector, depth⟩ := passed
  simp only [Function.comp_apply, Prod.map, id, reaches_bare]
  split <;> rfl

theorem next_bare (selector : Selector) : frontier.bare.next selector.bare = (frontier.next selector).bare := by
  simp only [next, Selector.bare_emptyNested, Selector.bare_nested, Selector.bare_recursive, Selector.bare_children,
    passedDown_bare]
  split
  · rfl
  · split
    · rfl
    · split <;> rfl

end Frontier
end FieldSelect
