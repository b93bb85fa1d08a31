import FieldSelect.Proofs.Filter.Merging

/-! Trees of selectors as they ought to be: the parts of each selector fit together, and each block keeps
something and holds no two siblings that open the same block. Finished blocks are such blocks again. -/
namespace FieldSelect

/-- The selector stands among these or anywhere below them. -/
inductive Selector.Within (selector : Selector) : List Selector → Prop where
  | here {selectors : List Selector} (member : selector ∈ selectors) : Within selector selectors
  | deeper {selectors : List Selector} {parent : Selector} (member : parent ∈ selectors)
      (within : Within selector parent.children) : Within selector selectors

/-- How the parts of one selector fit together, whatever it is that stands below it. -/
structure Selector.Consistent (selector : Selector) : Prop where
  blockless : selector.nested = false ∨ selector.emptyNested = true → selector.children = []
  filled : selector.nested = true → selector.emptyNested = false → selector.children ≠ []
  emptied : selector.emptyNested = true → selector.nested = true
  recursive : selector.recursive = true ↔ selector.name = .anyDeep
  bounded : selector.minDepth ≠ none ∨ selector.maxDepth ≠ none → selector.name = .anyDeep
  ordered : ∀ high, selector.maxDepth = some high → ∃ low, selector.minDepth = some low ∧ low < high

theorem Selector.Consistent.unemptied {selector : Selector} (own : selector.Consistent)
    (unnested : selector.nested = false) : selector.emptyNested = false := by
  by_contra emptied
  have nested := own.emptied (by simpa using emptied)
  rw [unnested] at nested
  cases nested

/-- Something is kept, and no two siblings open the same block. -/
structure Block.Settled (selectors : List Selector) : Prop where
  keeps : ∃ selector ∈ selectors, selector.negated = false
  apart : Block.Apart selectors

theorem Block.Settled.ne_nil {selectors : List Selector} (settled : Block.Settled selectors) : selectors ≠ [] := by
  obtain ⟨selector, member, _⟩ := settled.keeps
  exact List.ne_nil_of_mem member

/-- The selector is consistent, its block is settled if it has one, and so for all below it. -/
inductive Selector.WellFormed : Selector → Prop where
  | intro {selector : Selector} (consistent : selector.Consistent)
      (settled : selector.children ≠ [] → Block.Settled selector.children)
      (inner : ∀ child ∈ selector.children, WellFormed child) : WellFormed selector

namespace Selector
variable {selector : Selector} {selectors : List Selector}

theorem WellFormed.consistent (formed : selector.WellFormed) : selector.Consistent := by
  cases formed with
  | intro consistent _ _ => exact consistent

theorem WellFormed.settled (formed : selector.WellFormed) (nonempty : selector.children ≠ []) :
    Block.Settled selector.children := by
  cases formed with
  | intro _ settled _ => exact settled nonempty

theorem WellFormed.inner (formed : selector.WellFormed) : ∀ child ∈ selector.children, child.WellFormed := by
  cases formed with
  | intro _ _ inner => exact inner

theorem Within.subset {others : List Selector} (within : Within selector selectors) (subset : selectors ⊆ others) :
    Within selector others := by
  cases within with
  | here member => exact .here (subset member)
  | deeper member within => exact .deeper (subset member) within

theorem forall_within_nil (P : Selector → Prop) : ∀ selector, Within selector [] → P selector := by
  rintro selector (member | ⟨member, _⟩) <;> cases member

theorem forall_within_cons {P : Selector → Prop} {first : Selector} {rest : List Selector} (own : P first)
    (inner : ∀ selector, Within selector first.children → P selector)
    (others : ∀ selector, Within selector rest → P selector) :
    ∀ selector, Within selector (first :: rest) → P selector := by
  rintro selector (member | ⟨member, within⟩)
  · rcases List.mem_cons.mp member with rfl | later
    · exact own
    · exact others selector (.here later)
  · rcases List.mem_cons.mp member with rfl | later
    · exact inner selector within
    · exact others selector (.deeper later within)

/-- What stands below a child stands below its parent. -/
theorem Within.onward {child parent : Selector} (within : Within selector [child]) (member : child ∈ parent.children) :
    Within selector [parent] :=
  .deeper (List.mem_singleton_self parent) (within.subset fun _ same => List.mem_singleton.mp same ▸ member)

theorem Within.wellFormed (within : Within selector selectors)
    (formed : ∀ selector ∈ selectors, selector.WellFormed) : selector.WellFormed := by
  induction within with
  | here member => exact formed selector member
  | deeper member _ ih => exact ih (formed _ member).inner

theorem wellFormed_of_within (consistent : ∀ below, Within below [selector] → below.Consistent)
    (settled : ∀ below, Within below [selector] → below.children ≠ [] → Block.Settled below.children) :
    selector.WellFormed := by
  induction selector using of_children with
  | step selector ih =>
    have own : Within selector [selector] := .here (List.mem_singleton_self selector)
    exact .intro (consistent selector own) (settled selector own) fun child member =>
      ih child member (fun below within => consistent below (within.onward member))
        fun below within => settled below (within.onward member)

theorem isAnyDeep_iff {name : Name} : name.isAnyDeep = true ↔ name = .anyDeep := by
  cases name <;> simp [Name.isAnyDeep]

theorem wellFormed_named (name : Name) (position : Position) : (named name position).WellFormed := by
  refine .intro ⟨?_, ?_, ?_, isAnyDeep_iff, ?_, ?_⟩ (absurd rfl) nofun
  · exact fun _ => rfl
  · nofun
  · nofun
  · rintro (low | high) <;> contradiction
  · nofun

/-- What a selector does to its fields, and whether it keeps them, does not count. -/
theorem WellFormed.acting (formed : selector.WellFormed) (keyCalls valueCalls : List Call) (negated : Bool) :
    ({ selector with keyCalls, valueCalls, negated } : Selector).WellFormed := by
  have own := formed.consistent
  exact .intro ⟨own.blockless, own.filled, own.emptied, own.recursive, own.bounded, own.ordered⟩ formed.settled
    formed.inner

/-- A settled block can be put where none is, or in the place of another one. -/
theorem WellFormed.withBlock (formed : selector.WellFormed) (unemptied : selector.emptyNested = false)
    (settled : Block.Settled selectors) (all : ∀ child ∈ selectors, child.WellFormed) :
    ({ selector with nested := true, children := selectors } : Selector).WellFormed := by
  have own := formed.consistent
  refine .intro ⟨?_, ?_, ?_, own.recursive, own.bounded, own.ordered⟩ (fun _ => settled) all
  · rintro (unnested | emptied)
    · cases unnested
    · exact absurd emptied (by simp [unemptied])
  · exact fun _ _ => settled.ne_nil
  · exact fun _ => rfl

/-- Where no block is an empty one can be put. -/
theorem WellFormed.withEmptyBlock (formed : selector.WellFormed) (unnested : selector.nested = false) :
    ({ selector with nested := true, emptyNested := true } : Selector).WellFormed := by
  have own := formed.consistent
  refine .intro ⟨?_, ?_, ?_, own.recursive, own.bounded, own.ordered⟩ formed.settled formed.inner
  · exact fun _ => own.blockless (.inl unnested)
  · nofun
  · exact fun _ => rfl

/-- Only `**` has bounds, and only rising ones. -/
theorem WellFormed.withBounds (formed : selector.WellFormed) (deep : selector.name = .anyDeep) {low : Nat}
    {high : Option Nat} (ordered : ∀ bound, high = some bound → low < bound) :
    ({ selector with minDepth := some low, maxDepth := high } : Selector).WellFormed := by
  have own := formed.consistent
  refine .intro ⟨own.blockless, own.filled, own.emptied, own.recursive, fun _ => deep, ?_⟩ formed.settled formed.inner
  intro bound same
  exact ⟨low, rfl, ordered bound same⟩

/-- Siblings that can be joined have children, all of them well-formed. -/
theorem WellFormed.children_append {a b : Selector} (formed : a.WellFormed) (formed' : b.WellFormed)
    (joins : Block.mergeable a b = true) :
    a.children ++ b.children ≠ [] ∧ ∀ child ∈ a.children ++ b.children, child.WellFormed := by
  obtain ⟨_, _, ⟨nested, _⟩, ⟨unemptied, _⟩, _⟩ := Block.mergeable_iff.mp joins
  have own := formed.consistent.filled nested unemptied
  refine ⟨List.append_ne_nil_of_left_ne_nil own _, ?_⟩
  intro child member
  rcases List.mem_append.mp member with first | second
  · exact formed.inner child first
  · exact formed'.inner child second

/-- Two siblings are joined around a settled block. -/
theorem WellFormed.combine {finish : List Selector → List Selector} {a b : Selector} (formed : a.WellFormed)
    (joins : Block.mergeable a b = true) (settled : Block.Settled (finish (a.children ++ b.children)))
    (all : ∀ child ∈ finish (a.children ++ b.children), child.WellFormed) :
    (Block.combine finish a b).WellFormed := by
  obtain ⟨_, _, ⟨nested, _⟩, ⟨unemptied, _⟩, _⟩ := Block.mergeable_iff.mp joins
  have whole := (formed.withBlock unemptied settled all).acting (a.keyCalls ++ b.keyCalls)
    (a.valueCalls ++ b.valueCalls) a.negated
  rwa [← nested] at whole

end Selector

namespace Block
open Selector
variable {selectors : List Selector}

theorem mergeable_of_unnested {a b : Selector} (unnested : b.nested = false) : mergeable a b = false := by
  simp [mergeable, unnested]

/-- A block is completed so that it keeps something. -/
theorem settled_complete (nonempty : selectors ≠ []) (apart : Apart selectors) : Settled (complete selectors) := by
  by_cases dropping : selectors.all (·.negated) = true
  · rcases complete_eq selectors with same | ⟨position, _, same⟩
    · have last : selectors.getLast? = some (selectors.getLast nonempty) := List.getLast?_eq_some_getLast nonempty
      rw [complete, last] at same
      simp [dropping] at same
    · rw [same]
      refine ⟨⟨named .anyShallow position, by simp, rfl⟩,
        List.pairwise_append.mpr ⟨apart, List.pairwise_singleton _ _, ?_⟩⟩
      intro sibling _ star member
      rw [List.mem_singleton.mp member]
      exact mergeable_of_unnested rfl
  · rw [complete_of_not_all dropping]
    refine ⟨?_, apart⟩
    simpa using dropping

theorem complete_wellFormed (formed : ∀ selector ∈ selectors, selector.WellFormed) :
    ∀ selector ∈ complete selectors, selector.WellFormed := by
  rcases complete_eq selectors with same | ⟨position, _, same⟩
  · rw [same]
    exact formed
  · intro selector member
    rw [same] at member
    rcases List.mem_append.mp member with earlier | star
    · exact formed selector earlier
    · rw [List.mem_singleton.mp star]
      exact wellFormed_named _ _

/-- A block of well-formed selectors is finished as a settled one, and so are all blocks below it. -/
theorem finish_wellFormed (nonempty : selectors ≠ []) (formed : ∀ selector ∈ selectors, selector.WellFormed) :
    Settled (finish selectors) ∧ ∀ selector ∈ finish selectors, selector.WellFormed := by
  -- The blocks that are put together below are lower than this one.
  generalize height : heightAll selectors = levels
  induction levels using Nat.strongRecOn generalizing selectors with
  | ind levels ih =>
    have joined : ∀ a b : Selector, a.WellFormed ∧ a.height ≤ levels → b.WellFormed ∧ b.height ≤ levels →
        mergeable a b = true → (combine finish a b).WellFormed ∧ (combine finish a b).height ≤ levels := by
      rintro a b ⟨formed, low⟩ ⟨formed', low'⟩ joins
      have lower : heightAll (a.children ++ b.children) < levels := by
        rw [heightAll_append]
        rw [height_eq] at low low'
        omega
      obtain ⟨nonempty, below⟩ := formed.children_append formed' joins
      obtain ⟨settled, all⟩ := ih _ lower nonempty below rfl
      exact ⟨formed.combine joins settled all, flat_finish.combine low low'⟩
    have all : ∀ selector ∈ joinAll selectors, selector.WellFormed ∧ selector.height ≤ levels := by
      refine forall_mem_foldl_merge joined nofun ?_
      intro selector member
      exact ⟨formed selector member, heightAll_le_iff.mp (Nat.le_of_eq height) selector member⟩
    rw [finish_eq]
    exact ⟨settled_complete (joinAll_ne_nil nonempty) (apart_joinAll selectors),
      complete_wellFormed fun selector member => (all selector member).1⟩

end Block
end FieldSelect
