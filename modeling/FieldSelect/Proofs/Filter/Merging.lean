import FieldSelect.Proofs.Filter.Bare

/-! Siblings that open the same block become one. The blocks come out the same however they are put together,
as long as each of them keeps something. -/
namespace FieldSelect

/-- Patterns are told apart by their texts alone, and these are compared as texts. -/
instance : EquivBEq Name where
  rfl {name} := by
    change name.same name = true
    cases name <;> simp [Name.same]
  symm {name other} same := by
    change other.same name = true
    change name.same other = true at same
    cases name <;> cases other <;> simp_all [Name.same]
  trans {name other third} same same' := by
    change name.same third = true
    change name.same other = true at same
    change other.same third = true at same'
    cases name <;> cases other <;> cases third <;> simp_all [Name.same]

namespace Selector
variable {selectors : List Selector}

theorem height_eq (selector : Selector) : selector.height = heightAll selector.children + 1 := by
  cases selector
  rw [height]

theorem heightAll_le_iff {levels : Nat} :
    heightAll selectors ≤ levels ↔ ∀ selector ∈ selectors, selector.height ≤ levels := by
  induction selectors with
  | nil => simp [heightAll]
  | cons selector rest ih => simp only [heightAll, Nat.max_le, ih, List.mem_cons, forall_eq_or_imp]

theorem heightAll_append (front back : List Selector) :
    heightAll (front ++ back) = max (heightAll front) (heightAll back) := by
  induction front with
  | nil => simp [heightAll]
  | cons selector rest ih => rw [List.cons_append, heightAll, heightAll, ih, Nat.max_assoc]

theorem heightAll_pos (nonempty : selectors ≠ []) : 0 < heightAll selectors := by
  obtain ⟨selector, rest, rfl⟩ := List.exists_cons_of_ne_nil nonempty
  rw [heightAll, height_eq]
  exact Nat.lt_of_lt_of_le (Nat.succ_pos _) (Nat.le_max_left _ _)

theorem height_lt {child parent : Selector} (member : child ∈ parent.children) : child.height < parent.height := by
  rw [height_eq parent]
  exact Nat.lt_succ_of_le (heightAll_le_iff.mp (Nat.le_refl _) child member)

/-- Induction from the children of a selector to the selector. -/
theorem of_children {P : Selector → Prop}
    (step : ∀ selector : Selector, (∀ child ∈ selector.children, P child) → P selector) (selector : Selector) :
    P selector := by
  generalize height : selector.height = levels
  induction levels using Nat.strongRecOn generalizing selector with
  | ind levels ih => exact step selector fun child member => ih _ (height ▸ height_lt member) child rfl

end Selector

namespace Block
open Selector

section Mergeable
variable {a b c : Selector}

theorem mergeable_iff :
    mergeable a b = true ↔ (a.name == b.name) = true ∧ a.negated = b.negated ∧ (a.nested = true ∧ b.nested = true) ∧
      (a.emptyNested = false ∧ b.emptyNested = false) ∧ a.minDepth = b.minDepth ∧ a.maxDepth = b.maxDepth := by
  simp only [mergeable, Bool.and_eq_true, Bool.not_eq_true', beq_iff_eq, and_assoc]

theorem mergeable_comm (a b : Selector) : mergeable a b = mergeable b a := by
  rw [Bool.eq_iff_iff, mergeable_iff, mergeable_iff, BEq.comm]
  constructor <;> rintro ⟨name, negated, nested, emptied, low, high⟩ <;>
    exact ⟨name, negated.symm, nested.symm, emptied.symm, low.symm, high.symm⟩

theorem mergeable_trans (first : mergeable a b = true) (second : mergeable b c = true) : mergeable a c = true := by
  rw [mergeable_iff] at first second ⊢
  obtain ⟨name, negated, nested, emptied, low, high⟩ := first
  obtain ⟨name', negated', nested', emptied', low', high'⟩ := second
  exact ⟨BEq.trans name name', negated.trans negated', ⟨nested.1, nested'.2⟩, ⟨emptied.1, emptied'.2⟩,
    low.trans low', high.trans high'⟩

/-- Siblings that open the same block can be merged with the same ones. -/
theorem mergeable_congr (joins : mergeable a b = true) (c : Selector) : mergeable a c = mergeable b c := by
  rw [Bool.eq_iff_iff]
  constructor
  · exact mergeable_trans (mergeable_comm a b ▸ joins)
  · exact mergeable_trans joins

theorem mergeable_congr_right (joins : mergeable a b = true) (c : Selector) : mergeable c a = mergeable c b := by
  rw [mergeable_comm c, mergeable_congr joins, mergeable_comm]

end Mergeable

section Merge
variable {finish : List Selector → List Selector} {siblings : List Selector} {a b selector : Selector}

theorem merge_of_joins (joins : mergeable a selector = true) :
    merge finish (a :: siblings) selector = combine finish a selector :: siblings := by
  rw [merge, if_pos joins]

theorem merge_of_stands (stands : mergeable a selector = false) :
    merge finish (a :: siblings) selector = a :: merge finish siblings selector := by
  rw [merge, if_neg (by simp [stands])]

theorem merge_ne_nil (finish : List Selector → List Selector) (selectors : List Selector) (selector : Selector) :
    merge finish selectors selector ≠ [] := by
  cases selectors with
  | nil => exact List.cons_ne_nil _ _
  | cons sibling rest =>
    rw [merge]
    split <;> exact List.cons_ne_nil _ _

/-- A selector that opens a block of its own stands last. -/
theorem merge_of_apart (apart : ∀ sibling ∈ siblings, mergeable sibling selector = false) :
    merge finish siblings selector = siblings ++ [selector] := by
  induction siblings with
  | nil => rfl
  | cons sibling rest ih =>
    have own := List.forall_mem_cons.mp apart
    rw [merge_of_stands own.1, ih own.2, List.cons_append]

/-- What holds of all siblings, and of two that join, holds of all that come out. -/
theorem forall_mem_merge {P : Selector → Prop}
    (joined : ∀ a b, P a → P b → mergeable a b = true → P (combine finish a b))
    (all : ∀ sibling ∈ siblings, P sibling) (own : P selector) :
    ∀ sibling ∈ merge finish siblings selector, P sibling := by
  induction siblings with
  | nil => simpa [merge] using own
  | cons sibling rest ih =>
    obtain ⟨first, others⟩ := List.forall_mem_cons.mp all
    cases joins : mergeable sibling selector with
    | true =>
      rw [merge_of_joins joins]
      exact List.forall_mem_cons.mpr ⟨joined _ _ first own joins, others⟩
    | false =>
      rw [merge_of_stands joins]
      exact List.forall_mem_cons.mpr ⟨first, ih others⟩

theorem forall_mem_foldl_merge {P : Selector → Prop}
    (joined : ∀ a b, P a → P b → mergeable a b = true → P (combine finish a b)) {selectors : List Selector}
    (all : ∀ sibling ∈ siblings, P sibling) (more : ∀ selector ∈ selectors, P selector) :
    ∀ sibling ∈ selectors.foldl (merge finish) siblings, P sibling := by
  induction selectors generalizing siblings with
  | nil => exact all
  | cons selector rest ih =>
    obtain ⟨own, more⟩ := List.forall_mem_cons.mp more
    exact ih (forall_mem_merge joined all own) more

/-- A selector that joins a sibling does not change what else the sibling can be merged with. -/
theorem mergeable_of_mem_merge {merged : List Selector} {selector other : Selector}
    (member : other ∈ merge finish merged selector) :
    ∃ before ∈ merged ++ [selector], ∀ sibling, mergeable sibling other = mergeable sibling before := by
  induction merged with
  | nil => exact ⟨other, by simpa [merge] using member, fun _ => rfl⟩
  | cons sibling rest ih =>
    rw [merge] at member
    split at member
    · rcases List.mem_cons.mp member with joined | member
      · exact ⟨sibling, by simp, fun _ => by rw [joined]; rfl⟩
      · exact ⟨other, by simp [member], fun _ => rfl⟩
    · rcases List.mem_cons.mp member with same | member
      · exact ⟨other, by simp [same], fun _ => rfl⟩
      · obtain ⟨before, present, same⟩ := ih member
        exact ⟨before, List.mem_cons_of_mem _ present, same⟩

/-- No two of the siblings open the same block. -/
def Apart (siblings : List Selector) : Prop := siblings.Pairwise fun a b => mergeable a b = false

theorem Apart.merge (apart : Apart siblings) : Apart (merge finish siblings selector) := by
  induction siblings with
  | nil => exact List.pairwise_singleton _ _
  | cons sibling rest ih =>
    obtain ⟨own, others⟩ := List.pairwise_cons.mp apart
    cases joins : mergeable sibling selector with
    | true =>
      rw [merge_of_joins joins]
      exact List.pairwise_cons.mpr ⟨own, others⟩
    | false =>
      rw [merge_of_stands joins]
      refine List.pairwise_cons.mpr ⟨fun other member => ?_, ih others⟩
      obtain ⟨before, present, same⟩ := mergeable_of_mem_merge member
      rw [same]
      rcases List.mem_append.mp present with earlier | last
      · exact own before earlier
      · rw [List.mem_singleton.mp last]
        exact joins

theorem Apart.foldl_merge (apart : Apart siblings) (selectors : List Selector) :
    Apart (selectors.foldl (Block.merge finish) siblings) := by
  induction selectors generalizing siblings with
  | nil => exact apart
  | cons selector rest ih => exact ih apart.merge

/-- Siblings that are apart already stay as they are. -/
theorem foldl_merge_of_apart {selectors : List Selector} (apart : Apart (siblings ++ selectors)) :
    selectors.foldl (merge finish) siblings = siblings ++ selectors := by
  induction selectors generalizing siblings with
  | nil => simp
  | cons selector rest ih =>
    have own : ∀ sibling ∈ siblings, mergeable sibling selector = false := fun sibling member =>
      (List.pairwise_append.mp apart).2.2 sibling member selector List.mem_cons_self
    rw [List.foldl_cons, merge_of_apart own, ih (by simpa using apart), List.append_assoc, List.singleton_append]

end Merge

section Levels
variable {finish other : List Selector → List Selector} {levels : Nat} {siblings selectors : List Selector}
  {selector : Selector}

/-- Blocks that are put together are no higher than before. -/
def Flat (finish : List Selector → List Selector) : Prop :=
  ∀ selectors, heightAll (finish selectors) ≤ heightAll selectors

theorem Flat.combine (flat : Flat finish) {a b : Selector} (low : a.height ≤ levels) (low' : b.height ≤ levels) :
    (combine finish a b).height ≤ levels := by
  have together := flat (a.children ++ b.children)
  rw [heightAll_append] at together
  rw [height_eq] at low low' ⊢
  change heightAll (finish (a.children ++ b.children)) + 1 ≤ levels
  omega

theorem complete_eq (selectors : List Selector) :
    complete selectors = selectors ∨
      ∃ position, selectors ≠ [] ∧ complete selectors = selectors ++ [named .anyShallow position] := by
  rw [complete]
  split
  · rename_i last found
    split
    · exact .inr ⟨last.position, fun empty => by simp [empty] at found, rfl⟩
    · exact .inl rfl
  · rename_i none
    exact .inl (List.getLast?_eq_none_iff.mp none).symm

theorem complete_of_not_all (kept : selectors.all (·.negated) ≠ true) : complete selectors = selectors := by
  rw [complete]
  split
  · rw [if_neg kept]
  · rename_i none
    rw [List.getLast?_eq_none_iff.mp none]

theorem heightAll_complete (selectors : List Selector) : heightAll (complete selectors) ≤ heightAll selectors := by
  rcases complete_eq selectors with same | ⟨position, nonempty, same⟩
  · exact Nat.le_of_eq (congrArg heightAll same)
  · have positive := heightAll_pos nonempty
    have star : heightAll [named .anyShallow position] = 1 := rfl
    rw [same, heightAll_append, star]
    omega

theorem flat_finishAt (levels : Nat) : Flat (finishAt levels) := by
  induction levels with
  | zero => exact fun _ => Nat.le_refl _
  | succ levels ih =>
    intro selectors
    refine Nat.le_trans (heightAll_complete _) (heightAll_le_iff.mpr ?_)
    refine forall_mem_foldl_merge (fun a b low low' _ => ih.combine low low') (by simp) ?_
    exact heightAll_le_iff.mp (Nat.le_refl _)

theorem merge_congr (same : ∀ selectors, heightAll selectors ≤ levels → finish selectors = other selectors)
    (low : heightAll siblings ≤ levels + 1) (low' : selector.height ≤ levels + 1) :
    merge finish siblings selector = merge other siblings selector := by
  induction siblings with
  | nil => rfl
  | cons sibling rest ih =>
    obtain ⟨own, others⟩ := List.forall_mem_cons.mp (heightAll_le_iff.mp low)
    rw [merge, merge, ih (heightAll_le_iff.mpr others)]
    rw [height_eq] at own low'
    have below : heightAll (sibling.children ++ selector.children) ≤ levels := by
      rw [heightAll_append]
      omega
    rw [combine, combine, same _ below]

theorem foldl_merge_congr (flat : Flat finish)
    (same : ∀ selectors, heightAll selectors ≤ levels → finish selectors = other selectors)
    (low : heightAll siblings ≤ levels + 1) (low' : heightAll selectors ≤ levels + 1) :
    selectors.foldl (merge finish) siblings = selectors.foldl (merge other) siblings := by
  induction selectors generalizing siblings with
  | nil => rfl
  | cons selector rest ih =>
    obtain ⟨own, others⟩ := List.forall_mem_cons.mp (heightAll_le_iff.mp low')
    rw [List.foldl_cons, List.foldl_cons, ← merge_congr same low own]
    refine ih (heightAll_le_iff.mpr ?_) (heightAll_le_iff.mpr others)
    exact forall_mem_merge (fun a b low low' _ => flat.combine low low') (heightAll_le_iff.mp low) own

/-- The levels do not count, as long as there are enough of them. -/
theorem finishAt_levels {height : Nat} (enough : heightAll selectors ≤ levels) (enough' : heightAll selectors ≤ height) :
    finishAt levels selectors = finishAt height selectors := by
  induction levels generalizing height selectors with
  | zero =>
    by_cases empty : selectors = []
    · subst empty
      cases height <;> rfl
    · exact absurd enough (Nat.not_le_of_gt (heightAll_pos empty))
  | succ levels ih =>
    cases height with
    | zero =>
      by_cases empty : selectors = []
      · subst empty
        rfl
      · exact absurd enough' (Nat.not_le_of_gt (heightAll_pos empty))
    | succ height =>
      -- The blocks below are lower than both bounds, so that the lower bound will do for them.
      have below : ∀ lower, heightAll lower ≤ min levels height → finishAt levels lower = finishAt height lower :=
        fun lower low => ih (by omega) (by omega)
      rw [finishAt, finishAt, foldl_merge_congr (flat_finishAt levels) below (Nat.zero_le _) (by omega)]

end Levels

/-- All siblings that open the same block joined, and nothing added. -/
def joinAll (selectors : List Selector) : List Selector := selectors.foldl (merge finish) []

theorem joinAll_ne_nil {selectors : List Selector} (nonempty : selectors ≠ []) : joinAll selectors ≠ [] := by
  rw [joinAll, ← List.dropLast_concat_getLast nonempty, List.foldl_append]
  exact merge_ne_nil _ _ _

theorem apart_joinAll (selectors : List Selector) : Apart (joinAll selectors) :=
  Apart.foldl_merge List.Pairwise.nil selectors

/-- A block is finished by joining its siblings, and then the blocks below them, and by completing what comes out. -/
theorem finish_eq (selectors : List Selector) : finish selectors = complete (joinAll selectors) := by
  by_cases empty : selectors = []
  · subst empty
    rfl
  · obtain ⟨levels, height⟩ := Nat.exists_eq_add_of_lt (heightAll_pos empty)
    rw [Nat.zero_add] at height
    have same : ∀ lower, heightAll lower ≤ levels → finishAt levels lower = finish lower :=
      fun lower low => finishAt_levels low (Nat.le_refl _)
    rw [finish, height, finishAt,
      foldl_merge_congr (flat_finishAt levels) same (Nat.zero_le _) (Nat.le_of_eq height)]
    rfl

theorem flat_finish : Flat finish := fun selectors => flat_finishAt _ selectors

/-- What holds of all selectors and those below them, and of two that join, holds of a finished block. -/
theorem forall_mem_finish {P : Selector → Prop} (star : ∀ position, P (.named .anyShallow position))
    (inner : ∀ selector, P selector → ∀ child ∈ selector.children, P child)
    (joined : ∀ a b, P a → P b → mergeable a b = true → (∀ child ∈ finish (a.children ++ b.children), P child) →
      P (combine finish a b)) {selectors : List Selector} (all : ∀ selector ∈ selectors, P selector) :
    ∀ selector ∈ finish selectors, P selector := by
  -- The blocks that are put together below are lower than this one.
  generalize height : heightAll selectors = levels
  induction levels using Nat.strongRecOn generalizing selectors with
  | ind levels ih =>
    have joins : ∀ a b : Selector, P a ∧ a.height ≤ levels → P b ∧ b.height ≤ levels → mergeable a b = true →
        P (combine finish a b) ∧ (combine finish a b).height ≤ levels := by
      rintro a b ⟨first, low⟩ ⟨second, low'⟩ joins
      have lower : heightAll (a.children ++ b.children) < levels := by
        rw [heightAll_append]
        rw [height_eq] at low low'
        omega
      have below : ∀ child ∈ a.children ++ b.children, P child := by
        intro child member
        rcases List.mem_append.mp member with own | other
        · exact inner a first child own
        · exact inner b second child other
      exact ⟨joined a b first second joins (ih _ lower below rfl), flat_finish.combine low low'⟩
    have together : ∀ selector ∈ joinAll selectors, P selector ∧ selector.height ≤ levels := by
      refine forall_mem_foldl_merge joins nofun ?_
      intro selector member
      exact ⟨all selector member, heightAll_le_iff.mp (Nat.le_of_eq height) selector member⟩
    rw [finish_eq]
    rcases complete_eq (joinAll selectors) with same | ⟨position, _, same⟩
    · rw [same]
      exact fun selector member => (together selector member).1
    · intro selector member
      rw [same] at member
      rcases List.mem_append.mp member with earlier | last
      · exact (together selector earlier).1
      · rw [List.mem_singleton.mp last]
        exact star position

end Block
end FieldSelect
