import Mathlib.Data.List.Induction

/-! The first of the items that score best. Those before it score less, and those behind it score no more. -/
namespace FieldSelect
variable {α : Type}

/-- The item scores so much, the items before it score less, and those behind it score no more. What has no score does
not count. -/
def FirstBest (scores : α → Nat → Prop) (items : List α) (best : α) (top : Nat) : Prop :=
  ∃ before after, items = before ++ best :: after ∧ scores best top ∧
    (∀ item ∈ before, ∀ other, scores item other → other < top) ∧ ∀ item ∈ after, ∀ other, scores item other → other ≤ top

/-- The first best item was found, or there is none, since no item has a score. -/
def FindsFirstBest (score : α → Option Nat) (items : List α) : Option (α × Nat) → Prop
  | none => ∀ item ∈ items, score item = none
  | some (best, top) => FirstBest (score · = some ·) items best top

variable {score : α → Option Nat} {items : List α} {best other : α} {top high : Nat} {found : Option (α × Nat)}

namespace FirstBest

theorem mem {scores : α → Nat → Prop} (first : FirstBest scores items best top) : best ∈ items := by
  obtain ⟨before, after, rfl, _⟩ := first
  exact List.mem_append_right _ List.mem_cons_self

theorem scored {scores : α → Nat → Prop} (first : FirstBest scores items best top) : scores best top := by
  obtain ⟨_, _, _, own, _⟩ := first
  exact own

/-- The best item stays the best when the next one scores no more. -/
theorem concat {scores : α → Nat → Prop} (first : FirstBest scores items best top) {next : α}
    (most : ∀ high, scores next high → high ≤ top) : FirstBest scores (items ++ [next]) best top := by
  obtain ⟨before, after, rfl, own, less, no_more⟩ := first
  refine ⟨before, after ++ [next], by simp, own, less, ?_⟩
  exact List.forall_mem_append.mpr ⟨no_more, List.forall_mem_singleton.mpr most⟩

theorem le (first : FirstBest (score · = some ·) items best top) (member : other ∈ items)
    (scored : score other = some high) : high ≤ top := by
  obtain ⟨before, after, rfl, own, less, most⟩ := first
  rcases List.mem_append.mp member with earlier | later
  · exact Nat.le_of_lt (less other earlier high scored)
  · rcases List.mem_cons.mp later with rfl | behind
    · exact Nat.le_of_eq (Option.some.inj (scored.symm.trans own))
    · exact most other behind high scored

/-- There is only one. -/
theorem unique (first : FirstBest (score · = some ·) items best top)
    (first' : FirstBest (score · = some ·) items other high) : best = other ∧ top = high := by
  obtain rfl : top = high := Nat.le_antisymm (first'.le first.mem first.scored) (first.le first'.mem first'.scored)
  refine ⟨?_, rfl⟩
  obtain ⟨before, after, rfl, own, less, _⟩ := first
  obtain ⟨before', after', same, own', less', _⟩ := first'
  -- If one stood before the other, it would score less.
  rcases List.append_eq_append_iff.mp same with ⟨between, rfl, rest⟩ | ⟨between, rfl, rest⟩
  all_goals
    cases between with
    | nil =>
      cases rest
      rfl
    | cons head tail => ?_
  · cases rest
    exact absurd (less' best (by simp) top own) (Nat.lt_irrefl _)
  · cases rest
    exact absurd (less other (by simp) top own') (Nat.lt_irrefl _)

end FirstBest

namespace FindsFirstBest

theorem eq_none_iff (finds : FindsFirstBest score items found) : found = none ↔ ∀ item ∈ items, score item = none := by
  rcases found with _ | ⟨best, top⟩
  · exact iff_of_true rfl finds
  · have first : FirstBest (score · = some ·) items best top := finds
    refine iff_of_false nofun fun unscored => ?_
    exact Option.some_ne_none _ (first.scored.symm.trans (unscored best first.mem))

theorem eq_some_iff (finds : FindsFirstBest score items found) :
    found = some (best, top) ↔ FirstBest (score · = some ·) items best top := by
  constructor
  · rintro rfl
    exact finds
  · intro first
    rcases found with _ | ⟨other, high⟩
    · exact absurd (first.scored.symm.trans (finds best first.mem)) (Option.some_ne_none _)
    · obtain ⟨rfl, rfl⟩ := FirstBest.unique finds first
      rfl

/-- What comes next is the best only if it scores more than the best so far. -/
theorem concat (finds : FindsFirstBest score items found) (next : α) :
    FindsFirstBest score (items ++ [next])
      (match score next with
        | none => found
        | some high => if found.all (·.2 < high) then some (next, high) else found) := by
  have joined {P : α → Prop} (before : ∀ item ∈ items, P item) (last : P next) : ∀ item ∈ items ++ [next], P item :=
    List.forall_mem_append.mpr ⟨before, List.forall_mem_singleton.mpr last⟩
  cases scored : score next with
  | none =>
    rcases found with _ | ⟨best, top⟩
    · exact joined finds scored
    · have first : FirstBest (score · = some ·) items best top := finds
      exact first.concat (by simp [scored])
  | some high =>
    rcases found with _ | ⟨best, top⟩
    · exact ⟨items, [], rfl, scored, fun item member other own => by simp [finds item member] at own, nofun⟩
    · have first : FirstBest (score · = some ·) items best top := finds
      by_cases more : top < high
      · simp only [Option.all_some, more, decide_true, if_true]
        exact ⟨items, [], rfl, scored, fun _ member _ own => Nat.lt_of_le_of_lt (first.le member own) more, nofun⟩
      · simp only [Option.all_some, more, decide_false, Bool.false_eq_true, if_false]
        refine first.concat fun other own => ?_
        obtain rfl : high = other := Option.some.inj (scored.symm.trans own)
        exact Nat.le_of_not_lt more

end FindsFirstBest
end FieldSelect
