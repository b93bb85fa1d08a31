import Mathlib.Data.List.Forall2

/-! Lists whose items are related one by one. -/
namespace FieldSelect
variable {α β : Type} {R : α → β → Prop} {items : List α} {others : List β}

theorem exists_of_forall₂ (paired : List.Forall₂ R items others) {item : α} (member : item ∈ items) :
    ∃ other ∈ others, R item other := by
  induction paired with
  | nil => cases member
  | cons related _ ih =>
    rcases List.mem_cons.mp member with rfl | later
    · exact ⟨_, List.mem_cons_self, related⟩
    · obtain ⟨other, present, related⟩ := ih later
      exact ⟨other, List.mem_cons_of_mem _ present, related⟩

theorem forall₂_mem (paired : List.Forall₂ R items others) :
    List.Forall₂ (fun item other => item ∈ items ∧ other ∈ others ∧ R item other) items others := by
  obtain ⟨count, each⟩ := List.forall₂_iff_get.mp paired
  exact List.forall₂_iff_get.mpr
    ⟨count, fun index inside inside' => ⟨List.get_mem _ _, List.get_mem _ _, each index inside inside'⟩⟩

theorem getElem?_of_forall₂ (paired : List.Forall₂ R items others) (index : Nat) :
    Option.Rel R items[index]? others[index]? := by
  induction paired generalizing index with
  | nil => exact .none
  | cons related _ ih =>
    cases index with
    | zero => exact .some related
    | succ index => exact ih index

/-- Where one list is made of two, so is the other. -/
theorem exists_append_of_forall₂ {front back : List α} (paired : List.Forall₂ R (front ++ back) others) :
    ∃ before after, others = before ++ after ∧ List.Forall₂ R front before ∧ List.Forall₂ R back after :=
  ⟨_, _, (List.take_append_drop front.length others).symm, (List.forall₂_take_append _ _ _ paired.flip).flip,
    (List.forall₂_drop_append _ _ _ paired.flip).flip⟩

end FieldSelect
