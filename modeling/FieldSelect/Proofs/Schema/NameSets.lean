import FieldSelect.Projection.Offers
import Mathlib.Data.List.Sort

/-! Sets of names are sorted, so that they are what they hold: a record offers the properties of its views in one
order, however the views were named. -/
namespace FieldSelect

namespace NameSet
variable {names others : NameSet}

/-- Names strictly increase. -/
def Sorted (names : NameSet) : Prop := names.Pairwise (· < ·)

theorem sorted_insert (sorted : Sorted names) (name : String) : Sorted (insert name names) := by
  induction names with
  | nil => exact List.pairwise_singleton _ _
  | cons other rest ih =>
    obtain ⟨front, inOrder⟩ := List.pairwise_cons.mp sorted
    rw [insert]
    split
    · rename_i less
      refine List.pairwise_cons.mpr ⟨List.forall_mem_cons.mpr ⟨less, fun later member => ?_⟩, sorted⟩
      exact String.lt_trans less (front later member)
    · split
      · exact sorted
      · rename_i notLess different
        refine List.pairwise_cons.mpr ⟨fun later member => ?_, ih inOrder⟩
        rcases mem_insert.mp member with rfl | kept
        · exact String.not_le.mp fun le => different (String.le_antisymm le (String.not_lt.mp notLess))
        · exact front later kept

theorem sorted_union (sorted : Sorted others) (names : NameSet) : Sorted (union names others) := by
  induction names with
  | nil => exact sorted
  | cons name rest ih => exact sorted_insert ih name

theorem eq_of_mem_iff (sorted : Sorted names) (sorted' : Sorted others) (same : ∀ name, name ∈ names ↔ name ∈ others) :
    names = others :=
  List.Pairwise.eq_of_mem_iff sorted sorted' same

end NameSet

namespace ViewTable
variable (table : ViewTable) {selectors others : List Selector}

/-- The union of views, from the last one on. -/
theorem mem_foldr_union {views : List String} {external : String} :
    external ∈ views.foldr (fun view names => NameSet.union (table.propertiesIn view) names) [] ↔
      ∃ view ∈ views, external ∈ table.propertiesIn view := by
  induction views with
  | nil => simp
  | cons view rest ih => rw [List.foldr_cons, NameSet.mem_union, ih, List.exists_mem_cons_iff]

theorem mem_propertiesNamed_iff {external : String} :
    external ∈ table.propertiesNamed selectors ↔
      ∃ view ∈ selectors.filterMap table.namedView?, external ∈ table.propertiesIn view :=
  table.mem_foldr_union

theorem sorted_propertiesNamed (selectors : List Selector) : NameSet.Sorted (table.propertiesNamed selectors) := by
  rw [propertiesNamed]
  induction selectors.filterMap table.namedView? with
  | nil => exact .nil
  | cons view rest ih => exact NameSet.sorted_union ih _

/-- Which views are named counts, and not in which order. -/
theorem propertiesNamed_congr
    (same : ∀ view, view ∈ selectors.filterMap table.namedView? ↔ view ∈ others.filterMap table.namedView?) :
    table.propertiesNamed selectors = table.propertiesNamed others := by
  refine NameSet.eq_of_mem_iff (table.sorted_propertiesNamed selectors) (table.sorted_propertiesNamed others) ?_
  intro external
  rw [mem_propertiesNamed_iff, mem_propertiesNamed_iff]
  simp only [same]

end ViewTable
end FieldSelect
