import FieldSelect.Proofs.Entries
import FieldSelect.Proofs.Projection.Parallel

/-! The levels that a projection is given do not count, as long as they are enough for its value. -/
namespace FieldSelect
open Projection

namespace Value

/-- One and the same value, of a bounded height. -/
def SameUpTo (height : Nat) (value other : Value) : Prop := value = other ∧ value.height ≤ height

theorem SameUpTo.items {height : Nat} {items : List Value} (low : heightItems items ≤ height) :
    List.Forall₂ (SameUpTo height) items items :=
  List.forall₂_same.mpr fun _ member => ⟨rfl, Nat.le_trans (height_le_of_mem_items member) low⟩

theorem SameUpTo.entries {height : Nat} {fields : Entries Value} (low : heightEntries fields ≤ height) :
    List.Forall₂ (Entries.Agree (SameUpTo height)) fields fields :=
  List.forall₂_same.mpr fun _ member => ⟨rfl, rfl, Nat.le_trans (height_le_of_mem_entries member) low⟩

theorem SameUpTo.mono {low high : Nat} (le : low ≤ high) {value other : Value} (same : SameUpTo low value other) :
    SameUpTo high value other :=
  ⟨same.1, Nat.le_trans same.2 le⟩

end Value

open Value

namespace Projector
variable {projector : Projector Id} {view typeName : String} {selectors : List Selector} {fields : Entries Value}

private theorem offersWith_levels {inner outer : String → Entries Value → Projection Id (List Offer)}
    (same : ∀ typeName lower, heightEntries lower < heightEntries fields →
      Alike (List.Forall₂ (Offer.Agree (SameUpTo (heightEntries lower)))) (inner typeName lower) (outer typeName lower)) :
    Alike (List.Forall₂ (Offer.Agree (SameUpTo (heightEntries fields))))
      (projector.offersWith view selectors inner typeName fields)
      (projector.offersWith view selectors outer typeName fields) := by
  refine offersWith_alike ?_ ?_ ?_
  · rintro byView value _ ⟨rfl, low⟩
    cases value with
    | record typeName lower =>
      rw [Value.height] at low
      refine (same typeName lower low).bind fun offers others agree => .pure ?_
      rw [List.forall₂_map_left_iff, List.forall₂_map_right_iff]
      refine agree.imp fun offer other agree => ⟨agree.name, agree.value.mono (Nat.le_of_lt low), ?_⟩
      rw [agree.byView]
    | object entries =>
      rw [Value.height] at low
      exact .pure (Entries.Agree.offers (SameUpTo.entries (Nat.le_of_lt low)) byView)
    | _ => exact .pure .nil
  · intro table _ external _
    cases held : table.held? fields external with
    | none => exact .none
    | some value =>
      obtain ⟨declared, _, found⟩ := Option.bind_eq_some_iff.mp held
      exact .some ⟨rfl, height_le_of_mem_entries (Entries.mem_of_find? found)⟩
  · exact fun _ => SameUpTo.entries (Nat.le_refl _)

/-- All that a record offers is lower than the record. -/
theorem recordOffers_levels {levels height : Nat} (enough : heightEntries fields ≤ levels)
    (enough' : heightEntries fields ≤ height) :
    Alike (List.Forall₂ (Offer.Agree (SameUpTo (heightEntries fields))))
      (projector.recordOffers view selectors levels typeName fields)
      (projector.recordOffers view selectors height typeName fields) := by
  induction levels generalizing height typeName fields with
  | zero =>
    cases height with
    | zero => exact offersWith_levels fun _ lower less => by omega
    | succ height => exact offersWith_levels fun _ lower less => by omega
  | succ levels ih =>
    cases height with
    | zero => exact offersWith_levels fun _ lower less => by omega
    | succ height => exact offersWith_levels fun _ lower less => ih (by omega) (by omega)

theorem wholeWithin_levels {bound levels height : Nat} (enough : bound ≤ levels) (enough' : bound ≤ height) :
    WholeAgrees projector (SameUpTo bound) levels height := by
  rintro value _ ⟨rfl, low⟩
  induction levels generalizing bound height value with
  | zero => cases value <;> cases height <;> first | rfl | (rw [Value.height] at low; omega)
  | succ levels ih =>
    cases height with
    | zero => cases value <;> first | rfl | (rw [Value.height] at low; omega)
    | succ height =>
      have agrees : ∀ bound, bound ≤ levels → bound ≤ height → WholeAgrees projector (SameUpTo bound) levels height := by
        rintro bound enough enough' value _ ⟨rfl, low⟩
        exact ih enough enough' value low
      cases value with
      | array items =>
        rw [Value.height] at low
        exact whole_array_congr (agrees _ (by omega) (by omega)) (SameUpTo.items (Nat.le_refl _))
      | object entries =>
        rw [Value.height] at low
        exact whole_object_congr (agrees _ (by omega) (by omega)) (SameUpTo.entries (Nat.le_refl _))
      | record typeName fields =>
        rw [Value.height] at low
        exact whole_record_congr (agrees _ (by omega) (by omega)) (recordOffers_levels (by omega) (by omega))
      | _ => rfl

theorem whole_eq_wholeWithin {levels : Nat} {value : Value} (enough : value.height ≤ levels) :
    projector.whole value = projector.wholeWithin levels value :=
  wholeWithin_levels (Nat.le_refl _) enough value value ⟨rfl, Nat.le_refl _⟩

theorem projectWithin_levels {levels height : Nat} {value : Value} (enough : value.height ≤ levels)
    (enough' : value.height ≤ height) (frontier : Frontier) :
    projector.projectWithin view levels value frontier = projector.projectWithin view height value frontier := by
  induction levels generalizing height value frontier with
  | zero => cases value <;> cases height <;> first | rfl | (rw [Value.height] at enough; omega)
  | succ levels ih =>
    cases height with
    | zero => cases value <;> first | rfl | (rw [Value.height] at enough'; omega)
    | succ height =>
      have levelled : ∀ bound frontier, bound ≤ levels → bound ≤ height →
          Levelled projector (SameUpTo bound) levels height (projector.projectWithin view levels)
            (projector.projectWithin view height) frontier := by
        intro bound frontier enough enough'
        refine ⟨?_, wholeWithin_levels enough enough', ?_⟩
        · rintro value _ ⟨rfl, _⟩
          rfl
        · rintro lower _ value _ ⟨rfl, low⟩
          exact ih (Nat.le_trans low enough) (Nat.le_trans low enough') lower
      cases value with
      | array items =>
        rw [Value.height] at enough enough'
        rw [projectWithin, projectWithin]
        refine congrArg (· >>= _) (mapM_congr (SameUpTo.items (Nat.le_refl _)) ?_)
        rintro item _ ⟨rfl, low⟩
        exact ih (by omega) (by omega) frontier
      | object entries =>
        rw [Value.height] at enough enough'
        exact fields_congr (levelled _ frontier (by omega) (by omega))
          (Entries.Agree.offers (SameUpTo.entries (Nat.le_refl _)) false)
      | record typeName fields =>
        rw [Value.height] at enough enough'
        rw [projectWithin, projectWithin]
        exact (recordOffers_levels (by omega) (by omega)).bind_congr fun offers others agree =>
          fields_congr (levelled _ frontier (by omega) (by omega)) agree
      | _ => rfl

end Projector
end FieldSelect
