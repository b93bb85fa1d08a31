import FieldSelect.Proofs.Projection.Offering
import FieldSelect.Proofs.Projection.Pruning

/-! A filter without calls turns records into objects, at any depth, and fails at nothing but a record without a
table. -/
namespace FieldSelect
open Projection

namespace Value

/-- The result holds no records, and its entries are in order if those of the value are. -/
structure Cleared (value result : Value) : Prop where
  free : result.RecordFree
  ordered : value.Ordered → result.Ordered

theorem Cleared.array {items results : List Value} (paired : List.Forall₂ Cleared items results) :
    Cleared (.array items) (.array results) where
  free := .array fun _ member =>
    let ⟨_, _, cleared⟩ := exists_of_forall₂ paired.flip member
    cleared.free
  ordered inOrder := .array fun _ member =>
    let ⟨item, present, cleared⟩ := exists_of_forall₂ paired.flip member
    cleared.ordered (inOrder.of_array item present)

theorem Cleared.object {entries results : Entries Value}
    (paired : List.Forall₂ (fun entry result => result.1 = entry.1 ∧ Cleared entry.2 result.2) entries results) :
    Cleared (.object entries) (.object results) where
  free := .object fun _ member =>
    let ⟨_, _, _, cleared⟩ := exists_of_forall₂ paired.flip member
    cleared.free
  ordered inOrder := by
    obtain ⟨sorted, inside⟩ := inOrder.of_object
    have keys : Entries.keys results = Entries.keys entries := by
      refine List.forall₂_eq_eq_eq ▸ List.forall₂_map_left_iff.mpr (List.forall₂_map_right_iff.mpr ?_)
      exact paired.flip.imp fun _ _ related => related.1
    refine .object (by rwa [Entries.Sorted, keys]) fun result member => ?_
    obtain ⟨entry, present, _, cleared⟩ := exists_of_forall₂ paired.flip member
    exact cleared.ordered (inside entry present)

/-- Pairs written in turn, whose values came out of parts of the value. -/
theorem Cleared.ofPairs {value : Value} {pairs : List (String × Value)}
    (each : ∀ pair ∈ pairs, Cleared value pair.2) : Cleared value (.object (Entries.ofPairs pairs)) where
  free := .object fun entry member => (each entry (Entries.mem_of_mem_ofPairs member)).free
  ordered inOrder := .object (Entries.sorted_ofPairs pairs) fun entry member =>
    (each entry (Entries.mem_of_mem_ofPairs member)).ordered inOrder

theorem Cleared.imp {value outer result : Value} (cleared : Cleared value result)
    (inside : outer.Ordered → value.Ordered) : Cleared outer result :=
  ⟨cleared.free, fun inOrder => cleared.ordered (inside inOrder)⟩

theorem Cleared.of_flat {value : Value} (flat : value.height = 0) : Cleared value value :=
  ⟨.scalar flat, fun _ => .scalar flat⟩

mutual

theorem cleared_shell : ∀ value : Value, Cleared value value.shell
  | .array items => .array (cleared_shellItems items)
  | .object _ | .record _ _ => ⟨.object nofun, fun _ => .object .nil nofun⟩
  | .null | .boolean _ | .integer _ | .float _ | .string _ => .of_flat rfl

theorem cleared_shellItems : ∀ items : List Value, List.Forall₂ Cleared items (shellItems items)
  | [] => .nil
  | item :: rest => .cons (cleared_shell item) (cleared_shellItems rest)

end

end Value

open Value

namespace Projector
variable {projector : Projector Id}

theorem wholeWithin_ends {levels : Nat} {value : Value} (enough : value.height ≤ levels) :
    Ends (Cleared value) (LacksTable projector.tableOf value) (projector.wholeWithin levels value) := by
  induction levels generalizing value with
  | zero => cases value <;> first | exact .pure (.of_flat rfl) | (rw [Value.height] at enough; omega)
  | succ levels ih =>
    cases value with
    | array items =>
      rw [Value.height] at enough
      have each : ∀ item ∈ items, Ends (Cleared item) (LacksTable projector.tableOf (.array items))
          (projector.wholeWithin levels item) := by
        intro item member
        have low := height_le_of_mem_items member
        exact (ih (by omega)).imp (fun _ => id) fun error lacks => lacks.imp fun _ => .item member
      exact (Ends.mapM each).bind fun results paired => .pure (.array paired)
    | object entries =>
      rw [Value.height] at enough
      have each : ∀ entry ∈ entries,
          Ends (fun result => result.1 = entry.1 ∧ Cleared entry.2 result.2)
            (LacksTable projector.tableOf (.object entries))
            (do return (entry.1, ← projector.wholeWithin levels entry.2) : Projection Id (String × Value)) := by
        intro entry member
        have low := height_le_of_mem_entries member
        have inside : Ends (Cleared entry.2) (LacksTable projector.tableOf (.object entries))
            (projector.wholeWithin levels entry.2) :=
          (ih (by omega)).imp (fun _ => id) fun error lacks => lacks.imp fun _ => .entry member
        exact inside.bind fun result cleared => .pure ⟨rfl, cleared⟩
      exact (Ends.mapM each).bind fun results paired => .pure (.object paired)
    | record typeName fields =>
      rw [Value.height] at enough
      rw [wholeWithin]
      refine (recordOffers_ends (by omega)).bind fun offers collected => ?_
      have each : ∀ offer ∈ offers,
          Ends (fun pair => Cleared (.record typeName fields) pair.2)
            (LacksTable projector.tableOf (.record typeName fields))
            (do return (offer.name, ← projector.wholeWithin levels offer.value) : Projection Id (String × Value)) := by
        intro offer member
        have offered := (collected offer).mp member
        have low := offered.height_le
        have inside : Ends (Cleared offer.value) (LacksTable projector.tableOf (.record typeName fields))
            (projector.wholeWithin levels offer.value) :=
          (ih (by omega)).imp (fun _ => id) fun error lacks => lacks.imp fun _ => offered.hasRecord
        exact inside.bind fun result cleared => .pure (cleared.imp offered.ordered)
      refine (Ends.mapM each).bind fun pairs paired => .pure (.ofPairs fun pair member => ?_)
      obtain ⟨_, _, cleared⟩ := exists_of_forall₂ paired.flip member
      exact cleared
    | _ => exact .pure (.of_flat rfl)

/-- A field is kept by a selector, which says what goes on below it, or as a whole by a view. -/
theorem exists_of_chosen? {frontier : Frontier} {offer : Offer} {selector : Option Selector}
    {continuation : Continuation} (chosen : projector.chosen? frontier offer = some (selector, continuation)) :
    (∃ found ∈ frontier.selectors, selector = some found ∧ frontier.next found = continuation) ∨
      selector = none ∧ continuation = .whole := by
  rw [chosen?] at chosen
  split at chosen
  · rename_i found _ _ resolved
    cases chosen
    exact .inl ⟨found, Frontier.mem_of_resolve resolved, rfl, rfl⟩
  · split at chosen <;> cases chosen
    exact .inr ⟨rfl, rfl⟩
  · cases chosen

/-- A field that is kept without calls is kept under its name. -/
theorem field_of_quiet {levels : Nat} {descend : Value → Frontier → Projection Id Value} {frontier : Frontier}
    (quiet : frontier.Quiet) (offer : Offer) :
    projector.field levels descend frontier offer =
      match projector.chosen? frontier offer with
      | none => pure none
      | some (_, continuation) => do
        return some (offer.name, ← projector.keep levels descend offer.value continuation) := by
  rw [field]
  cases choice : projector.chosen? frontier offer with
  | none => rfl
  | some pair =>
    obtain ⟨selector, continuation⟩ := pair
    rcases exists_of_chosen? choice with ⟨found, present, rfl, _⟩ | ⟨rfl, _⟩
    · have silent : found.hasCalls = false := by
        have own := quiet found present
        rw [Selector.isQuiet_eq, Bool.and_eq_true, Bool.not_eq_true'] at own
        exact own.1
      simp only [projector.applyCalls_of_no_calls silent]
      rfl
    · rfl

/-- Below a field that is kept, the frontier that goes on is one that its own leads to. -/
theorem leadsTo_of_chosen? {frontier lower : Frontier} {offer : Offer} {selector : Option Selector}
    (chosen : projector.chosen? frontier offer = some (selector, .descend lower)) : frontier.LeadsTo lower := by
  rcases exists_of_chosen? chosen with ⟨found, present, _, next⟩ | ⟨_, whole⟩
  · exact ⟨found, present, next⟩
  · cases whole

/-- What becomes of an offer, if it is kept: a value without records, under the name of the field. -/
def Kept (offer : Offer) (result : Option (String × Value)) : Prop :=
  ∀ pair ∈ result, pair.1 = offer.name ∧ Cleared offer.value pair.2

section Fields
variable {levels : Nat} {descend : Value → Frontier → Projection Id Value} {frontier : Frontier}

theorem field_ends (quiet : frontier.Quiet) {offer : Offer} (enough : offer.value.height ≤ levels)
    (below : ∀ lower, frontier.LeadsTo lower →
      Ends (Cleared offer.value) (LacksTable projector.tableOf offer.value) (descend offer.value lower)) :
    Ends (Kept offer) (LacksTable projector.tableOf offer.value) (projector.field levels descend frontier offer) := by
  rw [field_of_quiet quiet]
  cases choice : projector.chosen? frontier offer with
  | none => exact .pure nofun
  | some pair =>
    obtain ⟨selector, continuation⟩ := pair
    have kept : Ends (Cleared offer.value) (LacksTable projector.tableOf offer.value)
        (projector.keep levels descend offer.value continuation) := by
      cases continuation with
      | stop => exact .pure (cleared_shell offer.value)
      | whole => exact wholeWithin_ends enough
      | descend lower => exact below lower (leadsTo_of_chosen? choice)
    refine kept.bind fun value cleared => .pure ?_
    rintro _ ⟨⟩
    exact ⟨rfl, cleared⟩

/-- All that is made of the fields of one value. -/
theorem results_end (quiet : frontier.Quiet) {value : Value} {offers : List Offer} {view : String}
    {selectors : List Selector} (offered : ∀ offer ∈ offers, Offers projector.tableOf view selectors value offer)
    (enough : ∀ offer ∈ offers, offer.value.height ≤ levels)
    (below : ∀ offer ∈ offers, ∀ lower, frontier.LeadsTo lower →
      Ends (Cleared offer.value) (LacksTable projector.tableOf offer.value) (descend offer.value lower)) :
    Ends
      (List.Forall₂
        (fun offer result => projector.field levels descend frontier offer = pure result ∧ Kept offer result) offers)
      (LacksTable projector.tableOf value) (offers.mapM (projector.field levels descend frontier)) := by
  refine Ends.mapM fun offer member => ?_
  refine (field_ends quiet (enough offer member) (below offer member)).given.imp (fun _ => id) fun error lacks => ?_
  exact lacks.imp fun _ => (offered offer member).hasRecord

/-- Fields of one value make an object without records. -/
theorem cleared_of_results {tableOf : String → Except SchemaError ViewTable} {value : Value} {offers : List Offer}
    {results : List (Option (String × Value))} {view : String} {selectors : List Selector}
    (offered : ∀ offer ∈ offers, Offers tableOf view selectors value offer) (kept : List.Forall₂ Kept offers results) :
    Cleared value (.object (Entries.ofPairs (results.filterMap id))) := by
  refine .ofPairs fun pair member => ?_
  obtain ⟨_, present, rfl⟩ := List.mem_filterMap.mp member
  obtain ⟨offer, _, inside, _, own⟩ := exists_of_forall₂ (forall₂_mem kept).flip present
  exact (own pair rfl).2.imp (offered offer inside).ordered

theorem fields_ends (quiet : frontier.Quiet) {value : Value} {offers : List Offer} {view : String}
    {selectors : List Selector} (offered : ∀ offer ∈ offers, Offers projector.tableOf view selectors value offer)
    (enough : ∀ offer ∈ offers, offer.value.height ≤ levels)
    (below : ∀ offer ∈ offers, ∀ lower, frontier.LeadsTo lower →
      Ends (Cleared offer.value) (LacksTable projector.tableOf offer.value) (descend offer.value lower)) :
    Ends (Cleared value) (LacksTable projector.tableOf value) (projector.fields levels descend frontier offers) :=
  (results_end quiet offered enough below).bind fun _ made =>
    .pure (cleared_of_results offered (made.imp fun _ _ => And.right))

end Fields

/-- One stage of a filter without calls. -/
theorem projectWithin_ends (view : String) {levels : Nat} {value : Value} (enough : value.height ≤ levels)
    {frontier : Frontier} (quiet : frontier.Quiet) :
    Ends (Cleared value) (LacksTable projector.tableOf value) (projector.projectWithin view levels value frontier) := by
  induction levels generalizing value frontier with
  | zero => cases value <;> first | exact .pure (.of_flat rfl) | (rw [Value.height] at enough; omega)
  | succ levels ih =>
    cases value with
    | array items =>
      rw [Value.height] at enough
      have each : ∀ item ∈ items, Ends (Cleared item) (LacksTable projector.tableOf (.array items))
          (projector.projectWithin view levels item frontier) := by
        intro item member
        have low := height_le_of_mem_items member
        exact (ih (by omega) quiet).imp (fun _ => id) fun error lacks => lacks.imp fun _ => .item member
      exact (Ends.mapM each).bind fun results paired => .pure (.array paired)
    | object entries =>
      have offered : ∀ offer ∈ entries.map fun entry => (⟨entry.1, entry.2, false⟩ : Offer),
          Offers projector.tableOf view frontier.explicit (.object entries) offer := by
        intro offer member
        obtain ⟨entry, present, rfl⟩ := List.mem_map.mp member
        exact .entry present
      have low : ∀ offer ∈ entries.map fun entry => (⟨entry.1, entry.2, false⟩ : Offer),
          offer.value.height ≤ levels := fun offer member => by
        have inside := (offered offer member).height_lt
        omega
      exact fields_ends quiet offered low fun offer member lower leads => ih (low offer member) (leads.quiet quiet)
    | record typeName fields =>
      have fits : heightEntries fields ≤ levels := by
        rw [Value.height] at enough
        omega
      refine (recordOffers_ends fits).bind fun offers collected => ?_
      have low : ∀ offer ∈ offers, offer.value.height ≤ levels :=
        fun offer member => Nat.le_trans ((collected offer).mp member).height_le fits
      exact fields_ends quiet (fun offer => (collected offer).mp) low fun offer member lower leads =>
        ih (low offer member) (leads.quiet quiet)
    | _ => exact .pure (.of_flat rfl)

end Projector
end FieldSelect
