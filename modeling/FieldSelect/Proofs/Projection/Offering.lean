import FieldSelect.Proofs.Projection.Ending
import FieldSelect.Proofs.Projection.Levels
import FieldSelect.Proofs.Value.Prune

/-! Which fields a value offers, said without the walk that collects them. -/
namespace FieldSelect
open Projection

/-- A property of a view, or of one of the views that selectors name. -/
def ViewTable.Lists (table : ViewTable) (view : String) (selectors : List Selector) (external : String) : Prop :=
  external ∈ table.propertiesIn view ∨ external ∈ table.propertiesNamed selectors

/-- An object offers its entries, and a record what its properties hold: a field that is not unwrapped under the
external name, and for an unwrapped one whatever its value offers. A named view brings in a field of its own, and all
that is offered through a property which the active view does not hold. -/
inductive Offers (tableOf : String → Except SchemaError ViewTable) (view : String) (selectors : List Selector) :
    Value → Offer → Prop where
  | entry {entries : Entries Value} {name : String} {value : Value} (member : (name, value) ∈ entries) :
      Offers tableOf view selectors (.object entries) ⟨name, value, false⟩
  | untabled {typeName : String} {fields : Entries Value} {name : String} {value : Value}
      (untabled : ∀ table, tableOf typeName ≠ .ok table) (member : (name, value) ∈ fields) :
      Offers tableOf view selectors (.record typeName fields) ⟨name, value, false⟩
  | own {typeName external : String} {fields : Entries Value} {table : ViewTable} {value : Value}
      (tabled : tableOf typeName = .ok table) (listed : table.Lists view selectors external)
      (held : table.held? fields external = some value) (whole : table.isUnwrapped external = false) :
      Offers tableOf view selectors (.record typeName fields)
        ⟨external, value, (table.propertiesNamed selectors).contains external⟩
  | spliced {typeName external : String} {fields : Entries Value} {table : ViewTable} {value : Value} {offer : Offer}
      (tabled : tableOf typeName = .ok table) (listed : table.Lists view selectors external)
      (held : table.held? fields external = some value) (unwrapped : table.isUnwrapped external = true)
      (inside : Offers tableOf view selectors value offer) :
      Offers tableOf view selectors (.record typeName fields)
        { offer with byView := offer.byView || !(table.propertiesIn view).contains external }

/-- What a record offers for one of its properties. -/
inductive ViewTable.Contributes (tableOf : String → Except SchemaError ViewTable) (view : String)
    (selectors : List Selector) (table : ViewTable) (fields : Entries Value) (external : String) : Offer → Prop where
  | own {value : Value} (held : table.held? fields external = some value) (whole : table.isUnwrapped external = false) :
      Contributes tableOf view selectors table fields external
        ⟨external, value, (table.propertiesNamed selectors).contains external⟩
  | spliced {value : Value} {offer : Offer} (held : table.held? fields external = some value)
      (unwrapped : table.isUnwrapped external = true) (inside : Offers tableOf view selectors value offer) :
      Contributes tableOf view selectors table fields external
        { offer with byView := offer.byView || !(table.propertiesIn view).contains external }

section Contents
variable {tableOf : String → Except SchemaError ViewTable} {view typeName : String} {selectors : List Selector}
  {fields : Entries Value} {table : ViewTable} {value : Value} {offer : Offer}

theorem offers_object_iff {entries : Entries Value} :
    Offers tableOf view selectors (.object entries) offer ↔
      ∃ entry ∈ entries, offer = ⟨entry.1, entry.2, false⟩ := by
  constructor
  · rintro ⟨member⟩
    exact ⟨_, member, rfl⟩
  · rintro ⟨entry, member, rfl⟩
    exact .entry member

theorem offers_untabled_iff (untabled : ∀ table, tableOf typeName ≠ .ok table) :
    Offers tableOf view selectors (.record typeName fields) offer ↔
      ∃ entry ∈ fields, offer = ⟨entry.1, entry.2, false⟩ := by
  constructor
  · intro offers
    cases offers with
    | untabled _ member => exact ⟨_, member, rfl⟩
    | own tabled => exact absurd tabled (untabled _)
    | spliced tabled => exact absurd tabled (untabled _)
  · rintro ⟨entry, member, rfl⟩
    exact .untabled untabled member

theorem offers_record_iff (tabled : tableOf typeName = .ok table) :
    Offers tableOf view selectors (.record typeName fields) offer ↔
      ∃ external, table.Lists view selectors external ∧
        table.Contributes tableOf view selectors fields external offer := by
  constructor
  · intro offers
    cases offers with
    | untabled untabled => exact absurd tabled (untabled table)
    | own tabled' listed held whole =>
      cases tabled.symm.trans tabled'
      exact ⟨_, listed, .own held whole⟩
    | spliced tabled' listed held unwrapped inside =>
      cases tabled.symm.trans tabled'
      exact ⟨_, listed, .spliced held unwrapped inside⟩
  · rintro ⟨external, listed, contributed⟩
    cases contributed with
    | own held whole => exact .own tabled listed held whole
    | spliced held unwrapped inside => exact .spliced tabled listed held unwrapped inside

theorem ViewTable.mem_of_held? {external : String} (held : table.held? fields external = some value) :
    ∃ declared, (declared, value) ∈ fields := by
  obtain ⟨declared, _, found⟩ := Option.bind_eq_some_iff.mp held
  exact ⟨declared, Entries.mem_of_find? found⟩

/-! All that is offered stands in the value. -/

theorem Offers.height_lt (offers : Offers tableOf view selectors value offer) : offer.value.height < value.height := by
  induction offers with
  | entry member =>
    rw [Value.height]
    exact Nat.lt_succ_of_le (Value.height_le_of_mem_entries member)
  | untabled _ member =>
    rw [Value.height]
    exact Nat.lt_succ_of_le (Value.height_le_of_mem_entries member)
  | own _ _ held =>
    obtain ⟨declared, member⟩ := ViewTable.mem_of_held? held
    rw [Value.height]
    exact Nat.lt_succ_of_le (Value.height_le_of_mem_entries member)
  | spliced _ _ held _ _ ih =>
    obtain ⟨declared, member⟩ := ViewTable.mem_of_held? held
    rw [Value.height]
    exact Nat.lt_succ_of_lt (Nat.lt_of_lt_of_le ih (Value.height_le_of_mem_entries member))

theorem Offers.height_le (offers : Offers tableOf view selectors (.record typeName fields) offer) :
    offer.value.height ≤ Value.heightEntries fields := by
  have low := offers.height_lt
  rw [Value.height] at low
  exact Nat.le_of_lt_succ low

theorem Offers.hasRecord {other : String} (offers : Offers tableOf view selectors value offer)
    (inside : offer.value.HasRecord other) : value.HasRecord other := by
  induction offers with
  | entry member => exact .entry member inside
  | untabled _ member => exact .field member inside
  | own _ _ held =>
    obtain ⟨declared, member⟩ := ViewTable.mem_of_held? held
    exact .field member inside
  | spliced _ _ held _ _ ih =>
    obtain ⟨declared, member⟩ := ViewTable.mem_of_held? held
    exact .field member (ih inside)

theorem Offers.ordered (offers : Offers tableOf view selectors value offer) (ordered : value.Ordered) :
    offer.value.Ordered := by
  induction offers with
  | entry member => exact ordered.of_object.2 _ member
  | untabled _ member => exact ordered.of_record.2 _ member
  | own _ _ held =>
    obtain ⟨declared, member⟩ := ViewTable.mem_of_held? held
    exact ordered.of_record.2 _ member
  | spliced _ _ held _ _ ih =>
    obtain ⟨declared, member⟩ := ViewTable.mem_of_held? held
    exact ih (ordered.of_record.2 _ member)

end Contents

namespace Projector
variable {projector : Projector Id} {view typeName : String} {selectors : List Selector} {fields : Entries Value}
  {table : ViewTable}

/-- The list is all that the value offers. -/
def Collects (tableOf : String → Except SchemaError ViewTable) (view : String) (selectors : List Selector)
    (value : Value) (offers : List Offer) : Prop :=
  ∀ offer, offer ∈ offers ↔ Offers tableOf view selectors value offer

/-- One group of offers for each property that the record lists, in the order of the external names. -/
def Grouped (tableOf : String → Except SchemaError ViewTable) (view : String) (selectors : List Selector)
    (table : ViewTable) (fields : Entries Value) (groups : List (List Offer)) : Prop :=
  List.Forall₂
    (fun external group => ∀ offer, offer ∈ group ↔ table.Contributes tableOf view selectors fields external offer)
    (NameSet.union (table.propertiesIn view) (table.propertiesNamed selectors)) groups

theorem collects_of_groups {tableOf : String → Except SchemaError ViewTable} {groups : List (List Offer)}
    (tabled : tableOf typeName = .ok table) (grouped : Grouped tableOf view selectors table fields groups) :
    Collects tableOf view selectors (.record typeName fields) groups.flatten := by
  intro offer
  rw [offers_record_iff tabled, List.mem_flatten]
  constructor
  · rintro ⟨group, present, member⟩
    obtain ⟨external, listed, own⟩ := exists_of_forall₂ grouped.flip present
    exact ⟨external, NameSet.mem_union.mp listed, (own offer).mp member⟩
  · rintro ⟨external, listed, contributed⟩
    obtain ⟨group, present, own⟩ := exists_of_forall₂ grouped (NameSet.mem_union.mpr listed)
    exact ⟨group, present, (own offer).mpr contributed⟩

section Step
variable {inner : String → Entries Value → Projection Id (List Offer)}
  (opened : ∀ typeName lower, Value.heightEntries lower < Value.heightEntries fields →
    Ends (Collects projector.tableOf view selectors (.record typeName lower))
      (Value.LacksTable projector.tableOf (.record typeName lower)) (inner typeName lower))
include opened

theorem splice_ends (byView : Bool) {value : Value} (low : value.height ≤ Value.heightEntries fields) :
    Ends
      (fun offers => ∀ offer, offer ∈ offers ↔
        ∃ own, Offers projector.tableOf view selectors value own ∧
          offer = { own with byView := own.byView || byView })
      (Value.LacksTable projector.tableOf value) (splice inner byView value) := by
  cases value with
  | record typeName lower =>
    rw [Value.height] at low
    refine (opened typeName lower low).bind fun offers collected => .pure fun offer => ?_
    rw [List.mem_map]
    exact exists_congr fun own => and_congr (collected own) eq_comm
  | object entries =>
    refine .pure fun offer => ?_
    simp only [offers_object_iff, List.mem_map]
    constructor
    · rintro ⟨entry, member, rfl⟩
      exact ⟨_, ⟨entry, member, rfl⟩, rfl⟩
    · rintro ⟨_, ⟨entry, member, rfl⟩, rfl⟩
      exact ⟨entry, member, rfl⟩
  | _ =>
    refine .pure fun offer => ⟨fun member => absurd member List.not_mem_nil, ?_⟩
    rintro ⟨own, offers, _⟩
    cases offers

theorem propertyOffers_ends (external : String) :
    Ends (fun offers => ∀ offer, offer ∈ offers ↔
        table.Contributes projector.tableOf view selectors fields external offer)
      (Value.LacksTable projector.tableOf (.record typeName fields))
      (propertyOffers inner table (table.propertiesIn view) (table.propertiesNamed selectors) fields external) := by
  rw [propertyOffers]
  cases held : table.held? fields external with
  | none =>
    refine .pure fun offer => ⟨fun member => absurd member List.not_mem_nil, fun contributed => ?_⟩
    cases contributed with
    | own held' => cases held.symm.trans held'
    | spliced held' => cases held.symm.trans held'
  | some value =>
    obtain ⟨declared, member⟩ := ViewTable.mem_of_held? held
    dsimp only
    cases unwrapped : table.isUnwrapped external with
    | true =>
      have spliced := splice_ends opened (!(table.propertiesIn view).contains external)
        (Value.height_le_of_mem_entries member)
      refine spliced.imp (fun offers collected offer => ?_) fun error lacks => lacks.imp fun _ => .field member
      rw [collected]
      constructor
      · rintro ⟨own, offers, rfl⟩
        exact .spliced held unwrapped offers
      · rintro (⟨_, whole⟩ | ⟨held', _, offers⟩)
        · cases unwrapped.symm.trans whole
        · cases held.symm.trans held'
          exact ⟨_, offers, rfl⟩
    | false =>
      refine .pure fun offer => ?_
      rw [List.mem_singleton]
      constructor
      · rintro rfl
        exact .own held unwrapped
      · rintro (⟨held', _⟩ | ⟨_, unwrapped', _⟩)
        · cases held.symm.trans held'
          rfl
        · cases unwrapped.symm.trans unwrapped'

/-- A record with a table offers its properties one after the other. -/
theorem offersWith_grouped (tabled : projector.tableOf typeName = .ok table) :
    Ends (fun offers => ∃ groups, offers = groups.flatten ∧
        Grouped projector.tableOf view selectors table fields groups)
      (Value.LacksTable projector.tableOf (.record typeName fields))
      (projector.offersWith view selectors inner typeName fields) := by
  rw [offersWith, table?_of_ok tabled, pure_bind]
  exact (Ends.mapM fun external _ => propertyOffers_ends opened external).bind fun groups paired =>
    .pure ⟨groups, rfl, paired⟩

theorem offersWith_ends :
    Ends (Collects projector.tableOf view selectors (.record typeName fields))
      (Value.LacksTable projector.tableOf (.record typeName fields))
      (projector.offersWith view selectors inner typeName fields) := by
  cases found : projector.tableOf typeName with
  | ok table =>
    refine (offersWith_grouped opened found).imp ?_ fun _ => id
    rintro _ ⟨groups, rfl, paired⟩
    exact collects_of_groups found paired
  | error cause =>
    have untabled : ∀ table, projector.tableOf typeName ≠ .ok table := by
      intro table tabled
      cases found.symm.trans tabled
    have looked := (projector.table?_ends typeName).imp (fun _ => id) fun error ⟨cause, untabled, same⟩ =>
      show Value.LacksTable projector.tableOf (.record typeName fields) error from
        ⟨typeName, cause, .here fields, untabled, same⟩
    rw [offersWith]
    refine looked.bind fun result answer => ?_
    cases result with
    | some table => exact absurd ((answer table).mp rfl) (untabled table)
    | none =>
      refine .pure fun offer => ?_
      rw [offers_untabled_iff untabled, List.mem_map]
      exact exists_congr fun entry => and_congr_right fun _ => eq_comm

end Step

/-- With levels enough the walk collects all that a record offers. -/
theorem recordOffers_ends {levels : Nat} (enough : Value.heightEntries fields ≤ levels) :
    Ends (Collects projector.tableOf view selectors (.record typeName fields))
      (Value.LacksTable projector.tableOf (.record typeName fields))
      (projector.recordOffers view selectors levels typeName fields) := by
  induction levels generalizing typeName fields with
  | zero => exact offersWith_ends fun _ lower less => by omega
  | succ levels ih => exact offersWith_ends fun _ lower less => ih (by omega)

theorem collects_of_recordOffers {levels : Nat} (enough : Value.heightEntries fields ≤ levels) {offers : List Offer}
    (collected : projector.recordOffers view selectors levels typeName fields = pure offers) :
    Collects projector.tableOf view selectors (.record typeName fields) offers := by
  have ends := @recordOffers_ends projector view typeName selectors fields levels enough
  rw [collected] at ends
  exact ends.of_pure

theorem recordOffers_grouped {levels : Nat} (enough : Value.heightEntries fields ≤ levels)
    (tabled : projector.tableOf typeName = .ok table) :
    Ends (fun offers => ∃ groups, offers = groups.flatten ∧
        Grouped projector.tableOf view selectors table fields groups)
      (Value.LacksTable projector.tableOf (.record typeName fields))
      (projector.recordOffers view selectors levels typeName fields) := by
  cases levels with
  | zero => exact offersWith_grouped (fun _ lower less => by omega) tabled
  | succ levels => exact offersWith_grouped (fun _ lower less => recordOffers_ends (by omega)) tabled

end Projector
end FieldSelect
