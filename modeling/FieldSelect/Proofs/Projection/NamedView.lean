import FieldSelect.Proofs.Projection.Clearing
import FieldSelect.Proofs.Projection.Simulation
import FieldSelect.Proofs.Schema.NameSets
import Mathlib

/-! A filter that names a view of a record keeps what that view brings in, as a whole, and nothing else. -/
namespace FieldSelect
open Projection Value

/-- A name that is no field's own matches nothing. -/
theorem Frontier.resolve_of_ne {named candidate : String} (different : candidate ≠ named) (position : Position)
    (bindings : Option Bindings) :
    (top [.named (.exact named) position]).resolve candidate bindings = .unmatched := by
  have misses : fit? candidate bindings (.named (.exact named) position) = none := by
    rw [fit?]
    split
    · exact if_neg (Ne.symm different)
    · rfl
  have unfit : (top [.named (.exact named) position]).best? candidate bindings = none := by
    rw [best?, top, List.foldl_cons, List.foldl_nil, misses]
    rfl
  rw [resolve, unfit]
  rfl

namespace ViewTable
variable {tableOf : String → Except SchemaError ViewTable} {table : ViewTable} {view named external : String}
  {position : Position} {fields : Entries Value} {offer : Offer}

theorem propertiesNamed_of_declared (declared : table.hasView named = true) :
    external ∈ table.propertiesNamed [.named (.exact named) position] ↔ external ∈ table.propertiesIn named := by
  have own : table.namedView? (.named (.exact named) position) = some named := by
    simp [namedView?, Selector.named, declared]
  rw [mem_propertiesNamed_iff, List.filterMap_cons_some own]
  simp

/-- A field of the named view is brought in, and so is what stands in the place of one that the active view lacks. -/
theorem Contributes.byView (declared : table.hasView named = true) (inside : external ∈ table.propertiesIn named)
    (hidden : table.isUnwrapped external = true → external ∉ table.propertiesIn view)
    (contributed : table.Contributes tableOf view [.named (.exact named) position] fields external offer) :
    offer.byView = true := by
  cases contributed with
  | own => simpa using (propertiesNamed_of_declared declared).mpr inside
  | spliced _ unwrapped => simp [hidden unwrapped]

end ViewTable

namespace Projector
variable {projector : Projector Id} {view named typeName : String} {position : Position} {fields : Entries Value}

/-- What becomes of an offer that only a view can bring in. -/
def Brought (projector : Projector Id) (offer : Offer) (result : Option (String × Value)) : Prop :=
  match result with
  | none => offer.byView = false
  | some (name, value) => offer.byView = true ∧ name = offer.name ∧ projector.whole offer.value = pure value

theorem field_brings {levels : Nat} {descend : Value → Frontier → Projection Id Value} {offer : Offer}
    (different : offer.name ≠ named) (enough : offer.value.height ≤ levels) :
    Ends (projector.Brought offer) (LacksTable projector.tableOf offer.value)
      (projector.field levels descend (.top [.named (.exact named) position]) offer) := by
  have chosen : projector.chosen? (.top [.named (.exact named) position]) offer =
      if offer.byView then some (none, .whole) else none := by
    rw [chosen?, Frontier.resolve_of_ne different]
  rw [field, chosen]
  cases brought : offer.byView with
  | false => exact .pure brought
  | true =>
    have kept : Ends (fun value => projector.whole offer.value = pure value) (LacksTable projector.tableOf offer.value)
        (projector.wholeWithin levels offer.value) := by
      rw [whole_eq_wholeWithin enough]
      exact (wholeWithin_ends enough).given.imp (fun _ => And.left) fun _ => id
    exact kept.bind fun value same => .pure ⟨brought, rfl, same⟩

/-- Of the fields that are offered, the entries are those that a view brings in, each as a whole. Where two of them have
one name, it is one of the two. -/
structure Brings (offered : Offer → Prop) (whole : Value → Value → Prop) (entries : Entries Value) : Prop where
  sorted : Entries.Sorted entries
  names : ∀ name, name ∈ Entries.keys entries ↔ ∃ offer, offered offer ∧ offer.byView = true ∧ offer.name = name
  wholes : ∀ entry ∈ entries, ∃ offer, offered offer ∧ offer.byView = true ∧ offer.name = entry.1 ∧
    whole offer.value entry.2

theorem Brings.shows {offered : Offer → Prop} {whole : Value → Value → Prop} {entries : Entries Value} {offer : Offer}
    (brings : Brings offered whole entries) (own : offered offer) (brought : offer.byView = true)
    (alone : ∀ other, offered other → other.byView = true → other.name = offer.name → other.value = offer.value) :
    ∃ result, (offer.name, result) ∈ entries ∧ whole offer.value result := by
  have present : offer.name ∈ Entries.keys entries := (brings.names _).mpr ⟨offer, own, brought, rfl⟩
  obtain ⟨⟨name, result⟩, member, rfl⟩ := List.mem_map.mp present
  obtain ⟨other, offered, brought', same, kept⟩ := brings.wholes _ member
  exact ⟨result, member, alone other offered brought' same ▸ kept⟩

theorem brings_of_results {offered : Offer → Prop} {offers : List Offer} {results : List (Option (String × Value))}
    (collected : ∀ offer, offer ∈ offers ↔ offered offer) (paired : List.Forall₂ projector.Brought offers results) :
    Brings offered (fun value result => projector.whole value = pure result)
      (Entries.ofPairs (results.filterMap id)) where
  sorted := Entries.sorted_ofPairs _
  names name := by
    rw [Entries.mem_keys_ofPairs, Entries.keys, List.mem_map]
    constructor
    · rintro ⟨pair, member, rfl⟩
      obtain ⟨_, present, rfl⟩ := List.mem_filterMap.mp member
      obtain ⟨offer, own, brought, same, _⟩ := exists_of_forall₂ paired.flip present
      exact ⟨offer, (collected offer).mp own, brought, same.symm⟩
    · rintro ⟨offer, own, brought, rfl⟩
      obtain ⟨result, present, made⟩ := exists_of_forall₂ paired ((collected offer).mpr own)
      cases result with
      | none => cases brought.symm.trans made
      | some pair => exact ⟨pair, List.mem_filterMap.mpr ⟨_, present, rfl⟩, made.2.1⟩
  wholes entry member := by
    obtain ⟨_, present, rfl⟩ := List.mem_filterMap.mp (Entries.mem_of_mem_ofPairs member)
    obtain ⟨offer, own, brought, same, kept⟩ := exists_of_forall₂ paired.flip present
    exact ⟨offer, (collected offer).mp own, brought, same.symm, kept⟩

/-- A filter of one selector is one stage of it. -/
theorem project_of_single (projector : Projector Id) (source : String) (name : Name) (position : Position)
    (view : String) (value : Value) :
    projector.project ⟨source, [.named name position]⟩ view value =
      projector.projectWithin view value.height value (.top [.named name position]) := by
  show (projector.projectStage ⟨source, [.named name position]⟩ view value 0 >>= pure) = _
  rw [bind_pure]
  rfl

theorem project_brings (source : String)
    (unoffered : ∀ offer,
      Offers projector.tableOf view [.named (.exact named) position] (.record typeName fields) offer →
        offer.name ≠ named) :
    Ends
      (fun result => ∃ entries, result = .object entries ∧
        Brings (Offers projector.tableOf view [.named (.exact named) position] (.record typeName fields))
          (fun value result => projector.whole value = pure result) entries)
      (LacksTable projector.tableOf (.record typeName fields))
      (projector.project ⟨source, [.named (.exact named) position]⟩ view (.record typeName fields)) := by
  rw [project_of_single, Value.height, projectWithin]
  refine (recordOffers_ends (Nat.le_refl _)).bind fun offers collected => ?_
  have each : ∀ offer ∈ offers, Ends (projector.Brought offer) (LacksTable projector.tableOf (.record typeName fields))
      (projector.field (heightEntries fields) (projector.projectWithin view (heightEntries fields))
        (.top [.named (.exact named) position]) offer) := by
    intro offer member
    have offered := (collected offer).mp member
    exact (field_brings (unoffered offer offered) offered.height_le).imp (fun _ => id) fun error lacks =>
      lacks.imp fun _ => offered.hasRecord
  exact (Ends.mapM each).bind fun results paired => .pure ⟨_, rfl, brings_of_results collected paired⟩

end Projector

namespace Engine

/-- A filter that is the name of a view, and of no field, keeps as a whole what the view brings in. Of the properties of
that view these are the ones that are not unwrapped, and all that stands in the place of the unwrapped ones that the
active view does not hold; for one that it does hold, only what its own value marks. -/
theorem project_namedView (engine : Engine) (reachable : engine.catalog.Reachable) (bindings : Option Bindings)
    {view named typeName : String} {table : ViewTable} {fields : Entries Value} (source : String) (position : Position)
    (tabled : engine.catalog.build typeName = .ok table) (declared : table.hasView named = true)
    (unoffered : ∀ offer,
      Offers engine.catalog.build view [.named (.exact named) position] (.record typeName fields) offer →
        offer.name ≠ named) :
    let record : Value := .record typeName fields
    let filter : Tree := ⟨source, [.named (.exact named) position]⟩
    let outcome := (engine.run ((engine.projector bindings).project filter view record)).1
    let offered := Offers engine.catalog.build view filter.selectors record
    let whole := fun value result => (engine.run ((engine.projector bindings).whole value)).1 = .ok result
    (∃ error, outcome = .error error ∧ record.LacksTable engine.catalog.build error) ∨
      ∃ entries, outcome = .ok (.object entries) ∧ Projector.Brings offered whole entries ∧
        ∀ external ∈ table.propertiesIn named,
          (table.isUnwrapped external = true → external ∉ table.propertiesIn view) →
            ∀ offer, table.Contributes engine.catalog.build view filter.selectors fields external offer →
              (∀ other, offered other → other.byView = true → other.name = offer.name → other.value = offer.value) →
                ∃ result, (offer.name, result) ∈ entries ∧ whole offer.value result := by
  intro record filter outcome offered whole
  have ends := @Projector.project_brings (engine.projectorOver bindings engine.catalog.build) _ _ _ _ _ source unoffered
  have same : whole = fun value result =>
      (engine.projectorOver bindings engine.catalog.build).whole value = pure result := by
    funext value result
    exact congrArg (· = _) (engine.run_whole bindings reachable value)
  rw [show outcome = _ from engine.run_project bindings reachable filter view record, same]
  refine ends.cases.imp id ?_
  rintro ⟨_, succeeded, entries, rfl, brings⟩
  refine ⟨entries, succeeded, brings, fun external inside hidden offer contributed alone => ?_⟩
  have listed : table.Lists view filter.selectors external :=
    .inr ((ViewTable.propertiesNamed_of_declared declared).mpr inside)
  have own : offered offer := (offers_record_iff tabled).mpr ⟨external, listed, contributed⟩
  exact brings.shows own (contributed.byView declared inside hidden) alone

/-- Orders show the fields of their address in its place, in the given views. -/
private def ordering (views : List String) : Engine :=
  let address : Schema := ⟨"Address", [⟨"city", none, [], false⟩, ⟨"code", none, ["private"], false⟩]⟩
  let order : Schema :=
    ⟨"Order", [⟨"id", none, [], false⟩, ⟨"total", none, ["detail"], false⟩, ⟨"address", none, views, true⟩]⟩
  ⟨.standard, .empty, ((Catalog.ofSettings .standard).register address).register order, .ofSpec .standard⟩

private def addressTable : ViewTable :=
  ⟨"Address", [("base", ["city"]), ("private", ["city", "code"])], [], [("city", "city"), ("code", "code")]⟩

private def orderTable (base : NameSet) : ViewTable :=
  ⟨"Order", [("base", base), ("detail", ["address", "id", "total"])], ["address"],
    [("address", "address"), ("id", "id"), ("total", "total")]⟩

private def address : Entries Value := [("city", .string "Oslo"), ("code", .integer 7)]

private def order : Entries Value :=
  [("address", .record "Address" address), ("id", .integer 9), ("total", .integer 5)]

private def detail : Tree := ⟨"detail", [.named (.exact "detail") .start]⟩

private theorem ordering_reachable (views : List String) : (ordering views).catalog.Reachable :=
  .register (.register (.ofSettings _) _) _

/-- What orders offer, where it turns on their views whether the address is brought in. -/
private theorem order_offers {views : List String} {byView : Bool}
    (collected : ((ordering views).projectorOver none (ordering views).catalog.build).recordOffers "base"
      detail.selectors 2 "Order" order =
        pure [⟨"city", .string "Oslo", byView⟩, ⟨"id", .integer 9, true⟩, ⟨"total", .integer 5, true⟩])
    (offer : Offer) :
    Offers (ordering views).catalog.build "base" detail.selectors (.record "Order" order) offer ↔
      offer = ⟨"city", .string "Oslo", byView⟩ ∨ offer = ⟨"id", .integer 9, true⟩ ∨
        offer = ⟨"total", .integer 5, true⟩ := by
  refine (Projector.collects_of_recordOffers (by decide) collected offer).symm.trans ?_
  simp

private theorem detail_of_hidden_address :
    ((ordering ["detail"]).run
      (((ordering ["detail"]).projector none).project detail "base" (.record "Order" order))).1 =
        .ok (.object [("city", .string "Oslo"), ("id", .integer 9), ("total", .integer 5)]) := by
  rw [run_project _ _ (ordering_reachable _)]
  rfl

private theorem detail_of_visible_address :
    ((ordering ["base", "detail"]).run
      (((ordering ["base", "detail"]).projector none).project detail "base" (.record "Order" order))).1 =
        .ok (.object [("id", .integer 9), ("total", .integer 5)]) := by
  rw [run_project _ _ (ordering_reachable _)]
  rfl

theorem project_namedView_of_hidden_address :
    let engine := ordering ["detail"]
    let offered := Offers engine.catalog.build "base" detail.selectors (.record "Order" order)
    let outcome := (engine.run ((engine.projector none).project detail "base" (.record "Order" order))).1
    engine.catalog.Reachable ∧ engine.catalog.build "Order" = .ok (orderTable ["id"]) ∧
      (orderTable ["id"]).hasView "detail" = true ∧ (∀ offer, offered offer → offer.name ≠ "detail") ∧
      outcome = .ok (.object [("city", .string "Oslo"), ("id", .integer 9), ("total", .integer 5)]) ∧
      ∃ entries, outcome = .ok (.object entries) ∧ ∃ result, ("city", result) ∈ entries ∧
        (engine.run ((engine.projector none).whole (.string "Oslo"))).1 = .ok result := by
  intro engine offered outcome
  have reachable := ordering_reachable ["detail"]
  have tabled : (ordering ["detail"]).catalog.build "Order" = .ok (orderTable ["id"]) := by decide
  have addressed : (ordering ["detail"]).catalog.build "Address" = .ok addressTable := by decide
  have listed := @order_offers ["detail"] true rfl
  have unoffered : ∀ offer, Offers (ordering ["detail"]).catalog.build "base" detail.selectors (.record "Order" order)
      offer → offer.name ≠ "detail" := by
    intro offer offers
    rcases (listed offer).mp offers with rfl | rfl | rfl <;> decide
  have shown := detail_of_hidden_address
  have inside : Offers (ordering ["detail"]).catalog.build "base" detail.selectors (.record "Address" address)
      ⟨"city", .string "Oslo", false⟩ := .own addressed (.inl (by decide)) rfl rfl
  have city : (orderTable ["id"]).Contributes (ordering ["detail"]).catalog.build "base" detail.selectors order
      "address" ⟨"city", .string "Oslo", true⟩ := .spliced rfl rfl inside
  refine ⟨reachable, tabled, by decide, unoffered, shown, ?_⟩
  rcases project_namedView _ reachable none "detail" .start tabled (by decide) unoffered with
    ⟨_, failed, _⟩ | ⟨entries, succeeded, _, brought⟩
  · cases shown.symm.trans failed
  · refine ⟨entries, succeeded, brought "address" (by decide) (fun _ => by decide) _ city ?_⟩
    intro other offers _ same
    rcases (listed other).mp offers with rfl | rfl | rfl
    · rfl
    · simp at same
    · simp at same

/-- An address that the base view holds as well is lost. -/
theorem project_namedView_loses_visible_address :
    let engine := ordering ["base", "detail"]
    let table := orderTable ["address", "id"]
    let offered := Offers engine.catalog.build "base" detail.selectors (.record "Order" order)
    FieldSelect.compile "detail" = .ok detail ∧ engine.catalog.build "Order" = .ok table ∧
      table.hasView "detail" = true ∧ (∀ offer, offered offer → offer.name ≠ "detail") ∧
      "address" ∈ table.propertiesIn "detail" ∧
      table.Contributes engine.catalog.build "base" detail.selectors order "address" ⟨"city", .string "Oslo", false⟩ ∧
      (engine.run ((engine.projector none).project detail "base" (.record "Order" order))).1 =
        .ok (.object [("id", .integer 9), ("total", .integer 5)]) := by
  intro engine table offered
  have tabled : (ordering ["base", "detail"]).catalog.build "Order" = .ok (orderTable ["address", "id"]) := by decide
  have addressed : (ordering ["base", "detail"]).catalog.build "Address" = .ok addressTable := by decide
  have unoffered : ∀ offer, Offers (ordering ["base", "detail"]).catalog.build "base" detail.selectors
      (.record "Order" order) offer → offer.name ≠ "detail" := by
    intro offer offers
    rcases (@order_offers ["base", "detail"] false rfl offer).mp offers with rfl | rfl | rfl <;> decide
  have inside : Offers (ordering ["base", "detail"]).catalog.build "base" detail.selectors (.record "Address" address)
      ⟨"city", .string "Oslo", false⟩ := .own addressed (.inl (by decide)) rfl rfl
  have city : (orderTable ["address", "id"]).Contributes (ordering ["base", "detail"]).catalog.build "base"
      detail.selectors order "address" ⟨"city", .string "Oslo", false⟩ := .spliced rfl rfl inside
  have read : FieldSelect.compile "detail" = .ok detail := by cbv
  exact ⟨read, tabled, by decide, unoffered, by decide, city, detail_of_visible_address⟩

end Engine
end FieldSelect
