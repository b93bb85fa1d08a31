import FieldSelect.Projection.Walk
import FieldSelect.Proofs.Frontier
import Mathlib.Data.List.Forall2
import Mathlib.Data.Option.Defs

/-! Two projections side by side: what one step of them gives is related when what it starts from is. -/
namespace FieldSelect
namespace Projection
variable {α β γ δ : Type} {R : α → β → Prop} {S : γ → δ → Prop}

/-- Both fail with the same error, or both succeed with related results. -/
inductive Alike (R : α → β → Prop) : Projection Id α → Projection Id β → Prop where
  | pure {a : α} {b : β} (related : R a b) : Alike R (pure a) (pure b)
  | throw (error : ProjectionError) : Alike R (throw error) (throw error)

theorem Alike.bind {first : Projection Id α} {second : Projection Id β} {next : α → Projection Id γ}
    {onward : β → Projection Id δ} (alike : Alike R first second)
    (rest : ∀ a b, R a b → Alike S (next a) (onward b)) : Alike S (first >>= next) (second >>= onward) := by
  cases alike with
  | pure related =>
    rw [pure_bind, pure_bind]
    exact rest _ _ related
  | throw error => exact .throw error

theorem Alike.mapM {items : List α} {others : List β} {step : α → Projection Id γ} {step' : β → Projection Id δ}
    (paired : List.Forall₂ R items others) (each : ∀ a b, R a b → Alike S (step a) (step' b)) :
    Alike (List.Forall₂ S) (items.mapM step) (others.mapM step') := by
  induction paired with
  | nil => exact .pure .nil
  | cons related _ ih =>
    rw [List.mapM_cons, List.mapM_cons]
    refine (each _ _ related).bind fun a b head => ih.bind fun as bs rest => ?_
    exact .pure (.cons head rest)

theorem Alike.mapM_self {items : List α} {step : α → Projection Id γ} {step' : α → Projection Id δ}
    (each : ∀ item ∈ items, Alike S (step item) (step' item)) :
    Alike (List.Forall₂ S) (items.mapM step) (items.mapM step') := by
  have paired : List.Forall₂ (fun item other => item = other ∧ item ∈ items) items items :=
    List.forall₂_same.mpr fun item member => ⟨rfl, member⟩
  refine .mapM paired ?_
  rintro item _ ⟨rfl, member⟩
  exact each item member

theorem Alike.bind_congr {first : Projection Id α} {second : Projection Id β} {next : α → Projection Id γ}
    {onward : β → Projection Id γ} (alike : Alike R first second) (rest : ∀ a b, R a b → next a = onward b) :
    first >>= next = second >>= onward := by
  cases alike with
  | pure related => rw [pure_bind, pure_bind, rest _ _ related]
  | throw error => rfl

theorem mapM_congr {m : Type → Type} [Monad m] [LawfulMonad m] {items : List α} {others : List β}
    {step : α → Projection m γ} {step' : β → Projection m γ} (paired : List.Forall₂ R items others)
    (each : ∀ a b, R a b → step a = step' b) :
    items.mapM step = others.mapM step' := by
  induction paired with
  | nil => rfl
  | cons related _ ih => rw [List.mapM_cons, List.mapM_cons, each _ _ related, ih]

end Projection

open Projection

/-- Offers of the same field, with related values. -/
structure Offer.Agree (R : Value → Value → Prop) (offer other : Offer) : Prop where
  name : offer.name = other.name
  value : R offer.value other.value
  byView : offer.byView = other.byView

/-- Entries of the same key, with related values. -/
def Entries.Agree (R : Value → Value → Prop) (entry other : String × Value) : Prop :=
  entry.1 = other.1 ∧ R entry.2 other.2

theorem Entries.Agree.offers {R : Value → Value → Prop} {entries others : Entries Value}
    (agree : List.Forall₂ (Entries.Agree R) entries others) (byView : Bool) :
    List.Forall₂ (Offer.Agree R) (entries.map fun (name, value) => ⟨name, value, byView⟩)
      (others.map fun (name, value) => ⟨name, value, byView⟩) := by
  rw [List.forall₂_map_left_iff, List.forall₂_map_right_iff]
  exact agree.imp fun entry other same => ⟨same.1, same.2, rfl⟩

namespace Projector
variable {R : Value → Value → Prop} {projector : Projector Id}

section Offers

theorem table?_of_ok {typeName : String} {table : ViewTable} (found : projector.tableOf typeName = .ok table) :
    projector.table? typeName = pure (some table) := by
  rw [table?, found]
  rfl

theorem table?_of_error {typeName : String} {error : SchemaError}
    (failed : projector.tableOf typeName = .error error) :
    projector.table? typeName =
      if error.cause = .unknownType ∧ projector.strict = false then pure none else throw (.schema error) := by
  rw [table?, failed]
  rfl

variable {inner outer : String → Entries Value → Projection Id (List Offer)}

theorem propertyOffers_alike
    (opened : ∀ byView value other, R value other →
      Alike (List.Forall₂ (Offer.Agree R)) (splice inner byView value) (splice outer byView other))
    {table : ViewTable} {fields others : Entries Value} {external : String}
    (held : Option.Rel R (table.held? fields external) (table.held? others external)) (visible named : NameSet) :
    Alike (List.Forall₂ (Offer.Agree R)) (propertyOffers inner table visible named fields external)
      (propertyOffers outer table visible named others external) := by
  rw [propertyOffers, propertyOffers]
  generalize table.held? fields external = first at held
  generalize table.held? others external = second at held
  cases held with
  | none => exact .pure .nil
  | some related =>
    by_cases unwrapped : table.isUnwrapped external
    · simpa [unwrapped] using opened _ _ _ related
    · simpa [unwrapped] using Alike.pure (.cons ⟨rfl, related, rfl⟩ .nil)

/-- Two records of one type offer the same fields when what their properties hold is related. -/
theorem offersWith_alike
    (opened : ∀ byView value other, R value other →
      Alike (List.Forall₂ (Offer.Agree R)) (splice inner byView value) (splice outer byView other))
    {view typeName : String} {selectors : List Selector} {fields others : Entries Value}
    (shown : ∀ table, projector.tableOf typeName = .ok table →
      ∀ external ∈ NameSet.union (table.propertiesIn view) (table.propertiesNamed selectors),
        Option.Rel R (table.held? fields external) (table.held? others external))
    (plain : (∀ table, projector.tableOf typeName ≠ .ok table) → List.Forall₂ (Entries.Agree R) fields others) :
    Alike (List.Forall₂ (Offer.Agree R)) (projector.offersWith view selectors inner typeName fields)
      (projector.offersWith view selectors outer typeName others) := by
  cases found : projector.tableOf typeName with
  | ok table =>
    rw [offersWith, offersWith, table?_of_ok found, pure_bind, pure_bind]
    have each : ∀ external ∈ NameSet.union (table.propertiesIn view) (table.propertiesNamed selectors),
        Alike (List.Forall₂ (Offer.Agree R))
          (propertyOffers inner table (table.propertiesIn view) (table.propertiesNamed selectors) fields external)
          (propertyOffers outer table (table.propertiesIn view) (table.propertiesNamed selectors) others external) :=
      fun external member => propertyOffers_alike opened (shown table found external member) _ _
    exact (Alike.mapM_self each).bind fun offers others agree => .pure (List.rel_flatten agree)
  | error error =>
    rw [offersWith, offersWith, table?_of_error found]
    split
    · rw [pure_bind, pure_bind]
      exact .pure (Entries.Agree.offers (plain fun table same => by simp [found] at same) false)
    · exact .throw (.schema error)

end Offers

section Whole
variable {levels height : Nat}

/-- Related values are kept as wholes in the same way. -/
def WholeAgrees (projector : Projector Id) (R : Value → Value → Prop) (levels height : Nat) : Prop :=
  ∀ value other, R value other → projector.wholeWithin levels value = projector.wholeWithin height other

theorem whole_array_congr (agrees : WholeAgrees projector R levels height) {items others : List Value}
    (paired : List.Forall₂ R items others) :
    projector.wholeWithin (levels + 1) (.array items) = projector.wholeWithin (height + 1) (.array others) := by
  rw [wholeWithin, wholeWithin, mapM_congr paired agrees]

theorem whole_object_congr (agrees : WholeAgrees projector R levels height) {entries others : Entries Value}
    (paired : List.Forall₂ (Entries.Agree R) entries others) :
    projector.wholeWithin (levels + 1) (.object entries) = projector.wholeWithin (height + 1) (.object others) := by
  rw [wholeWithin, wholeWithin]
  refine congrArg (· >>= _) (mapM_congr paired ?_)
  rintro ⟨key, value⟩ ⟨_, other⟩ ⟨rfl, related⟩
  exact congrArg (· >>= fun value => pure (key, value)) (agrees value other related)

theorem whole_record_congr (agrees : WholeAgrees projector R levels height) {typeName : String}
    {fields others : Entries Value}
    (offered : Alike (List.Forall₂ (Offer.Agree R)) (projector.recordOffers baseView [] levels typeName fields)
      (projector.recordOffers baseView [] height typeName others)) :
    projector.wholeWithin (levels + 1) (.record typeName fields) =
      projector.wholeWithin (height + 1) (.record typeName others) := by
  rw [wholeWithin, wholeWithin]
  refine offered.bind_congr fun offers others paired => ?_
  refine congrArg (· >>= _) (mapM_congr paired fun offer other agree => ?_)
  rw [agree.name, agrees _ _ agree.value]

end Whole

section Fields
variable {descend outcome : Value → Frontier → Projection Id Value} {levels height : Nat} {frontier : Frontier}

/-- What is kept of two related values is the same, however it is kept. -/
structure Levelled (projector : Projector Id) (R : Value → Value → Prop) (levels height : Nat)
    (descend outcome : Value → Frontier → Projection Id Value) (frontier : Frontier) : Prop where
  shell : ∀ value other, R value other → value.shell = other.shell
  whole : WholeAgrees projector R levels height
  descend : ∀ lower, frontier.LeadsTo lower → ∀ value other, R value other →
    descend value lower = outcome other lower

theorem field_congr (kept : Levelled projector R levels height descend outcome frontier) {offer other : Offer}
    (agree : offer.Agree R other) :
    projector.field levels descend frontier offer = projector.field height outcome frontier other := by
  have chosen : projector.chosen? frontier offer = projector.chosen? frontier other := by
    rw [chosen?, chosen?, agree.name, agree.byView]
  rw [field, field, chosen, agree.name]
  cases choice : projector.chosen? frontier other with
  | none => rfl
  | some pair =>
    obtain ⟨selector, continuation⟩ := pair
    have same : projector.keep levels descend offer.value continuation =
        projector.keep height outcome other.value continuation := by
      cases continuation with
      | stop => exact congrArg pure (kept.shell _ _ agree.value)
      | whole => exact kept.whole _ _ agree.value
      | descend lower =>
        refine kept.descend lower ?_ _ _ agree.value
        rw [chosen?] at choice
        split at choice
        · rename_i found _ _ resolved
          simp only [Option.some.injEq, Prod.mk.injEq] at choice
          exact ⟨found, Frontier.mem_of_resolve resolved, choice.2⟩
        · split at choice <;> cases choice
        · cases choice
    simp only [same]

theorem fields_congr (kept : Levelled projector R levels height descend outcome frontier)
    {offers others : List Offer} (agree : List.Forall₂ (Offer.Agree R) offers others) :
    projector.fields levels descend frontier offers = projector.fields height outcome frontier others := by
  rw [fields, fields, mapM_congr agree fun offer other agree => field_congr kept agree]

end Fields
end Projector
end FieldSelect
