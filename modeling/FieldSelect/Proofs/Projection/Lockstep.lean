import FieldSelect.Projection.Walk

/-! Two projectors in step with each other: a relation that returning and going on respect, and that holds
of all their look-ups and of all their calls, holds of what they do with any value. -/
namespace FieldSelect
namespace Projection
variable {m n : Type → Type} [Monad m] [Monad n] {α β : Type}

/-- Related steps stay related when one goes on from the result of the other. -/
structure Stepwise (R : ∀ α : Type, Projection m α → Projection n α → Prop) : Prop where
  pure {α : Type} (value : α) : R α (pure value) (pure value)
  bind {α β : Type} {run : Projection m α} {other : Projection n α} {next : α → Projection m β}
    {onward : α → Projection n β} (first : R α run other) (rest : ∀ value, R β (next value) (onward value)) :
    R β (run >>= next) (other >>= onward)

variable {R : ∀ α : Type, Projection m α → Projection n α → Prop}

theorem Stepwise.foldlM (steps : Stepwise R) {run : β → α → Projection m β} {other : β → α → Projection n β}
    (each : ∀ value item, R β (run value item) (other value item)) (items : List α) (value : β) :
    R β (items.foldlM run value) (items.foldlM other value) := by
  induction items generalizing value with
  | nil => exact steps.pure value
  | cons item rest ih =>
    rw [List.foldlM_cons, List.foldlM_cons]
    exact steps.bind (each value item) ih

theorem Stepwise.mapM [LawfulMonad m] [LawfulMonad n] (steps : Stepwise R) {run : α → Projection m β}
    {other : α → Projection n β} (each : ∀ item, R β (run item) (other item)) (items : List α) :
    R (List β) (items.mapM run) (items.mapM other) := by
  induction items with
  | nil => exact steps.pure []
  | cons item rest ih =>
    rw [List.mapM_cons, List.mapM_cons]
    exact steps.bind (each item) fun value => steps.bind ih fun values => steps.pure (value :: values)

end Projection

namespace Projector
variable {m n : Type → Type} [Monad m] [Monad n] {R : ∀ α : Type, Projection m α → Projection n α → Prop}
  {projector : Projector m} {other : Projector n}

/-- Two projectors that choose alike, and whose look-ups and calls are related. -/
structure InStep (R : ∀ α : Type, Projection m α → Projection n α → Prop) (projector : Projector m)
    (other : Projector n) : Prop where
  steps : Projection.Stepwise R
  bindings : projector.bindings = other.bindings
  table : ∀ typeName, R (Option ViewTable) (projector.table? typeName) (other.table? typeName)
  calls : ∀ selector key value, R (String × Value) (liftExcept (projector.applyCalls selector key value))
    (liftExcept (other.applyCalls selector key value))

section Offers
variable {inner : String → Entries Value → Projection m (List Offer)}
  {outer : String → Entries Value → Projection n (List Offer)}

theorem InStep.splice (inStep : InStep R projector other)
    (same : ∀ typeName fields, R (List Offer) (inner typeName fields) (outer typeName fields)) (byView : Bool)
    (value : Value) : R (List Offer) (Projector.splice inner byView value) (Projector.splice outer byView value) := by
  cases value with
  | record typeName fields => exact inStep.steps.bind (same typeName fields) fun _ => inStep.steps.pure _
  | _ => exact inStep.steps.pure _

theorem InStep.propertyOffers (inStep : InStep R projector other)
    (same : ∀ typeName fields, R (List Offer) (inner typeName fields) (outer typeName fields))
    (table : ViewTable) (visible named : NameSet) (fields : Entries Value) (external : String) :
    R (List Offer) (Projector.propertyOffers inner table visible named fields external)
      (Projector.propertyOffers outer table visible named fields external) := by
  rw [Projector.propertyOffers, Projector.propertyOffers]
  split
  · exact inStep.steps.pure []
  · rename_i value _
    split
    · exact inStep.splice same _ value
    · exact inStep.steps.pure _

variable [LawfulMonad m] [LawfulMonad n]

theorem InStep.offersWith (inStep : InStep R projector other)
    (same : ∀ typeName fields, R (List Offer) (inner typeName fields) (outer typeName fields))
    (view : String) (selectors : List Selector) (typeName : String) (fields : Entries Value) :
    R (List Offer) (projector.offersWith view selectors inner typeName fields)
      (other.offersWith view selectors outer typeName fields) := by
  refine inStep.steps.bind (inStep.table typeName) fun table => ?_
  cases table with
  | none => exact inStep.steps.pure _
  | some table =>
    have each := inStep.propertyOffers same table (table.propertiesIn view) (table.propertiesNamed selectors) fields
    exact inStep.steps.bind (inStep.steps.mapM each _) fun _ => inStep.steps.pure _

theorem InStep.recordOffers (inStep : InStep R projector other) (view : String) (selectors : List Selector)
    (levels : Nat) (typeName : String) (fields : Entries Value) :
    R (List Offer) (projector.recordOffers view selectors levels typeName fields)
      (other.recordOffers view selectors levels typeName fields) := by
  induction levels generalizing typeName fields with
  | zero => exact inStep.offersWith (fun _ _ => inStep.steps.pure []) view selectors typeName fields
  | succ levels ih => exact inStep.offersWith ih view selectors typeName fields

end Offers

section Walk
variable [LawfulMonad m] [LawfulMonad n]

theorem InStep.wholeWithin (inStep : InStep R projector other) (levels : Nat) (value : Value) :
    R Value (projector.wholeWithin levels value) (other.wholeWithin levels value) := by
  have steps := inStep.steps
  induction levels generalizing value with
  | zero => exact steps.pure value
  | succ levels ih =>
    cases value with
    | array items => exact steps.bind (steps.mapM ih items) fun _ => steps.pure _
    | object entries =>
      refine steps.bind (steps.mapM (fun entry => ?_) entries) fun _ => steps.pure _
      exact steps.bind (ih entry.2) fun _ => steps.pure _
    | record typeName fields =>
      refine steps.bind (inStep.recordOffers baseView [] levels typeName fields) fun offers => ?_
      refine steps.bind (steps.mapM (fun offer => ?_) offers) fun _ => steps.pure _
      exact steps.bind (ih offer.value) fun _ => steps.pure _
    | _ => exact steps.pure _

theorem InStep.whole (inStep : InStep R projector other) (value : Value) :
    R Value (projector.whole value) (other.whole value) :=
  inStep.wholeWithin value.height value

variable {descend : Value → Frontier → Projection m Value} {outcome : Value → Frontier → Projection n Value}

theorem InStep.field (inStep : InStep R projector other)
    (same : ∀ value frontier, R Value (descend value frontier) (outcome value frontier)) (levels : Nat)
    (frontier : Frontier) (offer : Offer) :
    R (Option (String × Value)) (projector.field levels descend frontier offer)
      (other.field levels outcome frontier offer) := by
  have steps := inStep.steps
  have chosen : projector.chosen? frontier offer = other.chosen? frontier offer := by
    rw [chosen?, chosen?, inStep.bindings]
  rw [Projector.field, Projector.field, chosen]
  cases other.chosen? frontier offer with
  | none => exact steps.pure none
  | some choice =>
    obtain ⟨selector, continuation⟩ := choice
    refine steps.bind ?_ fun value => ?_
    · cases continuation with
      | stop => exact steps.pure _
      | whole => exact inStep.wholeWithin levels offer.value
      | descend frontier => exact same offer.value frontier
    · cases selector with
      | none => exact steps.pure _
      | some selector => exact steps.bind (inStep.calls selector offer.name value) fun _ => steps.pure _

theorem InStep.fields (inStep : InStep R projector other)
    (same : ∀ value frontier, R Value (descend value frontier) (outcome value frontier)) (levels : Nat)
    (frontier : Frontier) (offers : List Offer) :
    R Value (projector.fields levels descend frontier offers) (other.fields levels outcome frontier offers) :=
  inStep.steps.bind (inStep.steps.mapM (inStep.field same levels frontier) offers) fun _ => inStep.steps.pure _

theorem InStep.projectWithin (inStep : InStep R projector other) (view : String) (levels : Nat) (value : Value)
    (frontier : Frontier) :
    R Value (projector.projectWithin view levels value frontier) (other.projectWithin view levels value frontier) := by
  have steps := inStep.steps
  induction levels generalizing value frontier with
  | zero => exact steps.pure value
  | succ levels ih =>
    cases value with
    | array items => exact steps.bind (steps.mapM (fun item => ih item frontier) items) fun _ => steps.pure _
    | object entries => exact inStep.fields ih levels frontier _
    | record typeName fields =>
      refine steps.bind (inStep.recordOffers view frontier.explicit levels typeName fields) fun offers => ?_
      exact inStep.fields ih levels frontier offers
    | _ => exact steps.pure _

/-- What two projectors do with one value and one filter is related, through all stages. -/
theorem InStep.project (inStep : InStep R projector other) (tree : Tree) (view : String) (value : Value) :
    R Value (projector.project tree view value) (other.project tree view value) := by
  rw [Projector.project, Projector.project]
  split
  · exact inStep.whole value
  · exact inStep.steps.foldlM (fun value stage => inStep.projectWithin view value.height value _) _ value

end Walk
end Projector
end FieldSelect
