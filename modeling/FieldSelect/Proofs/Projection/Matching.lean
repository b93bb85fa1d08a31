import FieldSelect.Projection.Walk
import Mathlib.Data.Option.Defs

/-! Two projections with different frontiers come to the same when they choose alike for each field and go on below
it with frontiers that choose alike again. -/
namespace FieldSelect

/-- Both stop, both keep everything, or related frontiers decide. -/
inductive Continuation.Alike (R : Frontier → Frontier → Prop) : Continuation → Continuation → Prop where
  | stop : Alike R .stop .stop
  | whole : Alike R .whole .whole
  | descend {frontier other : Frontier} (related : R frontier other) : Alike R (.descend frontier) (.descend other)

namespace Projector
variable {m : Type → Type} [Monad m] {R : Frontier → Frontier → Prop} {projector other : Projector m}

/-- A field is kept by selectors with the same calls, or on both sides by a view alone, and alike below. -/
structure ChoiceAlike (R : Frontier → Frontier → Prop) (projector other : Projector m)
    (choice choice' : Option Selector × Continuation) : Prop where
  selector : Option.Rel (fun selector selector' => projector.applyCalls selector = other.applyCalls selector')
    choice.1 choice'.1
  continuation : choice.2.Alike R choice'.2

/-- Under related frontiers both projectors bring the same fields into a record and choose alike among them. -/
structure Matches (R : Frontier → Frontier → Prop) (projector other : Projector m) : Prop where
  table : ∀ typeName, projector.table? typeName = other.table? typeName
  named : ∀ {frontier frontier' : Frontier}, R frontier frontier' → ∀ table : ViewTable,
    table.propertiesNamed frontier.explicit = table.propertiesNamed frontier'.explicit
  chosen : ∀ {frontier frontier' : Frontier}, R frontier frontier' → ∀ offer,
    Option.Rel (ChoiceAlike R projector other) (projector.chosen? frontier offer) (other.chosen? frontier' offer)

theorem Matches.recordOffers (alike : Matches R projector other) (view : String) {selectors others : List Selector}
    (named : ∀ table : ViewTable, table.propertiesNamed selectors = table.propertiesNamed others) (levels : Nat) :
    projector.recordOffers view selectors levels = other.recordOffers view others levels := by
  induction levels with
  | zero =>
    funext typeName fields
    simp only [Projector.recordOffers, offersWith, alike.table, named]
  | succ levels ih =>
    funext typeName fields
    simp only [Projector.recordOffers, offersWith, alike.table, named, ih]

theorem Matches.wholeWithin (alike : Matches R projector other) (levels : Nat) :
    projector.wholeWithin levels = other.wholeWithin levels := by
  induction levels with
  | zero =>
    funext value
    cases value <;> rfl
  | succ levels ih =>
    funext value
    cases value <;> simp only [Projector.wholeWithin, ih, alike.recordOffers baseView (fun _ => rfl) levels]

section Fields
variable {descend outcome : Value → Frontier → Projection m Value} {frontier frontier' : Frontier}

theorem Matches.field (alike : Matches R projector other)
    (below : ∀ value lower lower', R lower lower' → descend value lower = outcome value lower') (levels : Nat)
    (related : R frontier frontier') :
    projector.field levels descend frontier = other.field levels outcome frontier' := by
  funext offer
  have chosen := alike.chosen related offer
  rw [Projector.field, Projector.field]
  generalize projector.chosen? frontier offer = choice at chosen ⊢
  generalize other.chosen? frontier' offer = choice' at chosen ⊢
  cases chosen with
  | none => rfl
  | @some choice choice' same =>
    obtain ⟨selector, continuation⟩ := choice
    obtain ⟨selector', continuation'⟩ := choice'
    obtain ⟨acting, onward⟩ := same
    dsimp only at acting onward ⊢
    have kept : projector.keep levels descend offer.value continuation =
        other.keep levels outcome offer.value continuation' := by
      cases onward with
      | stop => rfl
      | whole => exact congrFun (alike.wholeWithin levels) offer.value
      | descend related => exact below offer.value _ _ related
    cases acting with
    | none => simp only [kept]
    | some acting => simp only [kept, acting]

theorem Matches.fields (alike : Matches R projector other)
    (below : ∀ value lower lower', R lower lower' → descend value lower = outcome value lower') (levels : Nat)
    (related : R frontier frontier') :
    projector.fields levels descend frontier = other.fields levels outcome frontier' := by
  funext offers
  rw [Projector.fields, Projector.fields, alike.field below levels related]

end Fields

theorem Matches.projectWithin (alike : Matches R projector other) (view : String) (levels : Nat) (value : Value)
    {frontier frontier' : Frontier} (related : R frontier frontier') :
    projector.projectWithin view levels value frontier = other.projectWithin view levels value frontier' := by
  induction levels generalizing value frontier frontier' with
  | zero => cases value <;> rfl
  | succ levels ih =>
    have below : ∀ value lower lower', R lower lower' →
        projector.projectWithin view levels value lower = other.projectWithin view levels value lower' :=
      fun value _ _ related => ih value related
    cases value with
    | array items =>
      have each : (fun item => projector.projectWithin view levels item frontier) =
          fun item => other.projectWithin view levels item frontier' := funext fun item => ih item related
      rw [Projector.projectWithin, Projector.projectWithin, each]
    | object entries => rw [Projector.projectWithin, Projector.projectWithin, alike.fields below levels related]
    | record typeName fields =>
      rw [Projector.projectWithin, Projector.projectWithin, alike.fields below levels related,
        alike.recordOffers view (alike.named related) levels]
    | _ => rfl

/-- Filters whose stages are related project every value alike, and look up the same tables on the way. -/
theorem Matches.project (alike : Matches R projector other) {tree tree' : Tree}
    (count : tree.stageCount = tree'.stageCount)
    (related : ∀ stage, R (.top (tree.stage stage)) (.top (tree'.stage stage))) (view : String) (value : Value) :
    projector.project tree view value = other.project tree' view value := by
  have staged : projector.projectStage tree view = other.projectStage tree' view := by
    funext value stage
    exact alike.projectWithin view value.height value (related stage)
  have kept : projector.whole value = other.whole value := congrFun (alike.wholeWithin value.height) value
  rw [Projector.project, Projector.project, count, staged, kept]

end Projector
end FieldSelect
