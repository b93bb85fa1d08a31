import FieldSelect.Proofs.Projection.Simulation

/-! A lenient projection passes over unresolved calls and unknown types, and does everything else as a strict
one does: what a strict projection gives, it gives as well. -/
namespace FieldSelect

/-- Errors that only a strict projection raises. -/
def ProjectionError.isStrict : ProjectionError → Bool
  | .unresolved _ => true
  | .function .. => false
  | .schema error => error.cause = .unknownType

theorem ProjectionError.of_isStrict_eq_false {error : ProjectionError} (stands : error.isStrict = false) :
    (∀ call, error ≠ .unresolved call) ∧ ∀ typeName, error ≠ .schema ⟨typeName, .unknownType⟩ := by
  constructor
  · rintro call rfl
    simp [isStrict] at stands
  · rintro typeName rfl
    simp [isStrict] at stands

/-! ### Calls -/

/-- The second result is the first one, unless that is an error. It is no error that strictness alone raises. -/
inductive Relaxed {α : Type} : Except ProjectionError α → Except ProjectionError α → Prop where
  | same (value : α) : Relaxed (.ok value) (.ok value)
  | free (error : ProjectionError) {result : Except ProjectionError α}
      (stands : ∀ error, result = .error error → error.isStrict = false) : Relaxed (.error error) result

section Results
variable {α β : Type} {result other : Except ProjectionError α}

theorem Relaxed.stands (relaxed : Relaxed result other) {error : ProjectionError} (failed : other = .error error) :
    error.isStrict = false := by
  cases relaxed with
  | same value => cases failed
  | free _ stands => exact stands error failed

theorem Relaxed.of_stands (stands : ∀ error, result = .error error → error.isStrict = false) :
    Relaxed result result := by
  cases result with
  | ok value => exact .same value
  | error error => exact .free error stands

theorem Relaxed.bind {next onward : α → Except ProjectionError β} (relaxed : Relaxed result other)
    (rest : ∀ value, Relaxed (next value) (onward value)) : Relaxed (result >>= next) (other >>= onward) := by
  cases relaxed with
  | same value => exact rest value
  | free error stands =>
    refine .free error fun later failed => ?_
    cases other with
    | ok value => exact (rest value).stands failed
    | error own =>
      obtain rfl : own = later := Except.error.inj failed
      exact stands own rfl

theorem Relaxed.foldlM {step onward : β → α → Except ProjectionError β}
    (each : ∀ value item, Relaxed (step value item) (onward value item)) (items : List α) (value : β) :
    Relaxed (items.foldlM step value) (items.foldlM onward value) := by
  induction items generalizing value with
  | nil => exact .same value
  | cons item rest ih =>
    rw [List.foldlM_cons, List.foldlM_cons]
    exact (each value item).bind ih

end Results

namespace Projector
variable {m : Type → Type} (projector : Projector m)

def withStrictness (strict : Bool) : Projector m := { projector with strict }

@[simp] theorem withStrictness_registry (strict : Bool) :
    (projector.withStrictness strict).registry = projector.registry := rfl

@[simp] theorem withStrictness_bindings (strict : Bool) :
    (projector.withStrictness strict).bindings = projector.bindings := rfl

theorem passOver_relaxed (error : UnresolvedCall) (input : Value) :
    Relaxed ((projector.withStrictness true).passOver error input)
      ((projector.withStrictness false).passOver error input) :=
  .free _ (by simp [passOver, withStrictness])

theorem call_relaxed (input : Value) (call : Call) :
    Relaxed ((projector.withStrictness true).call input call) ((projector.withStrictness false).call input call) := by
  rw [Projector.call, Projector.call]
  simp only [withStrictness_registry, withStrictness_bindings]
  cases call.bind projector.bindings with
  | error error => exact projector.passOver_relaxed error input
  | ok arguments =>
    dsimp only
    cases projector.registry.resolve call input arguments with
    | error error => exact projector.passOver_relaxed error input
    | ok overload =>
      dsimp only
      refine .of_stands fun error failed => ?_
      cases invoked : overload.invoke input arguments with
      | ok value =>
        rw [invoked] at failed
        cases failed
      | error cause =>
        rw [invoked] at failed
        cases failed
        rfl

theorem callKey_relaxed (key : String) (call : Call) :
    Relaxed ((projector.withStrictness true).callKey key call) ((projector.withStrictness false).callKey key call) := by
  refine (projector.call_relaxed (.string key) call).bind fun result => ?_
  cases result with
  | string renamed => exact .same renamed
  | _ => exact .of_stands fun _ failed => by cases failed; rfl

theorem applyCalls_relaxed (selector : Selector) (key : String) (value : Value) :
    Relaxed ((projector.withStrictness true).applyCalls selector key value)
      ((projector.withStrictness false).applyCalls selector key value) := by
  refine (Relaxed.foldlM projector.call_relaxed selector.valueCalls value).bind fun value => ?_
  exact (Relaxed.foldlM projector.callKey_relaxed selector.keyCalls key).bind fun key => .same _

end Projector

/-! ### Steps -/

namespace Projection
variable {α β : Type}

/-- From the same catalog, the second run comes out as the first one and leaves the same catalog, unless the
first one fails. It never fails with an error that strictness alone raises. -/
def Relaxes (run other : Projection (StateM Catalog) α) : Prop :=
  ∀ catalog : Catalog, ∃ result relaxed : Except ProjectionError α, ∃ after later : Catalog,
    StateT.run (ExceptT.run run) catalog = (result, after) ∧
      StateT.run (ExceptT.run other) catalog = (relaxed, later) ∧
      Relaxed result relaxed ∧ ∀ value, result = .ok value → later = after

theorem Relaxes.liftExcept {result relaxed : Except ProjectionError α} (freed : Relaxed result relaxed) :
    Relaxes (liftExcept result) (liftExcept relaxed) := by
  refine fun catalog => ⟨result, relaxed, catalog, catalog, ?_, ?_, freed, fun _ _ => rfl⟩
  · cases result <;> rfl
  · cases relaxed <;> rfl

/-- A lenient step goes on with a value where a strict one fails. -/
theorem Relaxes.pass (error : ProjectionError) (value : α) : Relaxes (throw error) (pure value) :=
  fun catalog => ⟨.error error, .ok value, catalog, catalog, rfl, rfl, .free error nofun, nofun⟩

theorem Relaxes.throw {error : ProjectionError} (stands : error.isStrict = false) :
    Relaxes (α := α) (throw error) (throw error) := by
  refine fun catalog => ⟨.error error, .error error, catalog, catalog, rfl, rfl, .of_stands ?_, nofun⟩
  rintro _ ⟨⟩
  exact stands

theorem Relaxes.pure (value : α) : Relaxes (pure value) (pure value) :=
  fun catalog => ⟨.ok value, .ok value, catalog, catalog, rfl, rfl, .same value, fun _ _ => rfl⟩

theorem Relaxes.bind {run other : Projection (StateM Catalog) α} {next onward : α → Projection (StateM Catalog) β}
    (first : Relaxes run other) (rest : ∀ value, Relaxes (next value) (onward value)) :
    Relaxes (run >>= next) (other >>= onward) := by
  intro catalog
  obtain ⟨result, relaxed, after, later, left, right, freed, same⟩ := first catalog
  rw [run_bind, run_bind, left, right]
  cases freed with
  | same value =>
    obtain rfl := same value rfl
    exact rest value later
  | free error stands =>
    cases relaxed with
    | error own =>
      refine ⟨.error error, .error own, after, later, rfl, rfl, .free error fun _ failed => ?_, nofun⟩
      cases failed
      exact stands own rfl
    | ok value =>
      -- The strict run is over, and whatever the lenient one fails with further on is not for it alone.
      obtain ⟨result, relaxed, _, last, _, right, freed, _⟩ := rest value later
      exact ⟨.error error, relaxed, after, last, rfl, right, .free error fun _ failed => freed.stands failed, nofun⟩

theorem relaxes_stepwise : Stepwise (fun _ => Relaxes) := ⟨.pure, .bind⟩

end Projection

namespace Engine
variable (engine : Engine) (bindings : Option Bindings)

/-- The engine with the same functions, schemas and memos. -/
def withStrictness (strict : Bool) : Engine := { engine with settings := { engine.settings with strict } }

theorem table?_relaxes (typeName : String) :
    Projection.Relaxes (((engine.projector bindings).withStrictness true).table? typeName)
      (((engine.projector bindings).withStrictness false).table? typeName) := by
  have lookedUp : Projection.Relaxes (liftM ((engine.projector bindings).tableOf typeName))
      (liftM ((engine.projector bindings).tableOf typeName)) :=
    fun catalog =>
      ⟨.ok (catalog.table typeName).1, .ok (catalog.table typeName).1, _, _, rfl, rfl, .same _, fun _ _ => rfl⟩
  refine lookedUp.bind fun found => ?_
  cases found with
  | ok table => exact .pure (some table)
  | error error =>
    by_cases unknown : error.cause = .unknownType
    · simpa [Projector.withStrictness, unknown] using Projection.Relaxes.pass (.schema error) none
    · have known : ProjectionError.isStrict (.schema error) = false := decide_eq_false unknown
      simpa [Projector.withStrictness, unknown] using Projection.Relaxes.throw known

theorem withStrictness_inStep :
    Projector.InStep (fun _ => Projection.Relaxes) ((engine.projector bindings).withStrictness true)
      ((engine.projector bindings).withStrictness false) where
  steps := Projection.relaxes_stepwise
  bindings := rfl
  table := engine.table?_relaxes bindings
  calls selector key value := .liftExcept ((engine.projector bindings).applyCalls_relaxed selector key value)

/-- The second outcome is the first one and leaves the same tables behind, unless the first one is an error. It is
no error for a call that is not resolved or a type that nobody registered. -/
structure Eased (strict lenient : Except ProjectionError Value × Engine) : Prop where
  kept : ∀ kept, strict.1 = .ok kept → lenient.1 = .ok kept ∧ lenient.2.catalog = strict.2.catalog
  resolved : ∀ call, lenient.1 ≠ .error (.unresolved call)
  known : ∀ typeName, lenient.1 ≠ .error (.schema ⟨typeName, .unknownType⟩)

theorem eased_run {work other : Projection (StateM Catalog) Value} (relaxes : Projection.Relaxes work other) :
    Eased ((engine.withStrictness true).run work) ((engine.withStrictness false).run other) := by
  obtain ⟨result, relaxed, after, later, strict, lenient, freed, same⟩ := relaxes engine.catalog
  have strictly : (engine.withStrictness true).run work =
      (result, { engine.withStrictness true with catalog := after }) := by
    rw [run, show (engine.withStrictness true).catalog = engine.catalog from rfl, strict]
  have leniently : (engine.withStrictness false).run other =
      (relaxed, { engine.withStrictness false with catalog := later }) := by
    rw [run, show (engine.withStrictness false).catalog = engine.catalog from rfl, lenient]
  rw [strictly, leniently]
  refine ⟨fun kept succeeded => ?_, fun call failed => ?_, fun typeName failed => ?_⟩
  · cases freed with
    | same value => exact ⟨succeeded, same value rfl⟩
    | free error _ => cases succeeded
  · exact (ProjectionError.of_isStrict_eq_false (freed.stands failed)).1 call rfl
  · exact (ProjectionError.of_isStrict_eq_false (freed.stands failed)).2 typeName rfl

/-- What a strict engine makes of a value a lenient one makes of it as well, with a filter and without one. -/
theorem project_lenient (tree : Tree) (view : String) (value : Value) :
    let strict := engine.withStrictness true
    let lenient := engine.withStrictness false
    Eased (strict.run ((strict.projector bindings).project tree view value))
        (lenient.run ((lenient.projector bindings).project tree view value)) ∧
      Eased (strict.run ((strict.projector bindings).whole value))
        (lenient.run ((lenient.projector bindings).whole value)) := by
  intro strict lenient
  have inStep := engine.withStrictness_inStep bindings
  exact ⟨engine.eased_run (inStep.project tree view value), engine.eased_run (inStep.whole value)⟩

/-- Every value goes into an array of its own. -/
private def wrapping : Registry :=
  ⟨[("wrap", .single ⟨"wrap", ⟨.any, []⟩, fun input _ => .ok (.array [input])⟩)]⟩

theorem project_lenient_of_wrap :
    let engine : Engine := ⟨.standard, wrapping, .ofSettings .standard, .ofSpec .standard⟩
    let call : Call := ⟨"wrap", [], .start⟩
    let tree : Tree := ⟨"a[wrap()]", [{ Selector.named (.exact "a") .start with valueCalls := [call] }]⟩
    let value : Value := .object [("a", .null), ("b", .null)]
    let outcome (strict : Bool) :=
      (engine.withStrictness strict).run (((engine.withStrictness strict).projector none).project tree "base" value)
    (outcome true).1 = .ok (.object [("a", .array [.null])]) ∧
      (outcome false).1 = .ok (.object [("a", .array [.null])]) := by
  intro engine call tree value outcome
  have strict : (outcome true).1 = .ok (.object [("a", .array [.null])]) := rfl
  exact ⟨strict, ((engine.project_lenient none tree "base" value).1.kept _ strict).1⟩

end Engine
end FieldSelect
