import FieldSelect.Engine
import FieldSelect.Proofs.Projection.Lockstep
import FieldSelect.Proofs.Schema.Reachable

/-! Projecting with remembered view tables gives what projecting with freshly built ones gives: what a
catalog remembers only saves work. -/
namespace FieldSelect
namespace Projection
variable {α β : Type} {tableOf : String → Except SchemaError ViewTable}

/-- On every catalog that answers as `tableOf`, the run comes out as the outcome says and leaves a
catalog that still answers so. -/
def Follows (tableOf : String → Except SchemaError ViewTable) (run : Projection (StateM Catalog) α)
    (outcome : Projection Id α) : Prop :=
  ∀ catalog : Catalog, catalog.Answers tableOf →
    ∃ after : Catalog, after.Answers tableOf ∧ StateT.run (ExceptT.run run) catalog = (ExceptT.run outcome, after)

theorem Follows.pure (value : α) : Follows tableOf (pure value) (pure value) :=
  fun catalog answers => ⟨catalog, answers, rfl⟩

theorem Follows.throw (error : ProjectionError) : Follows (α := α) tableOf (throw error) (throw error) :=
  fun catalog answers => ⟨catalog, answers, rfl⟩

/-- A step goes on from the catalog that the one before it left, unless that one failed. -/
theorem run_bind (run : Projection (StateM Catalog) α) (next : α → Projection (StateM Catalog) β)
    (catalog : Catalog) :
    StateT.run (ExceptT.run (run >>= next)) catalog =
      match StateT.run (ExceptT.run run) catalog with
      | (.ok value, after) => StateT.run (ExceptT.run (next value)) after
      | (.error error, after) => (.error error, after) := by
  rw [ExceptT.run_bind, StateT.run_bind]
  rcases StateT.run (ExceptT.run run) catalog with ⟨value | error, after⟩ <;> rfl

theorem Follows.bind {run : Projection (StateM Catalog) α} {outcome : Projection Id α}
    {next : α → Projection (StateM Catalog) β} {onward : α → Projection Id β}
    (first : Follows tableOf run outcome) (rest : ∀ value, Follows tableOf (next value) (onward value)) :
    Follows tableOf (run >>= next) (outcome >>= onward) := by
  intro catalog answers
  obtain ⟨middle, answers, same⟩ := first catalog answers
  rw [run_bind, same]
  cases result : ExceptT.run outcome with
  | ok value =>
    obtain ⟨after, answers, same⟩ := rest value middle answers
    refine ⟨after, answers, ?_⟩
    rw [ExceptT.run_bind, result]
    exact same
  | error error =>
    refine ⟨middle, answers, ?_⟩
    rw [ExceptT.run_bind, result]
    rfl

theorem follows_stepwise : Stepwise (fun _ => Follows tableOf) := ⟨.pure, .bind⟩

theorem Follows.liftExcept (result : Except ProjectionError α) :
    Follows tableOf (liftExcept result) (liftExcept result) := by
  cases result with
  | ok value => exact .pure value
  | error error => exact .throw error

end Projection

namespace Engine
variable {tableOf : String → Except SchemaError ViewTable} (engine : Engine) (bindings : Option Bindings)

/-- The engine's projector over tables that are given, and not looked up. -/
def projectorOver (tableOf : String → Except SchemaError ViewTable) : Projector Id :=
  ⟨engine.registry, tableOf, bindings, engine.settings.strict⟩

/-- The engine's projector when time goes by before each look-up, as much as the pace says for what the catalog
holds and has counted by then. -/
def projectorAt (pace : Catalog → Nat) : Projector (StateM Catalog) :=
  ⟨engine.registry, fun typeName catalog => (catalog.wait (pace catalog)).table typeName, bindings,
    engine.settings.strict⟩

theorem table?_follows (pace : Catalog → Nat) (typeName : String) :
    Projection.Follows tableOf ((engine.projectorAt bindings pace).table? typeName)
      ((engine.projectorOver bindings tableOf).table? typeName) := by
  have lookedUp : Projection.Follows tableOf (liftM ((engine.projectorAt bindings pace).tableOf typeName))
      (liftM ((engine.projectorOver bindings tableOf).tableOf typeName)) := by
    intro catalog answers
    obtain ⟨answer, stays⟩ := (answers.wait (pace catalog)).table typeName
    refine ⟨((catalog.wait (pace catalog)).table typeName).2, stays, ?_⟩
    rw [show (engine.projectorOver bindings tableOf).tableOf typeName = ((catalog.wait (pace catalog)).table typeName).1
      from answer.symm]
    rfl
  refine lookedUp.bind fun found => ?_
  cases found with
  | ok table => exact .pure (some table)
  | error error =>
    by_cases lenient : error.cause = .unknownType ∧ engine.settings.strict = false
    · simpa [projectorAt, projectorOver, lenient] using .pure none
    · simpa [projectorAt, projectorOver, lenient] using .throw (.schema error)

theorem projector_inStep (pace : Catalog → Nat) :
    Projector.InStep (fun _ => Projection.Follows tableOf) (engine.projectorAt bindings pace)
      (engine.projectorOver bindings tableOf) where
  steps := Projection.follows_stepwise
  bindings := rfl
  table := engine.table?_follows bindings pace
  calls _ _ _ := Projection.Follows.liftExcept _

theorem project_follows (tree : Tree) (view : String) (value : Value) :
    Projection.Follows tableOf ((engine.projector bindings).project tree view value)
      ((engine.projectorOver bindings tableOf).project tree view value) :=
  (engine.projector_inStep bindings fun _ => 0).project tree view value

/-- What an engine answers does not depend on the tables that it remembers. -/
theorem run_of_follows (reachable : engine.catalog.Reachable) {work : Projection (StateM Catalog) Value}
    {outcome : Projection Id Value} (follows : Projection.Follows engine.catalog.build work outcome) :
    (engine.run work).1 = ExceptT.run outcome := by
  obtain ⟨_, _, same⟩ := follows engine.catalog reachable.answers
  rw [run, same]

theorem run_project (reachable : engine.catalog.Reachable) (tree : Tree) (view : String) (value : Value) :
    (engine.run ((engine.projector bindings).project tree view value)).1 =
      ExceptT.run ((engine.projectorOver bindings engine.catalog.build).project tree view value) :=
  engine.run_of_follows reachable (engine.project_follows bindings tree view value)

theorem run_whole (reachable : engine.catalog.Reachable) (value : Value) :
    (engine.run ((engine.projector bindings).whole value)).1 =
      ExceptT.run ((engine.projectorOver bindings engine.catalog.build).whole value) :=
  engine.run_of_follows reachable ((engine.projector_inStep bindings fun _ => 0).whole value)

end Engine

namespace Blueprint

theorem catalog_reachable (blueprint : Blueprint) : blueprint.catalog.Reachable := by
  rw [catalog]
  generalize started : Catalog.ofSettings blueprint.settings = catalog
  have reachable : catalog.Reachable := started ▸ .ofSettings blueprint.settings
  clear started
  induction blueprint.schemas generalizing catalog with
  | nil => exact reachable
  | cons schema rest ih => exact ih _ (reachable.register schema)

theorem tabulate_answers {tableOf : String → Except SchemaError ViewTable} {catalog after : Catalog}
    {schemas : List Schema} (answers : catalog.Answers tableOf) (tabulated : tabulate catalog schemas = .ok after) :
    after.Answers tableOf := by
  induction schemas generalizing catalog with
  | nil =>
    cases tabulated
    exact answers
  | cons schema rest ih =>
    rw [tabulate] at tabulated
    split at tabulated
    · rename_i found
      have next := (answers.table schema.typeName).2
      rw [found] at next
      exact ih next tabulated
    · cases tabulated

/-- What a blueprint fixes is fixed in its engine, which starts without any filters. -/
theorem build_ok {blueprint : Blueprint} {engine : Engine} (built : blueprint.build = .ok engine) :
    engine.settings = blueprint.settings ∧ engine.registry = blueprint.registry ∧
      engine.catalog.Answers blueprint.catalog.build ∧ engine.filters = .ofSpec blueprint.settings.filterCache := by
  rw [build] at built
  split at built
  · cases built
  · cases tabulated : tabulate blueprint.catalog blueprint.schemas with
    | error error =>
      rw [tabulated] at built
      cases built
    | ok catalog =>
      rw [tabulated] at built
      cases built
      exact ⟨rfl, rfl, tabulate_answers blueprint.catalog_reachable.answers tabulated, rfl⟩

end Blueprint
end FieldSelect
