import FieldSelect.Proofs.Projection.Simulation

/-! What an engine answers does not depend on its history. Whatever its memos keep, evict or let expire, each
use of it gives what working everything out anew gives. -/
namespace FieldSelect

/-- One use of an engine, or some time between two uses. A request is handed in with each use that needs one. A
projection can be told how much time goes by before each look-up of a table, seen what the catalog holds by then. -/
inductive EngineUse where
  | compile (filter : String)
  | table (typeName : String)
  | whole (value : Value)
  | project (tree : Tree) (view : String) (value : Value)
  | projectIn (tree : Tree) (view : String) (request : Request) (value : Value)
  | projectAt (pace : Catalog → Nat) (bindings : Option Bindings) (tree : Tree) (view : String) (value : Value)
  | apply (filter : String) (value : Value)
  | applyIn (key : String) (source : String → Option String) (request : Request) (value : Value)
  | wait (elapsed : Nat)

/-- What a use gives. -/
inductive EngineReply where
  | compiled (outcome : Except ParseError Tree)
  | tabled (outcome : Except SchemaError ViewTable)
  | projected (outcome : Except ProjectionError Value)
  | applied (outcome : Except EngineError Value)
  | appliedIn (outcome : Except EngineError Value) (request : Request)
  | waited

/-! ### With memos -/

namespace Engine

/-- The view table of a type. -/
def table (engine : Engine) (typeName : String) : Except SchemaError ViewTable × Engine :=
  let (result, catalog) := engine.catalog.table typeName
  (result, { engine with catalog })

/-- Time goes by. -/
def wait (engine : Engine) (elapsed : Nat) : Engine :=
  { engine with catalog := engine.catalog.wait elapsed, filters := engine.filters.advance elapsed }

/-- The reply to a use, and the engine after it. -/
def perform (engine : Engine) : EngineUse → EngineReply × Engine
  | .compile filter => (engine.compile filter).map .compiled id
  | .table typeName => (engine.table typeName).map .tabled id
  | .whole value => (engine.whole value).map .projected id
  | .project tree view value => (engine.project tree view value).map .projected id
  | .projectIn tree view request value => (engine.projectIn tree view request value).map .projected id
  | .projectAt pace bindings tree view value =>
    (engine.run ((engine.projectorAt bindings pace).project tree view value)).map .projected id
  | .apply filter value => (engine.apply filter value).map .applied id
  | .applyIn key source request value =>
    let ((outcome, engine), request) := engine.applyIn key source request value
    (.appliedIn outcome request, engine)
  | .wait elapsed => (.waited, engine.wait elapsed)

/-- The replies to uses one after the other, and the engine after all of them. -/
def performAll (engine : Engine) : List EngineUse → List EngineReply × Engine
  | [] => ([], engine)
  | use :: rest =>
    let (reply, engine) := engine.perform use
    let (replies, engine) := engine.performAll rest
    (reply :: replies, engine)

end Engine

/-! ### Without memos -/

namespace Blueprint
variable (blueprint : Blueprint)

/-- Tables are worked out anew from the registered schemas at each look-up. -/
def projector (bindings : Option Bindings) : Projector Id :=
  ⟨blueprint.registry, blueprint.catalog.build, bindings, blueprint.settings.strict⟩

def whole (value : Value) : Except ProjectionError Value := ExceptT.run ((blueprint.projector none).whole value)

def project (bindings : Option Bindings) (tree : Tree) (view : String) (value : Value) : Except ProjectionError Value :=
  ExceptT.run ((blueprint.projector bindings).project tree view value)

def apply (filter : String) (value : Value) : Except EngineError Value := do
  let tree ← (FieldSelect.compile filter).mapError .parse
  (blueprint.project none tree blueprint.settings.defaultView value).mapError .projection

/-- The filter that was resolved for a request, if there is one. -/
def applyResolved (filter : Option String) (bindings : Bindings) (value : Value) : Except EngineError Value :=
  match filter with
  | none => (blueprint.whole value).mapError .projection
  | some filter => do
    let tree ← (FieldSelect.compile filter).mapError .parse
    if tree.isIncludeAll then (blueprint.whole value).mapError .projection
    else (blueprint.project (some bindings) tree blueprint.settings.defaultView value).mapError .projection

/-- The reply to a use that follows from the blueprint alone, and from the request where there is one. -/
def answer : EngineUse → EngineReply
  | .compile filter => .compiled (FieldSelect.compile filter)
  | .table typeName => .tabled (blueprint.catalog.build typeName)
  | .whole value => .projected (blueprint.whole value)
  | .project tree view value => .projected (blueprint.project none tree view value)
  | .projectIn tree view request value => .projected (blueprint.project (some request.bindings) tree view value)
  | .projectAt _ bindings tree view value => .projected (blueprint.project bindings tree view value)
  | .apply filter value => .applied (blueprint.apply filter value)
  | .applyIn key source request value =>
    let (filter, request) := Id.run (request.resolveFilter key (fun key => source key) none)
    .appliedIn (blueprint.applyResolved filter request.bindings value) request
  | .wait _ => .waited

end Blueprint

/-! ### One use -/

namespace Engine
variable {blueprint : Blueprint} {engine : Engine}

/-- An engine of the blueprint whose memos hold nothing but what is true. -/
structure Serves (engine : Engine) (blueprint : Blueprint) : Prop where
  settings : engine.settings = blueprint.settings
  registry : engine.registry = blueprint.registry
  catalog : engine.catalog.Answers blueprint.catalog.build
  filters : engine.filters.Faithful FieldSelect.compile

theorem serves_of_build (built : blueprint.build = .ok engine) : engine.Serves blueprint := by
  obtain ⟨settings, registry, catalog, filters⟩ := Blueprint.build_ok built
  exact ⟨settings, registry, catalog, filters ▸ .ofSpec _⟩

theorem Serves.projectorOver (serves : engine.Serves blueprint) (bindings : Option Bindings) :
    engine.projectorOver bindings blueprint.catalog.build = blueprint.projector bindings := by
  rw [Engine.projectorOver, Blueprint.projector, serves.settings, serves.registry]

theorem Serves.run (serves : engine.Serves blueprint) {work : Projection (StateM Catalog) Value}
    {outcome : Projection Id Value} (follows : Projection.Follows blueprint.catalog.build work outcome) :
    (engine.run work).1 = ExceptT.run outcome ∧ (engine.run work).2.Serves blueprint := by
  obtain ⟨after, answers, same⟩ := follows engine.catalog serves.catalog
  rw [Engine.run, same]
  exact ⟨rfl, serves.settings, serves.registry, answers, serves.filters⟩

/-- Projecting at any pace gives what projecting without memos gives. -/
theorem Serves.projectAt (serves : engine.Serves blueprint) (pace : Catalog → Nat) (bindings : Option Bindings)
    (tree : Tree) (view : String) (value : Value) :
    (engine.run ((engine.projectorAt bindings pace).project tree view value)).1 =
        blueprint.project bindings tree view value ∧
      (engine.run ((engine.projectorAt bindings pace).project tree view value)).2.Serves blueprint := by
  rw [Blueprint.project, ← serves.projectorOver]
  exact serves.run ((engine.projector_inStep bindings pace).project tree view value)

theorem Serves.whole (serves : engine.Serves blueprint) (value : Value) :
    (engine.whole value).1 = blueprint.whole value ∧ (engine.whole value).2.Serves blueprint := by
  rw [Blueprint.whole, ← serves.projectorOver]
  exact serves.run ((engine.projector_inStep none fun _ => 0).whole value)

theorem Serves.table (serves : engine.Serves blueprint) (typeName : String) :
    (engine.table typeName).1 = blueprint.catalog.build typeName ∧ (engine.table typeName).2.Serves blueprint := by
  obtain ⟨same, answers⟩ := serves.catalog.table typeName
  exact ⟨same, serves.settings, serves.registry, answers, serves.filters⟩

theorem Serves.compile (serves : engine.Serves blueprint) (filter : String) :
    (engine.compile filter).1 = FieldSelect.compile filter ∧ (engine.compile filter).2.Serves blueprint := by
  obtain ⟨same, faithful⟩ := serves.filters.getOrInsert filter
  exact ⟨same, serves.settings, serves.registry, serves.catalog, faithful⟩

theorem Serves.wait (serves : engine.Serves blueprint) (elapsed : Nat) : (engine.wait elapsed).Serves blueprint where
  settings := serves.settings
  registry := serves.registry
  catalog := serves.catalog.wait elapsed
  filters := ⟨serves.filters.entries, serves.filters.numbers, serves.filters.next⟩

theorem Serves.apply (serves : engine.Serves blueprint) (filter : String) (value : Value) :
    (engine.apply filter value).1 = blueprint.apply filter value ∧
      (engine.apply filter value).2.Serves blueprint := by
  obtain ⟨compiled, ready⟩ := serves.compile filter
  rw [Engine.apply, Blueprint.apply]
  rcases same : engine.compile filter with ⟨error | tree, after⟩
  all_goals
    rw [same] at compiled ready
    rw [← compiled]
  · exact ⟨rfl, ready⟩
  · obtain ⟨projected, served⟩ := ready.projectAt (fun _ => 0) none tree after.settings.defaultView value
    rw [← ready.settings]
    exact ⟨congrArg (Except.mapError EngineError.projection) projected, served⟩

theorem Serves.applyIn (serves : engine.Serves blueprint) (key : String) (source : String → Option String)
    (request : Request) (value : Value) :
    (engine.perform (.applyIn key source request value)).1 = blueprint.answer (.applyIn key source request value) ∧
      (engine.perform (.applyIn key source request value)).2.Serves blueprint := by
  rw [Engine.perform, Engine.applyIn, Blueprint.answer]
  rcases Id.run (request.resolveFilter key (fun key => source key) none) with ⟨_ | filter, resolved⟩
  · obtain ⟨kept, served⟩ := serves.whole value
    exact ⟨congrArg (fun kept => EngineReply.appliedIn (kept.mapError .projection) resolved) kept, served⟩
  · obtain ⟨compiled, ready⟩ := serves.compile filter
    dsimp only [Blueprint.applyResolved]
    rcases same : engine.compile filter with ⟨error | tree, after⟩
    all_goals
      rw [same] at compiled ready
      rw [← compiled]
    · exact ⟨rfl, ready⟩
    · dsimp only [Except.mapError, bind, Except.bind]
      by_cases all : tree.isIncludeAll = true
      · obtain ⟨kept, served⟩ := ready.whole value
        rw [if_pos all, if_pos all]
        exact ⟨congrArg (fun kept => EngineReply.appliedIn (kept.mapError .projection) resolved) kept, served⟩
      · obtain ⟨kept, served⟩ :=
          ready.projectAt (fun _ => 0) (some resolved.bindings) tree after.settings.defaultView value
        rw [if_neg all, if_neg all, ← ready.settings]
        exact ⟨congrArg (fun kept => EngineReply.appliedIn (kept.mapError .projection) resolved) kept, served⟩

/-- A use gives what it gives without memos, and leaves an engine that goes on doing so. -/
theorem Serves.perform (serves : engine.Serves blueprint) (use : EngineUse) :
    (engine.perform use).1 = blueprint.answer use ∧ (engine.perform use).2.Serves blueprint := by
  cases use with
  | compile filter => exact (serves.compile filter).imp_left (congrArg EngineReply.compiled)
  | table typeName => exact (serves.table typeName).imp_left (congrArg EngineReply.tabled)
  | whole value => exact (serves.whole value).imp_left (congrArg EngineReply.projected)
  | project tree view value =>
    exact (serves.projectAt (fun _ => 0) none tree view value).imp_left (congrArg EngineReply.projected)
  | projectIn tree view request value =>
    exact (serves.projectAt (fun _ => 0) (some request.bindings) tree view value).imp_left
      (congrArg EngineReply.projected)
  | projectAt pace bindings tree view value =>
    exact (serves.projectAt pace bindings tree view value).imp_left (congrArg EngineReply.projected)
  | apply filter value => exact (serves.apply filter value).imp_left (congrArg EngineReply.applied)
  | applyIn key source request value => exact serves.applyIn key source request value
  | wait elapsed => exact ⟨rfl, serves.wait elapsed⟩

/-! ### All uses -/

theorem Serves.performAll (serves : engine.Serves blueprint) (uses : List EngineUse) :
    (engine.performAll uses).1 = uses.map blueprint.answer ∧ (engine.performAll uses).2.Serves blueprint := by
  induction uses generalizing engine with
  | nil => exact ⟨rfl, serves⟩
  | cons use rest ih =>
    obtain ⟨reply, next⟩ := serves.perform use
    obtain ⟨replies, last⟩ := ih next
    exact ⟨congr (congrArg List.cons reply) replies, last⟩

/-- Each use of an engine gives what working everything out anew gives, whatever has been asked of the engine
before and however much time goes by between the uses, and between the look-ups of a projection. -/
theorem performAll_eq_answers (built : blueprint.build = .ok engine) (uses : List EngineUse) :
    (engine.performAll uses).1 = uses.map blueprint.answer :=
  ((serves_of_build built).performAll uses).1

/-- Filters are never kept, and view tables expire at once. -/
private def forgetful : Blueprint :=
  { Blueprint.ofSettings
      { Settings.standard with
        filterCache := { CacheSpec.unbounded with maximumSize := some 0 }
        viewCache := { CacheSpec.unbounded with expireAfterWrite := some 0 } } with
    withCore := false
    schemas := [⟨"User", [⟨"a", none, [], false⟩, ⟨"b", none, ["admin"], false⟩]⟩] }

theorem performAll_eq_answers_of_forgetful :
    let user : Value := .record "User" [("a", .null), ("b", .null)]
    ∃ engine : Engine, forgetful.build = .ok engine ∧
      (engine.performAll [.apply "a,b" user, .wait 5, .applyIn "User" (fun _ => some "**") .empty user]).1 =
        [.applied (.ok (.object [("a", .null)])), .waited,
          .appliedIn (.ok (.object [("a", .null)])) ⟨[], [("User", some "**")]⟩] := by
  intro user
  obtain ⟨engine, built⟩ : ∃ engine, forgetful.build = .ok engine := ⟨_, rfl⟩
  have listed : FieldSelect.compile "a,b" =
    .ok ⟨"a,b", [.named (.exact "a") .start, .named (.exact "b") ⟨1, 3⟩]⟩ := rfl
  have all : FieldSelect.compile "**" = .ok ⟨"**", [.named .anyDeep .start]⟩ := rfl
  have first : forgetful.apply "a,b" user = .ok (.object [("a", .null)]) := by
    rw [Blueprint.apply, listed]
    rfl
  have last : forgetful.applyResolved (some "**") [] user = .ok (.object [("a", .null)]) := by
    rw [Blueprint.applyResolved, all]
    rfl
  have replies : [EngineUse.apply "a,b" user, .wait 5, .applyIn "User" (fun _ => some "**") .empty user].map
      forgetful.answer = [.applied (forgetful.apply "a,b" user), .waited,
        .appliedIn (forgetful.applyResolved (some "**") [] user) ⟨[], [("User", some "**")]⟩] := rfl
  refine ⟨engine, built, ?_⟩
  rw [performAll_eq_answers built, replies, first, last]

end Engine
end FieldSelect
