import FieldSelect.Filter.Reader
import FieldSelect.Function.Core
import FieldSelect.Projection.Walk
import FieldSelect.Request
import FieldSelect.Schema.Catalog

/-! An engine compiles filters and projects values through them. Functions and schemas are fixed once it
is built; compiled filters and view tables are remembered as far as its settings allow. -/
namespace FieldSelect

/-- What an engine is built from. -/
structure Blueprint where
  settings : Settings
  withCore : Bool
  modules : List (List Candidate × Strategy)
  functions : List Overload
  schemas : List Schema

inductive BuildError where
  | emptyDefaultView
  | schema (error : SchemaError)
  deriving DecidableEq

def BuildError.message : BuildError → String
  | .emptyDefaultView => "Default view name cannot be empty"
  | .schema error => error.message

inductive EngineError where
  | parse (error : ParseError)
  | projection (error : ProjectionError)

def EngineError.message : EngineError → String
  | .parse error => error.message
  | .projection error => error.message

structure Engine where
  settings : Settings
  registry : Registry
  catalog : Catalog
  filters : Memo String Tree

namespace Blueprint

/-- Core functions and no others, and no schemas. -/
def ofSettings (settings : Settings) : Blueprint := ⟨settings, true, [], [], []⟩

/-- Core functions come first, then those of the modules, and the single ones last. -/
def registry (blueprint : Blueprint) : Registry :=
  let core := if blueprint.withCore then Registry.core else Registry.empty
  (blueprint.modules.foldl (fun registry (candidates, strategy) =>
    (registry.registerModule candidates strategy).1) core).register blueprint.functions

/-- All schemas are registered before any table is worked out. -/
def catalog (blueprint : Blueprint) : Catalog :=
  blueprint.schemas.foldl Catalog.register (.ofSettings blueprint.settings)

/-- Every schema has to have a table. -/
def tabulate (catalog : Catalog) : List Schema → Except SchemaError Catalog
  | [] => .ok catalog
  | schema :: rest =>
    match catalog.table schema.typeName with
    | (.ok _, catalog) => tabulate catalog rest
    | (.error error, _) => .error error

def build (blueprint : Blueprint) : Except BuildError Engine := do
  if (trimText blueprint.settings.defaultView).isEmpty then throw .emptyDefaultView
  let catalog ← (tabulate blueprint.catalog blueprint.schemas).mapError .schema
  return ⟨blueprint.settings, blueprint.registry, catalog, .ofSpec blueprint.settings.filterCache⟩

end Blueprint

namespace Engine

/-- The compiled filter is remembered under its text; a text that cannot be read is read again. -/
def compile (engine : Engine) (filter : String) : Except ParseError Tree × Engine :=
  let (result, filters) := engine.filters.getOrInsert filter fun _ => FieldSelect.compile filter
  (result, { engine with filters })

def projector (engine : Engine) (bindings : Option Bindings) : Projector (StateM Catalog) :=
  ⟨engine.registry, fun typeName catalog => catalog.table typeName, bindings,
    engine.settings.strict⟩

/-- Work with the remembered view tables, which it may change even when it fails. -/
def run (engine : Engine) (work : Projection (StateM Catalog) Value) :
    Except ProjectionError Value × Engine :=
  let (result, catalog) := StateT.run (ExceptT.run work) engine.catalog
  (result, { engine with catalog })

def project (engine : Engine) (tree : Tree) (view : String) (value : Value) :
    Except ProjectionError Value × Engine :=
  engine.run ((engine.projector none).project tree view value)

/-- Variables take their values from the request. -/
def projectIn (engine : Engine) (tree : Tree) (view : String) (request : Request) (value : Value) :
    Except ProjectionError Value × Engine :=
  engine.run ((engine.projector (some request.bindings)).project tree view value)

def whole (engine : Engine) (value : Value) : Except ProjectionError Value × Engine :=
  engine.run ((engine.projector none).whole value)

/-- The filter is compiled first and the value projected under the default view. -/
def apply (engine : Engine) (filter : String) (value : Value) : Except EngineError Value × Engine :=
  match engine.compile filter with
  | (.error error, engine) => (.error (.parse error), engine)
  | (.ok tree, engine) =>
    let (result, engine) := engine.project tree engine.settings.defaultView value
    (result.mapError .projection, engine)

/-- The filter of the request for a key. Without one the value is kept as a whole, and so it is under a
filter that includes everything. -/
def applyIn (engine : Engine) (key : String) (source : String → Option String) (request : Request)
    (value : Value) : (Except EngineError Value × Engine) × Request :=
  let (filter, request) := Id.run (request.resolveFilter key (fun key => source key) none)
  let kept (outcome : Except ProjectionError Value × Engine) : Except EngineError Value × Engine :=
    (outcome.1.mapError .projection, outcome.2)
  match filter with
  | none => (kept (engine.whole value), request)
  | some filter =>
    match engine.compile filter with
    | (.error error, engine) => ((.error (.parse error), engine), request)
    | (.ok tree, engine) =>
      if tree.isIncludeAll then (kept (engine.whole value), request)
      else (kept (engine.projectIn tree engine.settings.defaultView request value), request)

end Engine
end FieldSelect
