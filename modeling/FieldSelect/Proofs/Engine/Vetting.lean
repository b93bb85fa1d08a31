import FieldSelect.Proofs.Engine.History
import FieldSelect.Proofs.Projection.Ending
import FieldSelect.Proofs.Schema.Freshness
import FieldSelect.Proofs.Yields

/-! Schemas are vetted when an engine is built. Whatever is asked of the engine later on, and whatever its memos forget
by then, no malformed schema is met any more, and only a type that was never registered has no table. -/
namespace FieldSelect

/-- The fault of a schema that made the projection fail. -/
def ProjectionError.schema? : ProjectionError → Option SchemaError
  | .schema error => some error
  | _ => none

/-- The fault of a schema that made the use fail. -/
def EngineReply.schema? : EngineReply → Option SchemaError
  | .tabled (.error error) => some error
  | .projected (.error error) => error.schema?
  | .applied (.error (.projection error)) => error.schema?
  | .appliedIn (.error (.projection error)) _ => error.schema?
  | _ => none

/-! ### Where faults come from -/

namespace Projector

section Calls
variable {m : Type → Type} (projector : Projector m) {error : ProjectionError}

theorem schema?_of_call {input : Value} {call : Call} (failed : projector.call input call = .error error) :
    error.schema? = none := by
  have passed : ∀ unresolved, projector.passOver unresolved input = .error error → error.schema? = none := by
    intro unresolved failed
    rw [passOver] at failed
    split at failed
    · cases failed
      rfl
    · cases failed
  rw [Projector.call] at failed
  split at failed
  · exact passed _ failed
  · split at failed
    · exact passed _ failed
    · rename_i overload _
      cases invoked : overload.invoke input _ with
      | ok value =>
        rw [invoked] at failed
        cases failed
      | error cause =>
        rw [invoked] at failed
        cases failed
        rfl

theorem schema?_of_callKey {key : String} {call : Call} (failed : projector.callKey key call = .error error) :
    error.schema? = none := by
  rcases exists_of_bind_eq_error failed with called | ⟨result, checked⟩
  · exact projector.schema?_of_call called
  · split at checked
    · cases checked
    · cases checked
      rfl

/-- Calls fail for reasons of their own. -/
theorem schema?_of_applyCalls {selector : Selector} {key : String} {value : Value}
    (failed : projector.applyCalls selector key value = .error error) : error.schema? = none := by
  rcases exists_of_bind_eq_error failed with valued | ⟨value, failed⟩
  · obtain ⟨input, call, _, called⟩ := exists_of_foldlM_eq_error valued
    exact projector.schema?_of_call called
  · rcases exists_of_bind_eq_error failed with keyed | ⟨key, done⟩
    · obtain ⟨input, call, _, called⟩ := exists_of_foldlM_eq_error keyed
      exact projector.schema?_of_callKey called
    · cases done

end Calls

open Projection

variable (projector : Projector Id)

/-- A schema is at fault only if the table of a type was looked up and there was none. -/
def Blames (projector : Projector Id) (error : ProjectionError) : Prop :=
  ∀ fault, error.schema? = some fault → ∃ typeName, projector.tableOf typeName = .error fault

theorem inStep_blames :
    InStep (fun _ run _ => Ends (fun _ => True) projector.Blames run) projector projector where
  steps := ⟨fun _ => .pure trivial, fun first rest => first.bind fun value _ => rest value⟩
  bindings := rfl
  table typeName := by
    refine (projector.table?_ends typeName).imp (fun _ _ => trivial) fun error untabled fault schema => ?_
    obtain ⟨cause, failed, rfl⟩ := untabled
    cases schema
    exact ⟨typeName, failed⟩
  calls selector key value := by
    cases called : projector.applyCalls selector key value with
    | ok entry => exact .pure trivial
    | error error =>
      refine .throw fun fault schema => ?_
      rw [projector.schema?_of_applyCalls called] at schema
      cases schema

variable {projector}

theorem blames_of_ends {α : Type} {run : Projection Id α} {error : ProjectionError}
    (ends : Ends (fun _ => True) projector.Blames run) (failed : ExceptT.run run = .error error) :
    projector.Blames error := by
  rcases ends.cases with ⟨own, same, blames⟩ | ⟨kept, same, _⟩
  · cases failed.symm.trans same
    exact blames
  · cases failed.symm.trans same

end Projector

namespace EngineReply
variable {outcome : Except ProjectionError Value} {fault : SchemaError}

theorem exists_of_projected (found : (projected outcome).schema? = some fault) :
    ∃ error, outcome = .error error ∧ error.schema? = some fault := by
  cases outcome with
  | ok value => cases found
  | error error => exact ⟨error, rfl, found⟩

theorem schema?_applied (outcome : Except ProjectionError Value) :
    (applied (outcome.mapError .projection)).schema? = (projected outcome).schema? := by
  cases outcome <;> rfl

theorem schema?_appliedIn (outcome : Except ProjectionError Value) (request : Request) :
    (appliedIn (outcome.mapError .projection) request).schema? = (projected outcome).schema? := by
  cases outcome <;> rfl

end EngineReply

namespace Blueprint
variable (blueprint : Blueprint) {fault : SchemaError}

/-- It is what a type of the blueprint has for a table. -/
def Faults (fault : SchemaError) : Prop := ∃ typeName, blueprint.catalog.build typeName = .error fault

theorem faults_of_whole {value : Value} (found : (EngineReply.projected (blueprint.whole value)).schema? = some fault) :
    blueprint.Faults fault := by
  obtain ⟨error, failed, schema⟩ := EngineReply.exists_of_projected found
  exact Projector.blames_of_ends ((blueprint.projector none).inStep_blames.whole value) failed fault schema

theorem faults_of_project {bindings : Option Bindings} {tree : Tree} {view : String} {value : Value}
    (found : (EngineReply.projected (blueprint.project bindings tree view value)).schema? = some fault) :
    blueprint.Faults fault := by
  obtain ⟨error, failed, schema⟩ := EngineReply.exists_of_projected found
  have ends := (blueprint.projector bindings).inStep_blames.project tree view value
  exact Projector.blames_of_ends ends failed fault schema

theorem faults_of_apply {filter : String} {value : Value}
    (found : (EngineReply.applied (blueprint.apply filter value)).schema? = some fault) : blueprint.Faults fault := by
  rw [apply] at found
  cases compiled : FieldSelect.compile filter with
  | error error =>
    rw [compiled] at found
    cases found
  | ok tree =>
    rw [compiled] at found
    have projected := (EngineReply.schema?_applied _).symm.trans found
    exact blueprint.faults_of_project projected

theorem faults_of_applyResolved {filter : Option String} {bindings : Bindings} {value : Value} {request : Request}
    (found : (EngineReply.appliedIn (blueprint.applyResolved filter bindings value) request).schema? = some fault) :
    blueprint.Faults fault := by
  cases filter with
  | none => exact blueprint.faults_of_whole ((EngineReply.schema?_appliedIn _ request).symm.trans found)
  | some filter =>
    rw [applyResolved] at found
    cases compiled : FieldSelect.compile filter with
    | error error =>
      rw [compiled] at found
      cases found
    | ok tree =>
      rw [compiled] at found
      dsimp only [bind, Except.bind, Except.mapError] at found
      split at found
      · exact blueprint.faults_of_whole ((EngineReply.schema?_appliedIn _ request).symm.trans found)
      · exact blueprint.faults_of_project ((EngineReply.schema?_appliedIn _ request).symm.trans found)

/-- A use fails because of a schema only where a type has no table. -/
theorem faults_of_answer (use : EngineUse) (found : (blueprint.answer use).schema? = some fault) :
    blueprint.Faults fault := by
  cases use with
  | compile filter => cases found
  | table typeName =>
    refine ⟨typeName, ?_⟩
    rw [answer] at found
    cases built : blueprint.catalog.build typeName with
    | ok table =>
      rw [built] at found
      cases found
    | error error =>
      rw [built] at found
      cases found
      rfl
  | whole value => exact blueprint.faults_of_whole found
  | project tree view value => exact blueprint.faults_of_project found
  | projectIn tree view request value => exact blueprint.faults_of_project found
  | projectAt pace bindings tree view value => exact blueprint.faults_of_project found
  | apply filter value => exact blueprint.faults_of_apply found
  | applyIn key source request value => exact blueprint.faults_of_applyResolved found
  | wait elapsed => cases found

/-! ### What was vetted -/

/-- A schema of the type was registered. -/
def Registers (typeName : String) : Prop := ∃ schema ∈ blueprint.schemas, schema.typeName = typeName

variable {blueprint} {tableOf : String → Except SchemaError ViewTable} {catalog after : Catalog} {schemas : List Schema}

/-- The catalog of a blueprint has the latest schema of each type. -/
theorem current_foldl_register {rules : ViewRules} {registered : List Schema}
    (current : catalog.Current rules registered) (schemas : List Schema) :
    (schemas.foldl Catalog.register catalog).Current rules (schemas.reverse ++ registered) := by
  induction schemas generalizing catalog registered with
  | nil => exact current
  | cons schema rest ih =>
    rw [List.foldl_cons, List.reverse_cons, List.append_assoc]
    exact ih (current.register schema)

theorem build_eq_tableAfter (blueprint : Blueprint) (typeName : String) :
    blueprint.catalog.build typeName =
      (Catalog.ofSettings blueprint.settings).rules.tableAfter blueprint.schemas.reverse typeName := by
  have current := current_foldl_register (Catalog.current_ofSettings blueprint.settings) blueprint.schemas
  rw [List.append_nil] at current
  exact current.build typeName

theorem build_of_unregistered {typeName : String} (unregistered : ¬ blueprint.Registers typeName) :
    blueprint.catalog.build typeName = .error ⟨typeName, .unknownType⟩ := by
  have missing : blueprint.schemas.reverse.find? (·.typeName = typeName) = none := by
    rw [List.find?_eq_none]
    intro schema member same
    exact unregistered ⟨schema, List.mem_reverse.mp member, of_decide_eq_true same⟩
  rw [build_eq_tableAfter, ViewRules.tableAfter, missing]

theorem exists_table_of_tabulate (answers : catalog.Answers tableOf)
    (tabulated : tabulate catalog schemas = .ok after) : ∀ schema ∈ schemas, ∃ table, tableOf schema.typeName = .ok table := by
  induction schemas generalizing catalog with
  | nil => nofun
  | cons schema rest ih =>
    obtain ⟨same, next⟩ := answers.table schema.typeName
    rw [tabulate] at tabulated
    split at tabulated
    · rename_i table _ found
      rw [found] at same next
      exact List.forall_mem_cons.mpr ⟨⟨table, same.symm⟩, ih next tabulated⟩
    · cases tabulated

variable {engine : Engine}

theorem exists_tabulate_of_build (built : blueprint.build = .ok engine) :
    ∃ after, tabulate blueprint.catalog blueprint.schemas = .ok after := by
  rw [build] at built
  split at built
  · cases built
  · cases tabulated : tabulate blueprint.catalog blueprint.schemas with
    | ok after => exact ⟨after, rfl⟩
    | error error =>
      rw [tabulated] at built
      cases built

/-- Once the engine is built, the types without a table are those that were never registered. -/
theorem build_eq_error_iff (built : blueprint.build = .ok engine) {typeName : String} :
    blueprint.catalog.build typeName = .error fault ↔
      fault = ⟨typeName, .unknownType⟩ ∧ ¬ blueprint.Registers typeName := by
  by_cases registered : blueprint.Registers typeName
  · obtain ⟨schema, member, rfl⟩ := registered
    obtain ⟨after, tabulated⟩ := exists_tabulate_of_build built
    obtain ⟨table, found⟩ := exists_table_of_tabulate blueprint.catalog_reachable.answers tabulated schema member
    rw [found]
    exact iff_of_false nofun fun both => both.2 ⟨schema, member, rfl⟩
  · rw [build_of_unregistered registered, Except.error.injEq, eq_comm]
    exact (and_iff_left registered).symm

end Blueprint

namespace Engine
variable {blueprint : Blueprint} {engine : Engine}

/-- Whatever an engine is used for, it fails because of a schema only where a type was never registered, and says so. At
any time a type has no table just where that is the case. -/
theorem performAll_vetted (built : blueprint.build = .ok engine) (uses : List EngineUse) :
    (∀ reply ∈ (engine.performAll uses).1, ∀ fault, reply.schema? = some fault →
      fault.cause = .unknownType ∧ ¬ blueprint.Registers fault.typeName) ∧
    ∀ typeName fault, ((engine.performAll uses).2.table typeName).1 = .error fault ↔
      fault = ⟨typeName, .unknownType⟩ ∧ ¬ blueprint.Registers typeName := by
  obtain ⟨replies, serves⟩ := (serves_of_build built).performAll uses
  constructor
  · intro reply member fault found
    rw [replies] at member
    obtain ⟨use, _, rfl⟩ := List.mem_map.mp member
    obtain ⟨typeName, failed⟩ := blueprint.faults_of_answer use found
    obtain ⟨rfl, unregistered⟩ := (Blueprint.build_eq_error_iff built).mp failed
    exact ⟨rfl, unregistered⟩
  · intro typeName fault
    rw [(serves.table typeName).1]
    exact Blueprint.build_eq_error_iff built

/-- A malformed schema gives way to another one of its type before the tables are worked out, and those expire
at once. -/
private def replacing : Blueprint :=
  { Blueprint.ofSettings
      { Settings.standard with viewCache := { CacheSpec.unbounded with expireAfterWrite := some 0 } } with
    schemas := [⟨"User", [⟨"id", none, [], false⟩, ⟨"key", some "id", [], false⟩]⟩,
      ⟨"User", [⟨"id", none, [], false⟩]⟩] }

theorem performAll_vetted_of_replaced :
    let uses : List EngineUse := [.table "User", .wait 5, .whole (.array [.record "User" [], .record "Order" []])]
    ∃ engine : Engine, replacing.build = .ok engine ∧
      (engine.performAll uses).1.map (·.schema?) = [none, none, some ⟨"Order", .unknownType⟩] ∧
      ¬ replacing.Registers "Order" ∧ ∀ fault, ((engine.performAll uses).2.table "User").1 ≠ .error fault := by
  intro uses
  obtain ⟨engine, built⟩ : ∃ engine, replacing.build = .ok engine := ⟨_, rfl⟩
  have replies : (engine.performAll uses).1.map (·.schema?) = [none, none, some ⟨"Order", .unknownType⟩] := by
    rw [((serves_of_build built).performAll uses).1]
    rfl
  obtain ⟨vetted, tabled⟩ := performAll_vetted built uses
  refine ⟨engine, built, replies, ?_, fun fault failed => ?_⟩
  · obtain ⟨reply, member, failed⟩ :
        ∃ reply ∈ (engine.performAll uses).1, reply.schema? = some ⟨"Order", .unknownType⟩ := by
      apply List.mem_map.mp
      rw [replies]
      exact List.mem_of_getLast? rfl
    exact (vetted reply member _ failed).2
  · exact ((tabled "User" fault).mp failed).2 ⟨_, List.mem_cons_self, rfl⟩

end Engine
end FieldSelect
