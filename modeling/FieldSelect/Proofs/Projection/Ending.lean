import FieldSelect.Projection.Walk
import FieldSelect.Proofs.Pairing

/-! How a projection ends: with a result, or with the error of a record whose type has no table. -/
namespace FieldSelect
namespace Projection
variable {α β : Type} {P : α → Prop} {Q : β → Prop} {failed : ProjectionError → Prop}

/-- The run succeeds with a result that has the one property, or fails with an error that has the other. -/
inductive Ends (P : α → Prop) (failed : ProjectionError → Prop) : Projection Id α → Prop where
  | pure {x : α} (holds : P x) : Ends P failed (pure x)
  | throw {error : ProjectionError} (holds : failed error) : Ends P failed (throw error)

theorem pure_inj {x y : α} : (pure x : Projection Id α) = pure y ↔ x = y :=
  ⟨fun same => Except.ok.inj same, congrArg pure⟩

theorem throw_ne_pure {error : ProjectionError} {x : α} : (throw error : Projection Id α) ≠ pure x := by
  intro same
  have ran : (.error error : Except ProjectionError α) = .ok x := congrArg ExceptT.run same
  cases ran

theorem Ends.imp {P' : α → Prop} {failed' : ProjectionError → Prop} {run : Projection Id α} (ends : Ends P failed run)
    (ok : ∀ x, P x → P' x) (error : ∀ error, failed error → failed' error) : Ends P' failed' run := by
  cases ends with
  | pure holds => exact .pure (ok _ holds)
  | throw holds => exact .throw (error _ holds)

theorem Ends.given {run : Projection Id α} (ends : Ends P failed run) :
    Ends (fun x => run = Pure.pure x ∧ P x) failed run := by
  cases ends with
  | pure holds => exact .pure ⟨rfl, holds⟩
  | throw holds => exact .throw holds

theorem Ends.bind {run : Projection Id α} {next : α → Projection Id β} (ends : Ends P failed run)
    (rest : ∀ x, P x → Ends Q failed (next x)) : Ends Q failed (run >>= next) := by
  cases ends with
  | pure holds =>
    rw [pure_bind]
    exact rest _ holds
  | throw holds => exact .throw holds

theorem Ends.mapM {R : α → β → Prop} {items : List α} {step : α → Projection Id β}
    (each : ∀ item ∈ items, Ends (R item) failed (step item)) :
    Ends (List.Forall₂ R items) failed (items.mapM step) := by
  induction items with
  | nil => exact .pure .nil
  | cons item rest ih =>
    obtain ⟨own, others⟩ := List.forall_mem_cons.mp each
    rw [List.mapM_cons]
    exact own.bind fun first head => (ih others).bind fun more tail => .pure (.cons head tail)

theorem Ends.of_pure {x : α} (ends : Ends P failed (Pure.pure x)) : P x := by
  generalize same : (Pure.pure x : Projection Id α) = run at ends
  cases ends with
  | pure holds => exact pure_inj.mp same ▸ holds
  | throw => exact absurd same.symm throw_ne_pure

theorem Ends.cases {run : Projection Id α} (ends : Ends P failed run) :
    (∃ error, ExceptT.run run = .error error ∧ failed error) ∨ ∃ x, ExceptT.run run = .ok x ∧ P x := by
  cases ends with
  | pure holds => exact .inr ⟨_, rfl, holds⟩
  | throw holds => exact .inl ⟨_, rfl, holds⟩

end Projection

open Projection

namespace Value

/-- A record of the type stands somewhere in the value, or is the value. -/
inductive HasRecord (typeName : String) : Value → Prop where
  | here (fields : Entries Value) : HasRecord typeName (.record typeName fields)
  | item {items : List Value} {item : Value} (member : item ∈ items) (inside : HasRecord typeName item) :
      HasRecord typeName (.array items)
  | entry {entries : Entries Value} {entry : String × Value} (member : entry ∈ entries)
      (inside : HasRecord typeName entry.2) : HasRecord typeName (.object entries)
  | field {other : String} {fields : Entries Value} {entry : String × Value} (member : entry ∈ fields)
      (inside : HasRecord typeName entry.2) : HasRecord typeName (.record other fields)

/-- The error says why the type of a record in the value has no table. -/
def LacksTable (tableOf : String → Except SchemaError ViewTable) (value : Value) (error : ProjectionError) : Prop :=
  ∃ typeName cause, value.HasRecord typeName ∧ tableOf typeName = .error cause ∧ error = .schema cause

theorem LacksTable.imp {tableOf : String → Except SchemaError ViewTable} {value outer : Value}
    {error : ProjectionError} (lacks : value.LacksTable tableOf error)
    (inside : ∀ typeName, value.HasRecord typeName → outer.HasRecord typeName) : outer.LacksTable tableOf error := by
  obtain ⟨typeName, cause, present, untabled, same⟩ := lacks
  exact ⟨typeName, cause, inside typeName present, untabled, same⟩

end Value

/-- Without strictness the table of an unknown type is passed over. -/
theorem Projector.table?_ends (projector : Projector Id) (typeName : String) :
    Ends (fun found => ∀ table, found = some table ↔ projector.tableOf typeName = .ok table)
      (fun error => ∃ cause, projector.tableOf typeName = .error cause ∧ error = .schema cause)
      (projector.table? typeName) := by
  have lookedUp : projector.table? typeName = match projector.tableOf typeName with
      | .ok table => pure (some table)
      | .error error =>
        if error.cause = .unknownType ∧ projector.strict = false then pure none else throw (.schema error) := rfl
  rw [lookedUp]
  rcases projector.tableOf typeName with cause | table
  · dsimp only
    split
    · exact .pure fun table => ⟨nofun, nofun⟩
    · exact .throw ⟨cause, rfl, rfl⟩
  · refine .pure fun other => ?_
    rw [Option.some.injEq, Except.ok.injEq]

end FieldSelect
