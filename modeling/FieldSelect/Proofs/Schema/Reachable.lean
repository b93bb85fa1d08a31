import FieldSelect.Proofs.Cache.Faithful
import FieldSelect.Schema.Catalog

/-! The catalogs that registrations and look-ups lead to. Each of them answers as its schemas say. -/
namespace FieldSelect
namespace Catalog
variable {catalog : Catalog}

/-- Time goes by. -/
def wait (catalog : Catalog) (elapsed : Nat) : Catalog := { catalog with tables := catalog.tables.advance elapsed }

/-- Schemas are registered and tables looked up in any order, and time goes by in between. -/
inductive Reachable : Catalog → Prop where
  | ofSettings (settings : Settings) : Reachable (.ofSettings settings)
  | register {catalog : Catalog} (before : Reachable catalog) (schema : Schema) :
      Reachable (catalog.register schema)
  | table {catalog : Catalog} (before : Reachable catalog) (typeName : String) :
      Reachable (catalog.table typeName).2
  | wait {catalog : Catalog} (before : Reachable catalog) (elapsed : Nat) :
      Reachable { catalog with tables := catalog.tables.advance elapsed }

theorem build_register_of_ne {schema : Schema} {typeName : String} (different : typeName ≠ schema.typeName) :
    (catalog.register schema).build typeName = catalog.build typeName := by
  simp [build, register, Entries.find?_insert_of_ne different]

/-- A new schema makes only its own type's table untrue, and that one is forgotten. -/
theorem faithful_register (faithful : catalog.tables.Faithful catalog.build) (schema : Schema) :
    (catalog.register schema).tables.Faithful (catalog.register schema).build where
  entries slot member entry state := by
    obtain ⟨present, different⟩ := Memo.mem_without.mp member
    rw [build_register_of_ne different]
    exact faithful.entries slot present entry state
  numbers slot member other member' :=
    faithful.numbers slot (Memo.mem_without.mp member).1 other (Memo.mem_without.mp member').1
  next slot member := faithful.next slot (Memo.mem_without.mp member).1

theorem Reachable.faithful (reachable : catalog.Reachable) :
    catalog.tables.Faithful catalog.build := by
  induction reachable with
  | ofSettings settings => exact .ofSpec settings.viewCache
  | register before schema ih => exact faithful_register ih schema
  | table before typeName ih => exact (ih.getOrInsert typeName).2
  | wait before elapsed ih => exact ⟨ih.entries, ih.numbers, ih.next⟩

/-- A catalog that came about in use, with given tables. -/
structure Answers (tableOf : String → Except SchemaError ViewTable) (catalog : Catalog) : Prop where
  build : catalog.build = tableOf
  reachable : catalog.Reachable

theorem Reachable.answers (reachable : catalog.Reachable) : catalog.Answers catalog.build :=
  ⟨rfl, reachable⟩

/-- The answers of a catalog do not depend on what it remembers. -/
theorem Answers.table {tableOf : String → Except SchemaError ViewTable} (answers : catalog.Answers tableOf)
    (typeName : String) :
    (catalog.table typeName).1 = tableOf typeName ∧ (catalog.table typeName).2.Answers tableOf := by
  obtain ⟨rfl, reachable⟩ := answers
  exact ⟨(reachable.faithful.getOrInsert typeName).1, rfl, reachable.table typeName⟩

theorem Answers.wait {tableOf : String → Except SchemaError ViewTable} (answers : catalog.Answers tableOf)
    (elapsed : Nat) : (catalog.wait elapsed).Answers tableOf :=
  ⟨answers.build, answers.reachable.wait elapsed⟩

end Catalog
end FieldSelect
