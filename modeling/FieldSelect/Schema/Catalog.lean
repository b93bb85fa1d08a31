import FieldSelect.Cache.Memo
import FieldSelect.Schema.ViewTable
import FieldSelect.Settings

/-! The registered record types and the view tables worked out so far. -/
namespace FieldSelect

structure Catalog where
  schemas : Entries Schema
  tables : Memo String ViewTable
  rules : ViewRules

namespace Catalog

def ofSettings (settings : Settings) : Catalog :=
  ⟨[], .ofSpec settings.viewCache, ⟨settings.includeBaseInViews, settings.addUnviewedToBase⟩⟩

/-- A schema takes the place of any other one of its type, whose table is forgotten. -/
def register (catalog : Catalog) (schema : Schema) : Catalog :=
  { catalog with
    tables := catalog.tables.invalidate schema.typeName
    schemas := Entries.insert schema.typeName schema catalog.schemas }

def isRegistered (catalog : Catalog) (typeName : String) : Bool :=
  Entries.contains typeName catalog.schemas

/-- The table of a type as its schema gives it. -/
def build (catalog : Catalog) (typeName : String) : Except SchemaError ViewTable :=
  match Entries.find? typeName catalog.schemas with
  | some schema => ViewTable.ofSchema catalog.rules schema
  | none => .error ⟨typeName, .unknownType⟩

/-- The table of a type, worked out only if none is kept. -/
def table (catalog : Catalog) (typeName : String) :
    Except SchemaError ViewTable × Catalog :=
  let (result, tables) := catalog.tables.getOrInsert typeName fun _ => catalog.build typeName
  (result, { catalog with tables })

def stats (catalog : Catalog) : MemoStats := catalog.tables.stats

end Catalog
end FieldSelect
