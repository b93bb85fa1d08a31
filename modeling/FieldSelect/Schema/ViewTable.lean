import FieldSelect.Entries
import FieldSelect.Schema.Basic
import FieldSelect.Schema.NameSet

/-! The views of one record type, worked out from its schema once and for all. -/
namespace FieldSelect

/-- What is wrong with a type. -/
inductive SchemaFault where
  | unknownType
  | duplicateProperty (external first second : String)
  | emptyPropertyName (index : Nat)
  deriving DecidableEq

structure SchemaError where
  typeName : String
  cause : SchemaFault
  deriving DecidableEq

def SchemaError.message (error : SchemaError) : String :=
  "Cannot introspect type '" ++ error.typeName ++ "': " ++
    match error.cause with
    | .unknownType => "no schema registered"
    | .duplicateProperty external first second =>
      "properties '" ++ first ++ "' and '" ++ second ++ "' are both exposed as '" ++ external ++ "'"
    | .emptyPropertyName index => "property " ++ toString index ++ " has an empty name"

/-- How views take over the properties of the base view. -/
structure ViewRules where
  /-- Every view holds the base properties. -/
  includeBaseInViews : Bool
  /-- Properties that name no view belong to the base view. -/
  addUnviewedToBase : Bool

/-- Views and properties go by external names; `declared` gives the names that records use. -/
structure ViewTable where
  typeName : String
  views : Entries NameSet
  unwrapped : NameSet
  declared : Entries String
  deriving DecidableEq

namespace ViewTable

def hasView (table : ViewTable) (view : String) : Bool := Entries.contains view table.views

def viewNames (table : ViewTable) : List String := Entries.keys table.views

/-- Without properties of its own the full view is all of them, and any other view is empty. -/
def propertiesIn (table : ViewTable) (view : String) : NameSet :=
  match Entries.find? view table.views with
  | some names => names
  | none => if view = fullView then Entries.keys table.declared else []

def isUnwrapped (table : ViewTable) (external : String) : Bool := table.unwrapped.contains external

def declaredName? (table : ViewTable) (external : String) : Option String :=
  Entries.find? external table.declared

def propertyNames (table : ViewTable) : List String := Entries.keys table.declared

/-! ### Building -/

def empty (typeName : String) : ViewTable := ⟨typeName, [], [], []⟩

/-- A property becomes a member of a view, which comes into being with its first member. -/
def addToView (views : Entries NameSet) (external view : String) : Entries NameSet :=
  Entries.insert view (NameSet.insert external ((Entries.find? view views).getD [])) views

/-- The views that a property belongs to. -/
def viewsOf (rules : ViewRules) (property : Property) : List String :=
  if property.views.isEmpty then if rules.addUnviewedToBase then [baseView] else [] else property.views

/-- An empty name is found before a name that another property has. -/
def addProperty (rules : ViewRules) (table : ViewTable) (index : Nat) (property : Property) :
    Except SchemaError ViewTable :=
  if property.name.isEmpty then .error ⟨table.typeName, .emptyPropertyName index⟩
  else
    let external := property.external
    match Entries.find? external table.declared with
    | some first => .error ⟨table.typeName, .duplicateProperty external first property.name⟩
    | none =>
      .ok
        { table with
          views := (viewsOf rules property).foldl (addToView · external ·) table.views
          unwrapped := if property.unwrapped then NameSet.insert external table.unwrapped else table.unwrapped
          declared := Entries.insert external property.name table.declared }

def addProperties (rules : ViewRules) : ViewTable → Nat → List Property → Except SchemaError ViewTable
  | table, _, [] => .ok table
  | table, index, property :: rest => do
    addProperties rules (← addProperty rules table index property) (index + 1) rest

/-- The base properties join the full view, or all views if the rules say so. -/
def expand (rules : ViewRules) (views : Entries NameSet) : Entries NameSet :=
  let base := (Entries.find? baseView views).getD []
  views.map fun (view, names) =>
    if view ≠ baseView ∧ (rules.includeBaseInViews ∨ view = fullView) then (view, NameSet.union base names)
    else (view, names)

/-- The first property with a fault decides the error. -/
def ofSchema (rules : ViewRules) (schema : Schema) : Except SchemaError ViewTable := do
  let table ← addProperties rules (empty schema.typeName) 0 schema.properties
  return { table with views := expand rules table.views }

end ViewTable
end FieldSelect
