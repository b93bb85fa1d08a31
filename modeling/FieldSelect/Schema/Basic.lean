/-! How record types describe their properties. -/
namespace FieldSelect

/-- The view of properties that name no view. -/
def baseView : String := "base"

/-- The view that holds every property when none names it. -/
def fullView : String := "full"

/-- A property under its declared name, which is its key in records. -/
structure Property where
  name : String
  rename : Option String
  views : List String
  /-- The fields of the property's value stand in its place. -/
  unwrapped : Bool
  deriving DecidableEq

/-- The name under which a property is shown; an empty one does not count. -/
def Property.external (property : Property) : String :=
  match property.rename with
  | some name => if name.isEmpty then property.name else name
  | none => property.name

structure Schema where
  typeName : String
  properties : List Property
  deriving DecidableEq

end FieldSelect
