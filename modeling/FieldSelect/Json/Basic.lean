import FieldSelect.Entries

/-! JSON documents. Integers stand apart from floats, and objects keep their entries sorted by key. -/
namespace FieldSelect

/-- Floats in a document are finite; integers lie between `-2 ^ 63` and `2 ^ 64 - 1`. -/
inductive Json where
  | null
  | boolean (truth : Bool)
  | integer (n : Int)
  | float (x : Float)
  | string (chars : String)
  | array (items : List Json)
  | object (entries : List (String × Json))
  deriving Inhabited

end FieldSelect
