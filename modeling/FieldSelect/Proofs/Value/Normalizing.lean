import FieldSelect.Proofs.Value.Narrowing

/-! Values that become documents and values again. Records come back as objects of their fields, floats that are not
finite as null, and all else as it was and where it was. -/
namespace FieldSelect

namespace Value

mutual

/-- The value with objects for its records and null for its floats that are not finite. -/
def normalized : Value → Value
  | .float x => if x.isFinite then .float x else .null
  | .array items => .array (normalizedItems items)
  | .object entries => .object (normalizedEntries entries)
  | .record _ fields => .object (normalizedEntries fields)
  | other => other

def normalizedItems : List Value → List Value
  | [] => []
  | item :: rest => item.normalized :: normalizedItems rest

def normalizedEntries : List (String × Value) → List (String × Value)
  | [] => []
  | (key, value) :: rest => (key, value.normalized) :: normalizedEntries rest

end

/-! ### Places -/

/-- What stands right inside a value, in order. -/
def parts : Value → List Value
  | .array items => items
  | .object entries => Entries.values entries
  | .record _ fields => Entries.values fields
  | _ => []

/-- What stands at a place, which is told by the number of a part, that of a part of this one, and so on. -/
def at? : List Nat → Value → Option Value
  | [], value => some value
  | number :: place, value => value.parts[number]?.bind (at? place)

/-- No float at any place is infinite or no number. -/
def FloatsFinite (value : Value) : Prop := ∀ place x, value.at? place = some (.float x) → x.isFinite = true

variable {value : Value}

theorem floatsFinite_iff :
    value.FloatsFinite ↔ (∀ x, value = .float x → x.isFinite = true) ∧ ∀ part ∈ value.parts, part.FloatsFinite := by
  constructor
  · intro finite
    constructor
    · intro x same
      exact finite [] x (congrArg some same)
    · intro part member place x found
      obtain ⟨number, held⟩ := List.mem_iff_getElem?.mp member
      apply finite (number :: place) x
      rw [at?, held]
      exact found
  · intro ⟨own, below⟩ place x found
    cases place with
    | nil => exact own x (Option.some.inj found)
    | cons number place =>
      obtain ⟨part, held, found⟩ := Option.bind_eq_some_iff.mp found
      exact below part (List.mem_of_getElem? held) place x found

/-! ### What is kept -/

theorem normalizedItems_eq_map (items : List Value) : normalizedItems items = items.map normalized := by
  induction items with
  | nil => rfl
  | cons item rest ih => rw [normalizedItems, ih, List.map_cons]

theorem values_normalizedEntries (entries : Entries Value) :
    Entries.values (normalizedEntries entries) = (Entries.values entries).map normalized := by
  induction entries with
  | nil => rfl
  | cons entry rest ih => exact congrArg (entry.2.normalized :: ·) ih

theorem parts_normalized (value : Value) : value.normalized.parts = value.parts.map normalized := by
  cases value with
  | array items => exact normalizedItems_eq_map items
  | object entries => exact values_normalizedEntries entries
  | record _ fields => exact values_normalizedEntries fields
  | float x =>
    rw [normalized]
    split <;> rfl
  | _ => rfl

/-- Each place holds what was there, normalized, and no place is new. -/
theorem at?_normalized (place : List Nat) (value : Value) :
    value.normalized.at? place = (value.at? place).map normalized := by
  induction place generalizing value with
  | nil => rfl
  | cons number place ih =>
    rw [at?, at?, parts_normalized, List.getElem?_map]
    cases value.parts[number]? with
    | none => rfl
    | some part => exact ih part

theorem normalized_eq_integer {n : Int64} : value.normalized = .integer n ↔ value = .integer n := by
  cases value with
  | float x =>
    rw [normalized]
    split <;> simp
  | _ => simp [normalized]

theorem normalized_eq_float {x : Float} : value.normalized = .float x ↔ x.isFinite = true ∧ value = .float x := by
  cases value with
  | float y =>
    rw [normalized]
    split
    · rename_i finite
      constructor
      · intro same
        cases same
        exact ⟨finite, rfl⟩
      · exact And.right
    · rename_i infinite
      constructor
      · nofun
      · intro ⟨finite, same⟩
        cases same
        exact absurd finite infinite
  | _ => simp [normalized]

mutual

/-- A value stays as it is where no record and no float that is not finite stands in it. -/
theorem normalized_eq_self : ∀ value : Value, value.normalized = value ↔ value.RecordFree ∧ value.FloatsFinite
  | .float x => by
    rw [normalized_eq_float, floatsFinite_iff]
    constructor
    · intro ⟨finite, _⟩
      refine ⟨.scalar rfl, fun y same => ?_, nofun⟩
      cases same
      exact finite
    · intro ⟨_, own, _⟩
      exact ⟨own x rfl, rfl⟩
  | .array items => by
    rw [normalized, array.injEq, normalizedItems_eq_self items, floatsFinite_iff]
    constructor
    · intro inside
      exact ⟨.array fun item member => (inside item member).1, nofun, fun item member => (inside item member).2⟩
    · intro ⟨free, _, below⟩ item member
      exact ⟨free.of_array item member, below item member⟩
  | .object entries => by
    rw [normalized, object.injEq, normalizedEntries_eq_self entries, floatsFinite_iff]
    constructor
    · intro inside
      refine ⟨.object fun entry member => (inside entry member).1, nofun, ?_⟩
      exact List.forall_mem_map.mpr fun entry member => (inside entry member).2
    · intro ⟨free, _, below⟩ entry member
      exact ⟨free.of_object entry member, below entry.2 (List.mem_map_of_mem member)⟩
  | .record typeName fields => by
    constructor
    · nofun
    · intro ⟨free, _⟩
      cases free with
      | scalar flat => simp [height] at flat
  | .null | .boolean _ | .integer _ | .string _ => by
    rw [floatsFinite_iff]
    exact iff_of_true rfl ⟨.scalar rfl, nofun, nofun⟩

theorem normalizedItems_eq_self : ∀ items : List Value,
    normalizedItems items = items ↔ ∀ item ∈ items, item.RecordFree ∧ item.FloatsFinite
  | [] => iff_of_true rfl nofun
  | item :: rest => by
    rw [normalizedItems, List.cons.injEq, List.forall_mem_cons, normalized_eq_self item, normalizedItems_eq_self rest]

theorem normalizedEntries_eq_self : ∀ entries : List (String × Value),
    normalizedEntries entries = entries ↔ ∀ entry ∈ entries, entry.2.RecordFree ∧ entry.2.FloatsFinite
  | [] => iff_of_true rfl nofun
  | (key, value) :: rest => by
    rw [normalizedEntries, List.cons.injEq, List.forall_mem_cons, Prod.mk.injEq, normalized_eq_self value,
      normalizedEntries_eq_self rest]
    simp only [true_and]

end

/-! ### Over and back -/

mutual

theorem ofJson_toJson_eq_normalized : ∀ value : Value, ofJson value.toJson = value.normalized
  | .integer n => by
    rw [toJson, ofJson, narrow?_toInt]
    rfl
  | .float x => by
    rw [toJson, normalized]
    split <;> rfl
  | .array items => congrArg array (ofJsonItems_toJsonItems items)
  | .object entries => congrArg object (ofJsonEntries_toJsonEntries entries)
  | .record _ fields => congrArg object (ofJsonEntries_toJsonEntries fields)
  | .null | .boolean _ | .string _ => rfl

theorem ofJsonItems_toJsonItems : ∀ items : List Value, ofJsonItems (toJsonItems items) = normalizedItems items
  | [] => rfl
  | item :: rest => by
    rw [toJsonItems, ofJsonItems, normalizedItems, ofJson_toJson_eq_normalized item, ofJsonItems_toJsonItems rest]

theorem ofJsonEntries_toJsonEntries : ∀ entries : List (String × Value),
    ofJsonEntries (toJsonEntries entries) = normalizedEntries entries
  | [] => rfl
  | (key, value) :: rest => by
    rw [toJsonEntries, ofJsonEntries, normalizedEntries, ofJson_toJson_eq_normalized value,
      ofJsonEntries_toJsonEntries rest]

end

/-- A value that became a document comes back normalized, so that it is the same just where no record and no float that
is not finite stands in it. Each integer is back at its place, and so is each finite float; there are no others. -/
theorem ofJson_toJson (value : Value) :
    ofJson value.toJson = value.normalized ∧
      (ofJson value.toJson = value ↔ value.RecordFree ∧ value.FloatsFinite) ∧
      (∀ place n, (ofJson value.toJson).at? place = some (.integer n) ↔ value.at? place = some (.integer n)) ∧
      ∀ place x, (ofJson value.toJson).at? place = some (.float x) ↔
        x.isFinite = true ∧ value.at? place = some (.float x) := by
  rw [ofJson_toJson_eq_normalized]
  refine ⟨rfl, value.normalized_eq_self, fun place n => ?_, fun place x => ?_⟩
  · rw [at?_normalized, Option.map_eq_some_iff]
    simp only [normalized_eq_integer, exists_eq_right]
  · rw [at?_normalized, Option.map_eq_some_iff]
    simp only [normalized_eq_float]
    constructor
    · intro ⟨_, found, finite, same⟩
      exact ⟨finite, same ▸ found⟩
    · intro ⟨finite, found⟩
      exact ⟨_, found, finite, rfl⟩

end Value
end FieldSelect
