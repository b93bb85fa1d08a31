import FieldSelect.Proofs.Json.Proper
import FieldSelect.Value.Document

/-! Documents that become values and documents again. An integer that 64 bits with a sign cannot hold comes back as the
float next to it, and all else as it was. -/
namespace FieldSelect

namespace Json

mutual

/-- The document with floats for integers of 64 bits that leave no room for a sign. -/
def narrowed : Json → Json
  | .integer n => if n < 2 ^ 63 then .integer n else .float (UInt64.ofNat n.toNat).toFloat
  | .array items => .array (narrowedItems items)
  | .object entries => .object (narrowedEntries entries)
  | other => other

def narrowedItems : List Json → List Json
  | [] => []
  | item :: rest => item.narrowed :: narrowedItems rest

def narrowedEntries : List (String × Json) → List (String × Json)
  | [] => []
  | (key, value) :: rest => (key, value.narrowed) :: narrowedEntries rest

end

/-- The first document is the second, or stands somewhere inside it. -/
inductive Part : Json → Json → Prop where
  | self (document : Json) : Part document document
  | item {part item : Json} {items : List Json} (member : item ∈ items) (below : Part part item) :
      Part part (.array items)
  | entry {part : Json} {entry : String × Json} {entries : Entries Json} (member : entry ∈ entries)
      (below : Part part entry.2) : Part part (.object entries)

variable {n : Int}

theorem part_array {items : List Json} : Part (.integer n) (.array items) ↔ ∃ item ∈ items, Part (.integer n) item := by
  constructor
  · rintro (_ | ⟨member, below⟩)
    exact ⟨_, member, below⟩
  · rintro ⟨item, member, below⟩
    exact .item member below

theorem part_object {entries : Entries Json} :
    Part (.integer n) (.object entries) ↔ ∃ entry ∈ entries, Part (.integer n) entry.2 := by
  constructor
  · rintro (_ | _ | ⟨member, below⟩)
    exact ⟨_, member, below⟩
  · rintro ⟨entry, member, below⟩
    exact .entry member below

mutual

/-- A document stays as it is where each integer in it leaves room for a sign. -/
theorem narrowed_eq_self : ∀ document : Json,
    document.narrowed = document ↔ ∀ n, Part (.integer n) document → n < 2 ^ 63
  | .integer n => by
    rw [narrowed]
    split
    · rename_i room
      refine iff_of_true rfl fun m part => ?_
      cases part
      exact room
    · rename_i room
      exact iff_of_false (fun same => Json.noConfusion same) fun all => room (all n (.self _))
  | .array items => by
    rw [narrowed, array.injEq, narrowedItems_eq_self items]
    simp only [part_array, forall_exists_index, and_imp]
    exact ⟨fun all n item member => all item member n, fun all item member n => all n item member⟩
  | .object entries => by
    rw [narrowed, object.injEq, narrowedEntries_eq_self entries]
    simp only [part_object, forall_exists_index, and_imp]
    exact ⟨fun all n entry member => all entry member n, fun all entry member n => all n entry member⟩
  | .null | .boolean _ | .float _ | .string _ => iff_of_true rfl nofun

theorem narrowedItems_eq_self : ∀ items : List Json,
    narrowedItems items = items ↔ ∀ item ∈ items, ∀ n, Part (.integer n) item → n < 2 ^ 63
  | [] => iff_of_true rfl nofun
  | item :: rest => by
    rw [narrowedItems, List.cons.injEq, List.forall_mem_cons, narrowed_eq_self item, narrowedItems_eq_self rest]

theorem narrowedEntries_eq_self : ∀ entries : List (String × Json),
    narrowedEntries entries = entries ↔ ∀ entry ∈ entries, ∀ n, Part (.integer n) entry.2 → n < 2 ^ 63
  | [] => iff_of_true rfl nofun
  | (key, value) :: rest => by
    rw [narrowedEntries, List.cons.injEq, List.forall_mem_cons, Prod.mk.injEq, narrowed_eq_self value,
      narrowedEntries_eq_self rest]
    simp only [true_and]

end

end Json

namespace Value

theorem ofJsonItems_eq_map (items : List Json) : ofJsonItems items = items.map ofJson := by
  induction items with
  | nil => rfl
  | cons item rest ih => rw [ofJsonItems, ih, List.map_cons]

theorem ofJsonEntries_eq_mapValues (entries : Entries Json) : ofJsonEntries entries = entries.mapValues ofJson := by
  induction entries with
  | nil => rfl
  | cons entry rest ih =>
    rw [ofJsonEntries, ih]
    rfl

theorem narrow?_of_room {n : Int} (low : -2 ^ 63 ≤ n) (room : n < 2 ^ 63) : narrow? n = some (Int64.ofInt n) :=
  if_pos ⟨low, room⟩

theorem ofJson_integer_flat (n : Int) : (ofJson (.integer n)).height = 0 := by
  rw [ofJson]
  split <;> rfl

/-- A document makes a value without records, in the order of its keys. -/
theorem ordered_ofJson {document : Json} (proper : document.Proper) : (ofJson document).Ordered := by
  induction proper with
  | null | boolean | float | string => exact .scalar rfl
  | integer => exact .scalar (ofJson_integer_flat _)
  | array _ ih =>
    rw [ofJson, ofJsonItems_eq_map]
    exact .array (List.forall_mem_map.mpr ih)
  | object sorted _ ih =>
    rw [ofJson, ofJsonEntries_eq_mapValues]
    refine .object ?_ (List.forall_mem_map.mpr ih)
    rw [Entries.Sorted, Entries.keys, Entries.mapValues, List.map_map]
    exact sorted

theorem recordFree_ofJson {document : Json} (proper : document.Proper) : (ofJson document).RecordFree := by
  induction proper with
  | null | boolean | float | string => exact .scalar rfl
  | integer => exact .scalar (ofJson_integer_flat _)
  | array _ ih =>
    rw [ofJson, ofJsonItems_eq_map]
    exact .array (List.forall_mem_map.mpr ih)
  | object _ _ ih =>
    rw [ofJson, ofJsonEntries_eq_mapValues]
    exact .object (List.forall_mem_map.mpr ih)

theorem toJsonItems_ofJsonItems {items : List Json} (each : ∀ item ∈ items, (ofJson item).toJson = item.narrowed) :
    toJsonItems (ofJsonItems items) = Json.narrowedItems items := by
  induction items with
  | nil => rfl
  | cons item rest ih =>
    obtain ⟨own, others⟩ := List.forall_mem_cons.mp each
    rw [ofJsonItems, toJsonItems, Json.narrowedItems, own, ih others]

theorem toJsonEntries_ofJsonEntries {entries : Entries Json}
    (each : ∀ entry ∈ entries, (ofJson entry.2).toJson = entry.2.narrowed) :
    toJsonEntries (ofJsonEntries entries) = Json.narrowedEntries entries := by
  induction entries with
  | nil => rfl
  | cons entry rest ih =>
    obtain ⟨own, others⟩ := List.forall_mem_cons.mp each
    rw [ofJsonEntries, toJsonEntries, Json.narrowedEntries, own, ih others]

/-- Written again, the value of a document is the document with its integers narrowed. -/
theorem toJson_ofJson {document : Json} (proper : document.Proper) : (ofJson document).toJson = document.narrowed := by
  induction proper with
  | null | boolean | string => rfl
  | @integer n low high =>
    rw [ofJson, Json.narrowed]
    by_cases room : n < 2 ^ 63
    · rw [if_pos room, narrow?_of_room low room]
      exact congrArg Json.integer (Int64.toInt_ofInt_of_le low room)
    · have wide : narrow? n = none := if_neg fun held => room held.2
      rw [if_neg room, wide]
      exact if_pos (below_toFloat _).isFinite
  | float finite => exact if_pos finite
  | array _ ih => exact congrArg Json.array (toJsonItems_ofJsonItems ih)
  | object _ _ ih => exact congrArg Json.object (toJsonEntries_ofJsonEntries ih)

end Value
end FieldSelect
