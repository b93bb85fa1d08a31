import FieldSelect.Projection.Walk
import FieldSelect.Proofs.Entries

/-! Values cut down to the entries on some key paths. The place of an item in its array is no part of a path. -/
namespace FieldSelect

namespace Value

/-- Objects and records hold their entries as a map does: in the order of the keys, and each key once. -/
inductive Ordered : Value → Prop where
  | scalar {value : Value} (flat : value.height = 0) : Ordered value
  | array {items : List Value} (inside : ∀ item ∈ items, Ordered item) : Ordered (.array items)
  | object {entries : Entries Value} (sorted : Entries.Sorted entries) (inside : ∀ entry ∈ entries, Ordered entry.2) :
      Ordered (.object entries)
  | record {typeName : String} {fields : Entries Value} (sorted : Entries.Sorted fields)
      (inside : ∀ entry ∈ fields, Ordered entry.2) : Ordered (.record typeName fields)

/-- No record stands anywhere in the value. -/
inductive RecordFree : Value → Prop where
  | scalar {value : Value} (flat : value.height = 0) : RecordFree value
  | array {items : List Value} (inside : ∀ item ∈ items, RecordFree item) : RecordFree (.array items)
  | object {entries : Entries Value} (inside : ∀ entry ∈ entries, RecordFree entry.2) : RecordFree (.object entries)

section Parts
variable {items : List Value} {entries : Entries Value}

theorem Ordered.of_array (ordered : (Value.array items).Ordered) : ∀ item ∈ items, item.Ordered := by
  cases ordered with
  | scalar flat => simp [height] at flat
  | array inside => exact inside

theorem Ordered.of_object (ordered : (Value.object entries).Ordered) :
    Entries.Sorted entries ∧ ∀ entry ∈ entries, entry.2.Ordered := by
  cases ordered with
  | scalar flat => simp [height] at flat
  | object sorted inside => exact ⟨sorted, inside⟩

theorem Ordered.of_record {typeName : String} (ordered : (Value.record typeName entries).Ordered) :
    Entries.Sorted entries ∧ ∀ entry ∈ entries, entry.2.Ordered := by
  cases ordered with
  | scalar flat => simp [height] at flat
  | record sorted inside => exact ⟨sorted, inside⟩

theorem RecordFree.of_array (free : (Value.array items).RecordFree) : ∀ item ∈ items, item.RecordFree := by
  cases free with
  | scalar flat => simp [height] at flat
  | array inside => exact inside

theorem RecordFree.of_object (free : (Value.object entries).RecordFree) : ∀ entry ∈ entries, entry.2.RecordFree := by
  cases free with
  | scalar flat => simp [height] at flat
  | object inside => exact inside

end Parts

mutual

/-- The value without the entries of objects whose key paths are not kept. Below an entry that goes, all goes. -/
def prune (keeps : List String → Bool) : Value → Value
  | .array items => .array (pruneItems keeps items)
  | .object entries => .object (pruneEntries keeps entries)
  | other => other

def pruneItems (keeps : List String → Bool) : List Value → List Value
  | [] => []
  | item :: rest => item.prune keeps :: pruneItems keeps rest

def pruneEntries (keeps : List String → Bool) : List (String × Value) → List (String × Value)
  | [] => []
  | (key, value) :: rest =>
    if keeps [key] then (key, value.prune fun path => keeps (key :: path)) :: pruneEntries keeps rest
    else pruneEntries keeps rest

end

variable {keeps keeps' : List String → Bool}

theorem pruneItems_eq_map (items : List Value) : pruneItems keeps items = items.map (prune keeps) := by
  induction items with
  | nil => rfl
  | cons item rest ih => rw [pruneItems, ih, List.map_cons]

/-- What becomes of one entry. -/
def pruneEntry (keeps : List String → Bool) (entry : String × Value) : Option (String × Value) :=
  if keeps [entry.1] then some (entry.1, entry.2.prune fun path => keeps (entry.1 :: path)) else none

theorem pruneEntries_eq_filterMap (entries : List (String × Value)) :
    pruneEntries keeps entries = entries.filterMap (pruneEntry keeps) := by
  induction entries with
  | nil => rfl
  | cons entry rest ih =>
    obtain ⟨key, value⟩ := entry
    rw [pruneEntries, List.filterMap_cons, pruneEntry, ih]
    split <;> rfl

mutual

theorem prune_true : ∀ value : Value, value.prune (fun _ => true) = value
  | .array items => by rw [prune, pruneItems_true items]
  | .object entries => by rw [prune, pruneEntries_true entries]
  | .null | .boolean _ | .integer _ | .float _ | .string _ | .record _ _ => rfl

theorem pruneItems_true : ∀ items : List Value, pruneItems (fun _ => true) items = items
  | [] => rfl
  | item :: rest => by rw [pruneItems, prune_true item, pruneItems_true rest]

theorem pruneEntries_true : ∀ entries : List (String × Value), pruneEntries (fun _ => true) entries = entries
  | [] => rfl
  | (key, value) :: rest => by rw [pruneEntries, if_pos rfl, prune_true value, pruneEntries_true rest]

end

mutual

/-- Pruning twice keeps what both keep. -/
theorem prune_prune (keeps keeps' : List String → Bool) :
    ∀ value : Value, (value.prune keeps).prune keeps' = value.prune fun path => keeps path && keeps' path
  | .array items => by rw [prune, prune, prune, pruneItems_pruneItems keeps keeps' items]
  | .object entries => by rw [prune, prune, prune, pruneEntries_pruneEntries keeps keeps' entries]
  | .null | .boolean _ | .integer _ | .float _ | .string _ | .record _ _ => rfl

theorem pruneItems_pruneItems (keeps keeps' : List String → Bool) : ∀ items : List Value,
    pruneItems keeps' (pruneItems keeps items) = pruneItems (fun path => keeps path && keeps' path) items
  | [] => rfl
  | item :: rest => by
    rw [pruneItems, pruneItems, pruneItems, prune_prune keeps keeps' item, pruneItems_pruneItems keeps keeps' rest]

theorem pruneEntries_pruneEntries (keeps keeps' : List String → Bool) : ∀ entries : List (String × Value),
    pruneEntries keeps' (pruneEntries keeps entries) = pruneEntries (fun path => keeps path && keeps' path) entries
  | [] => rfl
  | (key, value) :: rest => by
    rw [pruneEntries, pruneEntries]
    cases first : keeps [key] with
    | false => simpa using pruneEntries_pruneEntries keeps keeps' rest
    | true =>
      cases second : keeps' [key] with
      | false => simpa [pruneEntries, second] using pruneEntries_pruneEntries keeps keeps' rest
      | true =>
        simp only [pruneEntries, second, if_true, Bool.and_self, pruneEntries_pruneEntries keeps keeps' rest]
        rw [prune_prune _ _ value]

end

theorem pruneEntries_none (entries : List (String × Value)) : pruneEntries List.isEmpty entries = [] := by
  induction entries with
  | nil => rfl
  | cons entry rest ih =>
    obtain ⟨key, value⟩ := entry
    exact ih

theorem shellItems_eq_map (items : List Value) : shellItems items = items.map shell := by
  induction items with
  | nil => rfl
  | cons item rest ih => rw [shellItems, ih, List.map_cons]

/-- Only the empty path is kept of a shell. -/
theorem RecordFree.shell_eq_prune {value : Value} (free : value.RecordFree) : value.shell = value.prune List.isEmpty := by
  induction free with
  | @scalar value flat => cases value <;> first | rfl | simp [height] at flat
  | array _ ih =>
    rw [shell, prune, shellItems_eq_map, pruneItems_eq_map]
    exact congrArg Value.array (List.map_congr_left ih)
  | object => rw [shell, prune, pruneEntries_none]

theorem prune_of_flat {value : Value} (flat : value.height = 0) : value.prune keeps = value := by
  cases value <;> first | rfl | simp [height] at flat

theorem mem_pruneEntries {entries : List (String × Value)} {entry : String × Value}
    (member : entry ∈ pruneEntries keeps entries) :
    ∃ value, (entry.1, value) ∈ entries ∧ entry.2 = value.prune fun path => keeps (entry.1 :: path) := by
  rw [pruneEntries_eq_filterMap, List.mem_filterMap] at member
  obtain ⟨⟨key, value⟩, member, same⟩ := member
  rw [pruneEntry] at same
  split at same
  · cases same
    exact ⟨value, member, rfl⟩
  · cases same

theorem find?_pruneEntries (key : String) (entries : List (String × Value)) :
    Entries.find? key (pruneEntries keeps entries) =
      if keeps [key] then (Entries.find? key entries).map (prune fun path => keeps (key :: path)) else none := by
  induction entries with
  | nil => simp [pruneEntries, Entries.find?]
  | cons entry rest ih =>
    obtain ⟨other, value⟩ := entry
    rw [pruneEntries, Entries.find?]
    by_cases same : key = other
    · subst same
      cases kept : keeps [key] with
      | false => simpa [kept] using ih
      | true => simp [Entries.find?]
    · rw [if_neg same, ← ih]
      split
      · rw [Entries.find?, if_neg same]
      · rfl

theorem RecordFree.prune {value : Value} (free : value.RecordFree) : (value.prune keeps).RecordFree := by
  induction free generalizing keeps with
  | scalar flat =>
    rw [prune_of_flat flat]
    exact .scalar flat
  | array _ ih =>
    rw [Value.prune, pruneItems_eq_map]
    refine .array fun item member => ?_
    obtain ⟨before, present, rfl⟩ := List.mem_map.mp member
    exact ih before present
  | object _ ih =>
    refine .object fun entry member => ?_
    obtain ⟨value, member, same⟩ := mem_pruneEntries member
    rw [same]
    exact ih _ member

theorem keys_pruneEntries_sublist (entries : List (String × Value)) :
    (Entries.keys (pruneEntries keeps entries)).Sublist (Entries.keys entries) := by
  induction entries with
  | nil => exact .slnil
  | cons entry rest ih =>
    obtain ⟨key, value⟩ := entry
    rw [pruneEntries]
    split
    · exact ih.cons_cons key
    · exact ih.cons key

theorem Ordered.prune {value : Value} (ordered : value.Ordered) : (value.prune keeps).Ordered := by
  induction ordered generalizing keeps with
  | scalar flat =>
    rw [prune_of_flat flat]
    exact .scalar flat
  | array _ ih =>
    rw [Value.prune, pruneItems_eq_map]
    refine .array fun item member => ?_
    obtain ⟨before, present, rfl⟩ := List.mem_map.mp member
    exact ih before present
  | object sorted _ ih =>
    refine .object (List.Pairwise.sublist (keys_pruneEntries_sublist _) sorted) fun entry member => ?_
    obtain ⟨value, member, same⟩ := mem_pruneEntries member
    rw [same]
    exact ih _ member
  | record sorted inside => exact .record sorted inside

end Value
end FieldSelect
