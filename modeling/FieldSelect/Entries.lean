/-! Entries under text keys, kept in the order of their keys, with the last value written under each key. -/
namespace FieldSelect

abbrev Entries (α : Type) := List (String × α)

namespace Entries
variable {α β : Type}

/-- Later keys move back to make room; a key already present takes the new value. -/
def insert (key : String) (value : α) : Entries α → Entries α
  | [] => [(key, value)]
  | (other, kept) :: rest =>
    if key < other then (key, value) :: (other, kept) :: rest
    else if key = other then (key, value) :: rest
    else (other, kept) :: insert key value rest

def find? (key : String) : Entries α → Option α
  | [] => none
  | (other, value) :: rest => if key = other then some value else find? key rest

def erase (key : String) : Entries α → Entries α
  | [] => []
  | (other, value) :: rest => if key = other then erase key rest else (other, value) :: erase key rest

def contains (key : String) (entries : Entries α) : Bool := (find? key entries).isSome

def keys (entries : Entries α) : List String := entries.map (·.1)

def values (entries : Entries α) : List α := entries.map (·.2)

/-- Pairs are written in turn, so the last of equal keys stays. -/
def ofPairs (pairs : List (String × α)) : Entries α :=
  pairs.foldl (fun entries pair => insert pair.1 pair.2 entries) []

def mapValues (f : α → β) (entries : Entries α) : Entries β :=
  entries.map fun (key, value) => (key, f value)

/-- Keys strictly increase. -/
def Sorted (entries : Entries α) : Prop := (keys entries).Pairwise (· < ·)

theorem find?_insert_self (key : String) (value : α) (entries : Entries α) :
    find? key (insert key value entries) = some value := by
  induction entries with
  | nil => simp [insert, find?]
  | cons head rest ih =>
    obtain ⟨other, kept⟩ := head
    rw [insert]
    split
    · simp [find?]
    · split
      · simp [find?]
      · rename_i different
        simp [find?, different, ih]

theorem find?_insert_of_ne {key wanted : String} (different : wanted ≠ key) (value : α)
    (entries : Entries α) : find? wanted (insert key value entries) = find? wanted entries := by
  induction entries with
  | nil => simp [insert, find?, different]
  | cons head rest ih =>
    obtain ⟨other, kept⟩ := head
    rw [insert]
    split
    · simp [find?, different]
    · split
      · rename_i same
        subst same
        simp [find?, different]
      · simp [find?, ih]

theorem mem_keys_insert {key wanted : String} {value : α} {entries : Entries α} :
    wanted ∈ keys (insert key value entries) ↔ wanted = key ∨ wanted ∈ keys entries := by
  induction entries with
  | nil => simp [insert, keys]
  | cons head rest ih =>
    obtain ⟨other, kept⟩ := head
    rw [insert]
    simp only [keys] at ih ⊢
    split
    · simp
    · split
      · rename_i same
        subst same
        simp
      · simp only [List.map_cons, List.mem_cons, ih]
        constructor
        · rintro (h | h | h) <;> simp [h]
        · rintro (h | h | h) <;> simp [h]

end Entries
end FieldSelect
