import FieldSelect.Entries
import Mathlib.Data.List.Forall2
import Mathlib.Data.List.Induction
import Mathlib.Data.Option.Defs

/-! Entries as maps: what is found under a key, what writing in turn makes, and that entries in the order of their keys
are what they answer. -/
namespace FieldSelect
namespace Entries
variable {α : Type} {R : String → α → α → Prop} {entries others : Entries α} {key : String}

instance (entries : Entries α) : Decidable (Sorted entries) :=
  inferInstanceAs (Decidable ((keys entries).Pairwise (· < ·)))

theorem insert_of_forall_lt {value : α} (behind : ∀ entry ∈ entries, entry.1 < key) :
    insert key value entries = entries ++ [(key, value)] := by
  induction entries with
  | nil => rfl
  | cons head rest ih =>
    obtain ⟨other, kept⟩ := head
    have before : other < key := behind (other, kept) List.mem_cons_self
    rw [insert, if_neg (String.lt_asymm before), if_neg (fun same => String.lt_irrefl _ (same ▸ before)),
      ih fun entry member => behind entry (List.mem_cons_of_mem _ member), List.cons_append]

theorem ofPairs_concat (pairs : List (String × α)) (last : String × α) :
    ofPairs (pairs ++ [last]) = insert last.1 last.2 (ofPairs pairs) := by
  rw [ofPairs, List.foldl_append]
  rfl

/-- Entries in the order of their keys are what writing them in turn makes. -/
theorem ofPairs_of_sorted (sorted : Sorted entries) : ofPairs entries = entries := by
  induction entries using List.reverseRecOn with
  | nil => rfl
  | append_singleton entries last ih =>
    rw [Sorted, keys, List.map_append, List.pairwise_append] at sorted
    have front : ofPairs entries = entries := ih sorted.1
    rw [ofPairs_concat, front]
    refine insert_of_forall_lt fun entry member => ?_
    exact sorted.2.2 entry.1 (List.mem_map_of_mem member) last.1 (by simp)

theorem mem_of_mem_insert {value : α} {entry : String × α} (member : entry ∈ insert key value entries) :
    entry = (key, value) ∨ entry ∈ entries := by
  induction entries with
  | nil => exact .inl (List.mem_singleton.mp member)
  | cons head rest ih =>
    obtain ⟨other, kept⟩ := head
    rw [insert] at member
    split at member
    · exact List.mem_cons.mp member
    · split at member
      · exact (List.mem_cons.mp member).imp_right (List.mem_cons_of_mem _)
      · rcases List.mem_cons.mp member with rfl | later
        · exact .inr List.mem_cons_self
        · exact (ih later).imp_right (List.mem_cons_of_mem _)

theorem sorted_insert {value : α} (sorted : Sorted entries) : Sorted (insert key value entries) := by
  induction entries with
  | nil => exact List.pairwise_singleton _ _
  | cons head rest ih =>
    obtain ⟨other, kept⟩ := head
    obtain ⟨front, inOrder⟩ := List.pairwise_cons.mp sorted
    rw [insert]
    split
    · rename_i less
      refine List.pairwise_cons.mpr ⟨List.forall_mem_cons.mpr ⟨less, ?_⟩, sorted⟩
      exact fun later member => String.lt_trans less (front later member)
    · rename_i notLess
      split
      · rename_i same
        subst same
        exact List.pairwise_cons.mpr ⟨front, inOrder⟩
      · rename_i different
        have greater : other < key := Std.lt_of_le_of_ne notLess (Ne.symm different)
        refine List.pairwise_cons.mpr ⟨fun later member => ?_, ih inOrder⟩
        rcases mem_keys_insert.mp member with rfl | present
        · exact greater
        · exact front later present

/-- Pairs written in turn are in the order of their keys. -/
theorem sorted_ofPairs (pairs : List (String × α)) : Sorted (ofPairs pairs) := by
  induction pairs using List.reverseRecOn with
  | nil => exact List.Pairwise.nil
  | append_singleton pairs last ih =>
    rw [ofPairs_concat]
    exact sorted_insert ih

theorem mem_keys_ofPairs {pairs : List (String × α)} : key ∈ keys (ofPairs pairs) ↔ key ∈ keys pairs := by
  induction pairs using List.reverseRecOn with
  | nil => rfl
  | append_singleton pairs last ih =>
    rw [ofPairs_concat, mem_keys_insert, keys, keys, List.map_append, List.mem_append, List.map_singleton,
      List.mem_singleton]
    exact (or_congr_right ih).trans or_comm

/-- What is written later counts, and what was written before only where nothing is. -/
theorem find?_ofPairs_append (key : String) (front back : List (String × α)) :
    find? key (ofPairs (front ++ back)) = (find? key (ofPairs back)).or (find? key (ofPairs front)) := by
  induction back using List.reverseRecOn with
  | nil =>
    rw [List.append_nil]
    rfl
  | append_singleton back last ih =>
    rw [← List.append_assoc, ofPairs_concat, ofPairs_concat]
    by_cases same : key = last.1
    · rw [same, find?_insert_self, find?_insert_self, Option.some_or]
    · rw [find?_insert_of_ne same, find?_insert_of_ne same, ih]

theorem mem_of_mem_ofPairs {pairs : List (String × α)} {entry : String × α} (member : entry ∈ ofPairs pairs) :
    entry ∈ pairs := by
  induction pairs using List.reverseRecOn with
  | nil => cases member
  | append_singleton pairs last ih =>
    rw [ofPairs_concat] at member
    rcases mem_of_mem_insert member with rfl | earlier
    · exact List.mem_append_right _ (List.mem_singleton_self _)
    · exact List.mem_append_left _ (ih earlier)

/-! ### Looking up -/

theorem mem_of_find? {value : α} (found : find? key entries = some value) : (key, value) ∈ entries := by
  induction entries with
  | nil => cases found
  | cons head rest ih =>
    obtain ⟨other, kept⟩ := head
    rw [find?] at found
    split at found
    · rename_i same
      cases found
      exact same ▸ List.mem_cons_self
    · exact List.mem_cons_of_mem _ (ih found)

theorem exists_find?_of_mem_keys (member : key ∈ keys entries) : ∃ value, find? key entries = some value := by
  induction entries with
  | nil => cases member
  | cons head rest ih =>
    obtain ⟨other, kept⟩ := head
    rw [find?]
    split
    · exact ⟨kept, rfl⟩
    · rename_i different
      exact ih ((List.mem_cons.mp member).resolve_left different)

theorem mem_keys_iff : key ∈ keys entries ↔ find? key entries ≠ none := by
  rw [Option.ne_none_iff_exists']
  refine ⟨exists_find?_of_mem_keys, ?_⟩
  rintro ⟨value, found⟩
  exact List.mem_map_of_mem (mem_of_find? found)

/-- Of the values written under a key one is found. -/
theorem exists_find?_ofPairs {pairs : List (String × α)} {value : α} (member : (key, value) ∈ pairs) :
    ∃ last, find? key (ofPairs pairs) = some last ∧ (key, last) ∈ pairs := by
  obtain ⟨last, found⟩ := exists_find?_of_mem_keys (mem_keys_ofPairs.mpr (List.mem_map_of_mem member))
  exact ⟨last, found, mem_of_mem_ofPairs (mem_of_find? found)⟩

theorem find?_filter (keeps : String → Bool) (key : String) (entries : Entries α) :
    find? key (entries.filter fun entry => keeps entry.1) = if keeps key then find? key entries else none := by
  induction entries with
  | nil => simp [find?]
  | cons entry rest ih =>
    obtain ⟨other, value⟩ := entry
    rw [List.filter_cons]
    by_cases same : key = other
    · subst same
      cases kept : keeps key with
      | true => simp [find?]
      | false => simpa [kept] using ih
    · cases kept : keeps other with
      | true => simpa [find?, same, kept] using ih
      | false => simpa [find?, same, kept] using ih

theorem find?_of_before (before : ∀ entry ∈ entries, key < entry.1) : find? key entries = none := by
  induction entries with
  | nil => rfl
  | cons entry rest ih =>
    obtain ⟨own, others⟩ := List.forall_mem_cons.mp before
    have different : key ≠ entry.1 := fun same => String.lt_irrefl _ (same ▸ own)
    rw [find?, if_neg different, ih others]

/-- Entries in the order of their keys are paired off when they answer every key alike. -/
theorem forall₂_of_find? (sorted : Sorted entries) (sorted' : Sorted others)
    (alike : ∀ key, Option.Rel (R key) (find? key entries) (find? key others)) :
    List.Forall₂ (fun entry other => entry.1 = other.1 ∧ R entry.1 entry.2 other.2) entries others := by
  induction entries generalizing others with
  | nil =>
    cases others with
    | nil => exact .nil
    | cons other rest =>
      have first := alike other.1
      simp only [find?, if_true] at first
      cases first
  | cons entry rest ih =>
    obtain ⟨key, value⟩ := entry
    obtain ⟨front, inOrder⟩ := List.pairwise_cons.mp sorted
    have behind : ∀ entry ∈ rest, key < entry.1 := fun entry member => front entry.1 (List.mem_map_of_mem member)
    cases others with
    | nil =>
      have first := alike key
      simp only [find?, if_true] at first
      cases first
    | cons other more =>
      obtain ⟨key', value'⟩ := other
      obtain ⟨front', inOrder'⟩ := List.pairwise_cons.mp sorted'
      have behind' : ∀ entry ∈ more, key' < entry.1 := fun entry member => front' entry.1 (List.mem_map_of_mem member)
      -- The lower one of two different keys in front would be missing on the other side.
      by_cases less : key < key'
      · have missing : find? key ((key', value') :: more) = none := by
          refine find?_of_before (List.forall_mem_cons.mpr ⟨less, fun entry member => ?_⟩)
          exact String.lt_trans less (behind' entry member)
        have first := alike key
        rw [missing, find?, if_pos rfl] at first
        cases first
      by_cases greater : key' < key
      · have missing : find? key' ((key, value) :: rest) = none := by
          refine find?_of_before (List.forall_mem_cons.mpr ⟨greater, fun entry member => ?_⟩)
          exact String.lt_trans greater (behind entry member)
        have first := alike key'
        rw [missing, find?, if_pos rfl] at first
        cases first
      obtain rfl : key = key' := String.le_antisymm (String.not_lt.mp greater) (String.not_lt.mp less)
      have first := alike key
      simp only [find?, if_true, Option.rel_some_some] at first
      refine .cons ⟨rfl, first⟩ (ih inOrder inOrder' fun wanted => ?_)
      by_cases own : wanted = key
      · subst own
        rw [find?_of_before behind, find?_of_before behind']
        exact .none
      · simpa only [find?, if_neg own] using alike wanted

/-- Entries in the order of their keys are what they answer. -/
theorem eq_of_find? (sorted : Sorted entries) (sorted' : Sorted others)
    (same : ∀ key, find? key entries = find? key others) : entries = others := by
  have alike (key : String) : Option.Rel Eq (find? key entries) (find? key others) := by
    rw [same]
    cases find? key others with
    | none => exact .none
    | some value => exact .some rfl
  have paired := (forall₂_of_find? sorted sorted' alike).imp fun _ _ pair => Prod.ext pair.1 pair.2
  rwa [List.forall₂_eq_eq_eq] at paired

end Entries
end FieldSelect
