import FieldSelect.Cache.Script

/-! What each use of a memo does to its slots, said once for every invariant of a run. -/
namespace FieldSelect

namespace Slot
variable {κ ν : Type}

def isSettled (slot : Slot κ ν) : Bool :=
  match slot.state with
  | .settled _ => true
  | _ => false

def isEmpty (slot : Slot κ ν) : Bool :=
  match slot.state with
  | .empty => true
  | _ => false

def isInFlight (slot : Slot κ ν) : Bool :=
  match slot.state with
  | .inFlight => true
  | _ => false

theorem isSettled_eq_not (slot : Slot κ ν) :
    slot.isSettled = (!slot.isEmpty && !slot.isInFlight) := by
  cases state : slot.state <;> simp [isSettled, isEmpty, isInFlight, state]

end Slot

namespace Memo
variable {κ ν ε : Type} {memo : Memo κ ν}

/-! ### Looking up -/

/-- Asking for an entry changes neither the key nor the number of its slot. -/
theorem refresh_slot (memo : Memo κ ν) (slot : Slot κ ν) :
    (memo.refresh slot).2.key = slot.key ∧ (memo.refresh slot).2.number = slot.number := by
  unfold refresh
  split
  · split <;> exact ⟨rfl, rfl⟩
  · exact ⟨rfl, rfl⟩

theorem refresh_isSettled (memo : Memo κ ν) (slot : Slot κ ν)
    (settled : (memo.refresh slot).2.isSettled = true) : slot.isSettled = true := by
  unfold refresh at settled
  split at settled
  · rename_i state
    simp [Slot.isSettled, state]
  · exact settled

theorem refresh_isInFlight (memo : Memo κ ν) (slot : Slot κ ν)
    (waiting : (memo.refresh slot).2.isInFlight = true) : slot.isInFlight = true := by
  unfold refresh at waiting
  split at waiting
  · split at waiting <;> simp [Slot.isInFlight] at waiting
  · exact waiting

/-- An answer is the value of a settled entry that has not expired. -/
theorem refresh_some {slot : Slot κ ν} {value : ν} (live : (memo.refresh slot).1 = some value) :
    ∃ entry, slot.state = .settled entry ∧ entry.value = value ∧
      (memo.refresh slot).2 = { slot with state := .settled { entry with accessed := memo.clock } } := by
  unfold refresh at live ⊢
  split at live
  · rename_i entry state
    split at live
    · cases live
    · rename_i fresh
      exact ⟨entry, state, by simpa using live, by simp [fresh]⟩
  · cases live

variable [DecidableEq κ]

theorem find?_mem {key : κ} {slot : Slot κ ν} (found : memo.find? key = some slot) :
    slot ∈ memo.slots ∧ slot.key = key := by
  refine ⟨List.mem_of_find?_eq_some found, ?_⟩
  simpa using List.find?_some found

theorem find?_eq_none {key : κ} :
    memo.find? key = none ↔ ∀ slot ∈ memo.slots, slot.key ≠ key := by
  simp [find?]

theorem mem_without {key : κ} {slot : Slot κ ν} :
    slot ∈ memo.without key ↔ slot ∈ memo.slots ∧ slot.key ≠ key := by
  simp [without]

/-- Keys stay apart when a slot comes to the front in the place of any other one of its key. -/
theorem nodup_keys_toFront (keys : (memo.slots.map Slot.key).Nodup) (slot : Slot κ ν) :
    ((slot :: memo.without slot.key).map Slot.key).Nodup := by
  rw [List.map_cons, List.nodup_cons]
  refine ⟨?_, keys.sublist (List.filter_sublist.map _)⟩
  intro inside
  obtain ⟨other, member, same⟩ := List.mem_map.mp inside
  exact (mem_without.mp member).2 same

/-! ### One use -/

theorem get_slots (memo : Memo κ ν) (key : κ) :
    (memo.get key).2.slots =
      match memo.find? key with
      | none => memo.slots
      | some slot => (memo.refresh slot).2 :: memo.without key := by
  unfold get
  cases found : memo.find? key with
  | none => rfl
  | some slot =>
    have same : (memo.refresh slot).2.key = key :=
      (memo.refresh_slot slot).1.trans (find?_mem found).2
    rcases answer : memo.refresh slot with ⟨_ | value, used⟩ <;>
      simp_all [putFirst, countHit, countMiss]

/-- Everything a start can do. Memos of size zero keep no slots; otherwise a live entry is a hit, and a
miss leaves a slot in flight in front, the key's own one or a new one. -/
theorem start_cases (memo : Memo κ ν) (key : κ) :
    (memo.spec.maximumSize = some 0 ∧ (memo.start key).1 = .miss ⟨key, none, memo.clock⟩ ∧
      (memo.start key).2.slots = memo.slots ∧ (memo.start key).2.nextNumber = memo.nextNumber) ∨
    (∃ slot value, memo.find? key = some slot ∧ (memo.refresh slot).1 = some value ∧
      (memo.start key).1 = .hit value ∧
      (memo.start key).2.slots = (memo.refresh slot).2 :: memo.without key ∧
      (memo.start key).2.nextNumber = memo.nextNumber) ∨
    (∃ number, (memo.start key).1 = .miss ⟨key, some number, memo.clock⟩ ∧
      (memo.start key).2.slots = ⟨key, number, .inFlight⟩ :: memo.without key ∧
      ((∃ slot, memo.find? key = some slot ∧ slot.number = number ∧
          (memo.start key).2.nextNumber = memo.nextNumber) ∨
        (memo.find? key = none ∧ number = memo.nextNumber + 1 ∧
          (memo.start key).2.nextNumber = memo.nextNumber + 1))) := by
  by_cases zero : memo.spec.maximumSize = some 0
  · left
    simp [start, zero, countMiss]
  · right
    cases found : memo.find? key with
    | none =>
      right
      refine ⟨memo.nextNumber + 1, ?_⟩
      simp [start, zero, found, putFirst, countMiss, without]
    | some slot =>
      obtain ⟨sameKey, sameNumber⟩ := memo.refresh_slot slot
      have key_eq : (memo.refresh slot).2.key = key := sameKey.trans (find?_mem found).2
      rcases answer : memo.refresh slot with ⟨_ | value, used⟩ <;> rw [answer] at key_eq sameNumber <;>
        obtain rfl : used.key = key := key_eq
      · right
        refine ⟨used.number, ?_⟩
        have number_eq : slot.number = used.number := sameNumber.symm
        simp [start, zero, found, answer, putFirst, countMiss, without, number_eq]
      · left
        refine ⟨slot, value, ?_⟩
        simp [start, zero, found, answer, putFirst, countHit, without]

theorem start_spec (memo : Memo κ ν) (key : κ) : (memo.start key).2.spec = memo.spec := by
  unfold start
  split
  · rfl
  · split
    · rfl
    · split <;> rfl

theorem get_spec (memo : Memo κ ν) (key : κ) : (memo.get key).2.spec = memo.spec := by
  unfold get
  split
  · rfl
  · split <;> rfl

/-- The memo with a slot in flight in front, under a key that had none. -/
def opened (memo : Memo κ ν) (key : κ) : Memo κ ν :=
  { memo with
    slots := ⟨key, memo.nextNumber + 1, .inFlight⟩ :: memo.slots
    nextNumber := memo.nextNumber + 1
    misses := memo.misses + 1 }

theorem without_of_missing {key : κ} (missing : memo.find? key = none) : memo.without key = memo.slots :=
  List.filter_eq_self.mpr fun slot member => by simpa using find?_eq_none.mp missing slot member

theorem start_of_missing {key : κ} (room : memo.spec.maximumSize ≠ some 0) (missing : memo.find? key = none) :
    memo.start key = (.miss ⟨key, some (memo.nextNumber + 1), memo.clock⟩, memo.opened key) := by
  have others : memo.slots.filter (·.key ≠ key) = memo.slots := without_of_missing missing
  simp only [start, room, ↓reduceIte, missing, putFirst, countMiss, without, others, opened]

/-! ### Evicting -/

theorem dropVictim_eq_some {keep : κ} {slots shorter : List (Slot κ ν)}
    (dropped : dropVictim keep slots = some shorter) :
    shorter.Sublist slots ∧ shorter.length + 1 = slots.length := by
  induction slots generalizing shorter with
  | nil => simp [dropVictim] at dropped
  | cons slot rest ih =>
    rw [dropVictim] at dropped
    cases deeper : dropVictim keep rest with
    | some fewer =>
      obtain ⟨kept, count⟩ := ih deeper
      simp only [deeper, Option.some.injEq] at dropped
      subst dropped
      exact ⟨kept.cons_cons slot, by simp [count]⟩
    | none =>
      simp only [deeper, Option.ite_none_right_eq_some, Option.some.injEq] at dropped
      obtain ⟨-, rfl⟩ := dropped
      exact ⟨List.sublist_cons_self slot rest, rfl⟩

theorem dropVictim_eq_none {keep : κ} {slots : List (Slot κ ν)}
    (kept : dropVictim keep slots = none) : ∀ slot ∈ slots, isVictim keep slot = false := by
  induction slots with
  | nil => simp
  | cons slot rest ih =>
    rw [dropVictim] at kept
    cases deeper : dropVictim keep rest with
    | some fewer => simp [deeper] at kept
    | none =>
      intro other member
      rcases List.mem_cons.mp member with rfl | inside
      · simpa [deeper] using kept
      · exact ih deeper other inside

theorem dropVictim_none_of {keep : κ} {slots : List (Slot κ ν)}
    (safe : ∀ slot ∈ slots, isVictim keep slot = false) : dropVictim keep slots = none := by
  induction slots with
  | nil => rfl
  | cons slot rest ih =>
    rw [dropVictim, ih fun other member => safe other (List.mem_cons_of_mem slot member)]
    simp [safe slot List.mem_cons_self]

/-- A slot that may not go stays. -/
theorem mem_dropVictim {keep : κ} {slots shorter : List (Slot κ ν)} {slot : Slot κ ν}
    (dropped : dropVictim keep slots = some shorter) (member : slot ∈ slots) (safe : isVictim keep slot = false) :
    slot ∈ shorter := by
  induction slots generalizing shorter with
  | nil => cases member
  | cons first rest ih =>
    rw [dropVictim] at dropped
    cases deeper : dropVictim keep rest with
    | some fewer =>
      simp only [deeper, Option.some.injEq] at dropped
      subst dropped
      rcases List.mem_cons.mp member with rfl | inside
      · exact List.mem_cons_self
      · exact List.mem_cons_of_mem _ (ih deeper inside)
    | none =>
      simp only [deeper, Option.ite_none_right_eq_some, Option.some.injEq] at dropped
      obtain ⟨victim, rfl⟩ := dropped
      rcases List.mem_cons.mp member with rfl | inside
      · simp [safe] at victim
      · exact inside

/-- The last slot goes if it may. -/
theorem dropVictim_concat {keep : κ} {last : Slot κ ν} (victim : isVictim keep last = true)
    (slots : List (Slot κ ν)) : dropVictim keep (slots ++ [last]) = some slots := by
  induction slots with
  | nil => simp [dropVictim, victim]
  | cons slot rest ih => rw [List.cons_append, dropVictim, ih]

/-- Enough rounds end within the bound or with nothing left that may go. -/
theorem evict_slots (keep : κ) (bound rounds : Nat) (memo : Memo κ ν) (enough : memo.size ≤ rounds) :
    (evict keep bound rounds memo).slots.Sublist memo.slots ∧
      ((evict keep bound rounds memo).size ≤ bound ∨
        ∀ slot ∈ (evict keep bound rounds memo).slots, isVictim keep slot = false) := by
  induction rounds generalizing memo with
  | zero => exact ⟨List.Sublist.refl _, .inl (by simp only [evict]; omega)⟩
  | succ rounds ih =>
    rw [evict]
    split
    · rename_i within
      exact ⟨List.Sublist.refl _, .inl within⟩
    · split
      · rename_i slots dropped
        obtain ⟨fewer, count⟩ := dropVictim_eq_some dropped
        obtain ⟨kept, done⟩ := ih { memo with slots, evictions := memo.evictions + 1 }
          (by simp only [size] at enough ⊢; omega)
        exact ⟨kept.trans fewer, done⟩
      · rename_i none
        exact ⟨List.Sublist.refl _, .inr (dropVictim_eq_none none)⟩

theorem mem_evict {keep : κ} {slot : Slot κ ν} (bound rounds : Nat) (member : slot ∈ memo.slots)
    (safe : isVictim keep slot = false) : slot ∈ (evict keep bound rounds memo).slots := by
  induction rounds generalizing memo with
  | zero => exact member
  | succ rounds ih =>
    rw [evict]
    split
    · exact member
    · split
      · rename_i dropped
        exact ih (mem_dropVictim dropped member safe)
      · exact member

theorem evict_fields (keep : κ) (bound rounds : Nat) (memo : Memo κ ν) :
    (evict keep bound rounds memo).spec = memo.spec ∧
      (evict keep bound rounds memo).nextNumber = memo.nextNumber := by
  induction rounds generalizing memo with
  | zero => exact ⟨rfl, rfl⟩
  | succ rounds ih =>
    rw [evict]
    split
    · exact ⟨rfl, rfl⟩
    · split
      · exact ih _
      · exact ⟨rfl, rfl⟩

/-- The slots once a computed value has been put into its own one, before any of them goes. -/
def fill (slots : List (Slot κ ν)) (number : Nat) (entry : Entry ν) : List (Slot κ ν) :=
  slots.map fun slot => if slot.number = number then { slot with state := .settled entry } else slot

omit [DecidableEq κ] in
theorem fill_keys (slots : List (Slot κ ν)) (number : Nat) (entry : Entry ν) :
    (fill slots number entry).map Slot.key = slots.map Slot.key := by
  induction slots with
  | nil => rfl
  | cons slot rest ih =>
    simp only [fill, List.map_cons] at ih ⊢
    rw [ih]
    split <;> rfl

omit [DecidableEq κ] in
theorem fill_numbers (slots : List (Slot κ ν)) (number : Nat) (entry : Entry ν) :
    (fill slots number entry).map Slot.number = slots.map Slot.number := by
  rw [fill, List.map_map]
  refine List.map_congr_left fun slot _ => ?_
  simp only [Function.comp]
  split <;> rfl

omit [DecidableEq κ] in
theorem mem_fill {slots : List (Slot κ ν)} {number : Nat} {entry : Entry ν} {slot : Slot κ ν}
    (member : slot ∈ fill slots number entry) :
    (slot.number = number ∧ slot.state = .settled entry ∧
        ∃ before ∈ slots, before.number = number ∧ before.key = slot.key) ∨
      (slot.number ≠ number ∧ slot ∈ slots) := by
  obtain ⟨before, inside, made⟩ := List.mem_map.mp member
  split at made
  · rename_i same
    subst made
    exact .inl ⟨same, rfl, before, inside, same, rfl⟩
  · rename_i different
    subst made
    exact .inr ⟨different, inside⟩

omit [DecidableEq κ] in
/-- A slot that is gone cannot be filled. -/
theorem fill_of_gone {number : Nat} (gone : ∀ slot ∈ memo.slots, slot.number ≠ number) (entry : Entry ν) :
    fill memo.slots number entry = memo.slots := by
  refine (List.map_congr_left fun slot member => ?_).trans memo.slots.map_id
  simp [gone slot member]

omit [DecidableEq κ] in
theorem others_of_gone {number : Nat} (gone : ∀ slot ∈ memo.slots, slot.number ≠ number) :
    memo.slots.filter (·.number ≠ number) = memo.slots :=
  List.filter_eq_self.mpr fun slot member => by simpa using gone slot member

omit [DecidableEq κ] in
theorem next_gone (numbers : ∀ slot ∈ memo.slots, slot.number ≤ memo.nextNumber) :
    ∀ slot ∈ memo.slots, slot.number ≠ memo.nextNumber + 1 :=
  fun slot member => Nat.ne_of_lt (Nat.lt_succ_of_le (numbers slot member))

omit [DecidableEq κ] in
/-- A number that no other slot has fills the slot in front. -/
theorem fill_opened (numbers : ∀ slot ∈ memo.slots, slot.number ≤ memo.nextNumber) (key : κ) (entry : Entry ν) :
    fill (memo.opened key).slots (memo.nextNumber + 1) entry =
      ⟨key, memo.nextNumber + 1, .settled entry⟩ :: memo.slots := by
  have others := fill_of_gone (next_gone numbers) entry
  rw [fill] at others ⊢
  simp only [opened, List.map_cons, ↓reduceIte, others]

/-- A memo without a bound keeps all its slots when a value settles; with a bound, only as many as it may. -/
theorem settle_slots (memo : Memo κ ν) (key : κ) (number started : Nat) (value : ν) :
    ((memo.settle ⟨key, some number, started⟩ value).slots.Sublist
        (fill memo.slots number ⟨value, started, started⟩)) ∧
      (∀ bound, memo.spec.maximumSize = some bound →
        (memo.settle ⟨key, some number, started⟩ value).size ≤ bound ∨
          ∀ slot ∈ (memo.settle ⟨key, some number, started⟩ value).slots, isVictim key slot = false) := by
  simp only [settle, evictOver]
  cases limit : memo.spec.maximumSize with
  | none => exact ⟨List.Sublist.refl _, by simp⟩
  | some bound =>
    obtain ⟨kept, done⟩ := evict_slots key bound _ { memo with slots := fill memo.slots number ⟨value, started, started⟩ }
      (Nat.le_refl _)
    refine ⟨kept, fun other same => ?_⟩
    cases same
    exact done

/-- A slot that may not go stays when a value settles. -/
theorem mem_settle {key : κ} {number started : Nat} {value : ν} {slot : Slot κ ν}
    (member : slot ∈ fill memo.slots number ⟨value, started, started⟩) (safe : isVictim key slot = false) :
    slot ∈ (memo.settle ⟨key, some number, started⟩ value).slots := by
  simp only [settle, evictOver]
  split
  · exact mem_evict _ _ member safe
  · exact member

theorem evictOver_fields (memo : Memo κ ν) (keep : κ) :
    (memo.evictOver keep).spec = memo.spec ∧ (memo.evictOver keep).nextNumber = memo.nextNumber := by
  unfold evictOver
  split
  · exact evict_fields _ _ _ _
  · exact ⟨rfl, rfl⟩

theorem settle_fields (memo : Memo κ ν) (ticket : Ticket κ) (value : ν) :
    (memo.settle ticket value).spec = memo.spec ∧
      (memo.settle ticket value).nextNumber = memo.nextNumber := by
  unfold settle
  split
  · exact ⟨rfl, rfl⟩
  · exact evictOver_fields _ _

omit [DecidableEq κ] in
theorem abandon_spec (memo : Memo κ ν) (ticket : Ticket κ) :
    (memo.abandon ticket).spec = memo.spec := by
  unfold abandon
  split <;> rfl

omit [DecidableEq κ] in
theorem abandon_slots (memo : Memo κ ν) (key : κ) (number started : Nat) :
    (memo.abandon ⟨key, some number, started⟩).slots =
      memo.slots.filter (·.number ≠ number) := rfl

end Memo
end FieldSelect
