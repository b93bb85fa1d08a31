import FieldSelect.Proofs.Cache.Bound

/-! The shape of a memo whose entries do not expire: one slot for each key, one number for each slot, and no
number used twice over time. -/
namespace FieldSelect
namespace Memo
variable {κ ν ε : Type} [DecidableEq κ] {memo after : Memo κ ν}

/-- The value for a key is being computed. -/
def isBusy (memo : Memo κ ν) (key : κ) : Bool := (memo.find? key).any Slot.isInFlight

/-- Entries last, there is room for some, and keys and numbers tell slots apart. -/
structure Tidy (memo : Memo κ ν) : Prop where
  lasting : memo.Lasting
  room : memo.spec.maximumSize ≠ some 0
  keys : (memo.slots.map Slot.key).Nodup
  numbers : (memo.slots.map Slot.number).Nodup
  next : ∀ slot ∈ memo.slots, slot.number ≤ memo.nextNumber

omit [DecidableEq κ] in
theorem Tidy.ofSpec {spec : CacheSpec} (write : spec.expireAfterWrite = none) (access : spec.expireAfterAccess = none)
    (room : spec.maximumSize ≠ some 0) : (Memo.ofSpec spec : Memo κ ν).Tidy :=
  ⟨⟨write, access, by simp [Memo.ofSpec]⟩, room, List.nodup_nil, List.nodup_nil, by simp [Memo.ofSpec]⟩

omit [DecidableEq κ] in
theorem Tidy.eq_of_key (tidy : memo.Tidy) {slot other : Slot κ ν} (member : slot ∈ memo.slots)
    (member' : other ∈ memo.slots) (same : slot.key = other.key) : slot = other :=
  List.inj_on_of_nodup_map tidy.keys member member' same

omit [DecidableEq κ] in
theorem Tidy.eq_of_number (tidy : memo.Tidy) {slot other : Slot κ ν} (member : slot ∈ memo.slots)
    (member' : other ∈ memo.slots) (same : slot.number = other.number) : slot = other :=
  List.inj_on_of_nodup_map tidy.numbers member member' same

theorem Tidy.find?_of_mem (tidy : memo.Tidy) {slot : Slot κ ν} (member : slot ∈ memo.slots) :
    memo.find? slot.key = some slot := by
  cases found : memo.find? slot.key with
  | none => exact absurd rfl (find?_eq_none.mp found slot member)
  | some other =>
    obtain ⟨member', same⟩ := find?_mem found
    rw [tidy.eq_of_key member' member same]

omit [DecidableEq κ] in
theorem Tidy.ofSublist (tidy : memo.Tidy) (spec : after.spec = memo.spec) (next : after.nextNumber = memo.nextNumber)
    (fewer : after.slots.Sublist memo.slots) : after.Tidy where
  lasting := tidy.lasting.ofSlots spec fun slot member => tidy.lasting.full slot (fewer.subset member)
  room := spec ▸ tidy.room
  keys := tidy.keys.sublist (fewer.map _)
  numbers := tidy.numbers.sublist (fewer.map _)
  next slot member := next ▸ tidy.next slot (fewer.subset member)

/-- A slot moves to the front under its key and number, or a slot with a new number does. -/
theorem Tidy.toFront (tidy : memo.Tidy) (lasting : after.Lasting) (spec : after.spec = memo.spec) {slot : Slot κ ν}
    (slots : after.slots = slot :: memo.without slot.key)
    (origin : (∃ before ∈ memo.slots, before.key = slot.key ∧ before.number = slot.number) ∧
        after.nextNumber = memo.nextNumber ∨
      slot.number = memo.nextNumber + 1 ∧ after.nextNumber = memo.nextNumber + 1) : after.Tidy where
  lasting := lasting
  room := spec ▸ tidy.room
  keys := slots ▸ nodup_keys_toFront tidy.keys slot
  numbers := by
    rw [slots, List.map_cons, List.nodup_cons]
    refine ⟨?_, tidy.numbers.sublist (List.filter_sublist.map _)⟩
    intro inside
    obtain ⟨other, member, same⟩ := List.mem_map.mp inside
    obtain ⟨present, different⟩ := mem_without.mp member
    rcases origin with ⟨⟨before, old, own, number⟩, -⟩ | ⟨new, -⟩
    · rw [tidy.eq_of_number present old (same.trans number.symm)] at different
      exact different own
    · have small := tidy.next other present
      omega
  next other member := by
    rw [slots] at member
    rcases List.mem_cons.mp member with rfl | inside
    · rcases origin with ⟨⟨before, old, -, number⟩, next⟩ | ⟨new, next⟩
      · rw [next, ← number]
        exact tidy.next before old
      · omega
    · have small := tidy.next other (mem_without.mp inside).1
      rcases origin with ⟨-, next⟩ | ⟨-, next⟩ <;> omega

theorem Tidy.get (tidy : memo.Tidy) (key : κ) : (memo.get key).2.Tidy := by
  have slots := memo.get_slots key
  cases found : memo.find? key with
  | none =>
    rw [found] at slots
    exact tidy.ofSublist (memo.get_spec key) (memo.get_nextNumber key) (slots ▸ List.Sublist.refl _)
  | some slot =>
    rw [found] at slots
    obtain ⟨member, own⟩ := find?_mem found
    obtain ⟨sameKey, sameNumber⟩ := memo.refresh_slot slot
    have front : (memo.get key).2.slots = (memo.refresh slot).2 :: memo.without (memo.refresh slot).2.key := by
      rw [slots, sameKey, own]
    exact tidy.toFront (tidy.lasting.get key) (memo.get_spec key) front
      (.inl ⟨⟨slot, member, sameKey.symm, sameNumber.symm⟩, memo.get_nextNumber key⟩)

theorem Tidy.start (tidy : memo.Tidy) (key : κ) : (memo.start key).2.Tidy := by
  have lasting := tidy.lasting.start key
  rcases memo.start_cases key with ⟨_, _, slots, next⟩ | ⟨slot, _, found, _, _, slots, next⟩ | ⟨_, _, slots, origin⟩
  · exact tidy.ofSublist (memo.start_spec key) next (slots ▸ List.Sublist.refl _)
  · obtain ⟨member, own⟩ := find?_mem found
    obtain ⟨sameKey, sameNumber⟩ := memo.refresh_slot slot
    have front : (memo.start key).2.slots = (memo.refresh slot).2 :: memo.without (memo.refresh slot).2.key := by
      rw [slots, sameKey, own]
    exact tidy.toFront lasting (memo.start_spec key) front
      (.inl ⟨⟨slot, member, sameKey.symm, sameNumber.symm⟩, next⟩)
  · refine tidy.toFront lasting (memo.start_spec key) slots ?_
    rcases origin with ⟨slot, found, own, next⟩ | ⟨_, new, next⟩
    · exact .inl ⟨⟨slot, (find?_mem found).1, (find?_mem found).2, own⟩, next⟩
    · exact .inr ⟨new, next⟩

theorem Tidy.opened (tidy : memo.Tidy) {key : κ} (missing : memo.find? key = none) : (memo.opened key).Tidy := by
  have started := tidy.start key
  rwa [start_of_missing tidy.room missing] at started

theorem Tidy.settle (tidy : memo.Tidy) (ticket : Ticket κ) (value : ν) : (memo.settle ticket value).Tidy := by
  have lasting := tidy.lasting.settle ticket value
  obtain ⟨spec, next⟩ := memo.settle_fields ticket value
  obtain ⟨key, number | number, started⟩ := ticket
  · exact tidy
  · obtain ⟨fewer, _⟩ := memo.settle_slots key number started value
    refine ⟨lasting, spec ▸ tidy.room, ?_, ?_, ?_⟩
    · have sub := fewer.map Slot.key
      rw [fill_keys] at sub
      exact tidy.keys.sublist sub
    · have sub := fewer.map Slot.number
      rw [fill_numbers] at sub
      exact tidy.numbers.sublist sub
    · intro slot member
      rw [next]
      rcases mem_fill (fewer.subset member) with ⟨own, _, before, present, same, _⟩ | ⟨_, present⟩
      · rw [own, ← same]
        exact tidy.next before present
      · exact tidy.next slot present

theorem Tidy.keptByUse : KeptByUse fun memo : Memo κ ν => memo.Tidy where
  get _ key tidy := tidy.get key
  start _ key tidy := tidy.start key
  settle _ ticket value tidy := tidy.settle ticket value
  abandon memo ticket tidy := by
    obtain ⟨key, number | number, started⟩ := ticket
    · exact tidy
    · exact tidy.ofSublist rfl rfl List.filter_sublist
  invalidate _ _ tidy := tidy.ofSublist rfl rfl List.filter_sublist
  invalidateAll _ tidy := tidy.ofSublist rfl rfl (List.nil_sublist _)
  advance _ _ tidy := tidy.ofSublist rfl rfl (List.Sublist.refl _)

/-! ### Uses of an entry -/

omit [DecidableEq κ] in
/-- An entry that lasts is live whenever it is asked for. -/
theorem Lasting.refresh_settled (lasting : memo.Lasting) {slot : Slot κ ν} {kept : Entry ν}
    (state : slot.state = .settled kept) :
    memo.refresh slot = (some kept.value, { slot with state := .settled { kept with accessed := memo.clock } }) := by
  have fresh : memo.isExpired kept = false := by simp [isExpired, lasting.write, lasting.access]
  simp [refresh, state, fresh]

/-- The memo in which a settled slot was used now. -/
def used (memo : Memo κ ν) (slot : Slot κ ν) (kept : Entry ν) : Memo κ ν :=
  (memo.putFirst { slot with state := .settled { kept with accessed := memo.clock } }).countHit

theorem get_of_settled (lasting : memo.Lasting) {key : κ} {slot : Slot κ ν} {kept : Entry ν}
    (found : memo.find? key = some slot) (state : slot.state = .settled kept) :
    memo.get key = (some kept.value, memo.used slot kept) := by
  simp [Memo.get, found, lasting.refresh_settled state, used]

theorem start_of_settled (tidy : memo.Tidy) {key : κ} {slot : Slot κ ν} {kept : Entry ν}
    (found : memo.find? key = some slot) (state : slot.state = .settled kept) :
    memo.start key = (.hit kept.value, memo.used slot kept) := by
  simp [Memo.start, tidy.room, found, tidy.lasting.refresh_settled state, used]

/-- Where a key has no slot in flight, it has none at all or one that holds an entry. -/
theorem Tidy.find?_of_free (tidy : memo.Tidy) {key : κ} (free : memo.isBusy key = false) :
    memo.find? key = none ∨ ∃ slot kept, memo.find? key = some slot ∧ slot.state = .settled kept := by
  cases found : memo.find? key with
  | none => exact .inl rfl
  | some slot =>
    have still : slot.isInFlight = false := by simpa [isBusy, found] using free
    have full := tidy.lasting.full slot (find?_mem found).1
    cases state : slot.state with
    | settled kept => exact .inr ⟨slot, kept, rfl, state⟩
    | inFlight => simp [Slot.isInFlight, state] at still
    | empty => simp [Slot.isEmpty, state] at full

/-! ### What becomes of a number -/

/-- Slots of old numbers were there before, under the same keys. -/
structure Descends (memo after : Memo κ ν) : Prop where
  next : memo.nextNumber ≤ after.nextNumber
  origin : ∀ slot ∈ after.slots, slot.number ≤ memo.nextNumber →
    ∃ before ∈ memo.slots, before.number = slot.number ∧ before.key = slot.key

omit [DecidableEq κ] in
theorem Descends.refl (memo : Memo κ ν) : memo.Descends memo :=
  ⟨Nat.le_refl _, fun slot member _ => ⟨slot, member, rfl, rfl⟩⟩

omit [DecidableEq κ] in
/-- The slots of a later memo may lose or gain anything but their keys and numbers. -/
theorem Descends.ofOrigin {later : Memo κ ν} (descends : memo.Descends after)
    (next : later.nextNumber = after.nextNumber)
    (origin : ∀ slot ∈ later.slots, ∃ before ∈ after.slots, before.number = slot.number ∧ before.key = slot.key) :
    memo.Descends later where
  next := next ▸ descends.next
  origin slot member old := by
    obtain ⟨middle, present, number, key⟩ := origin slot member
    obtain ⟨before, first, number', key'⟩ := descends.origin middle present (number ▸ old)
    exact ⟨before, first, number'.trans number, key'.trans key⟩

/-- A slot with a new number comes in front. -/
theorem Descends.toFront {later : Memo κ ν} (descends : memo.Descends after) {key : κ} {slot : Slot κ ν}
    (slots : later.slots = slot :: after.without key) (new : slot.number = after.nextNumber + 1)
    (next : later.nextNumber = after.nextNumber + 1) : memo.Descends later where
  next := by
    have grown := descends.next
    omega
  origin other member old := by
    rw [slots] at member
    rcases List.mem_cons.mp member with rfl | inside
    · have grown := descends.next
      omega
    · exact descends.origin other (mem_without.mp inside).1 old

theorem origin_toFront {key : κ} {slot used : Slot κ ν} (found : memo.find? key = some slot) (sameKey : used.key = key)
    (sameNumber : used.number = slot.number) :
    ∀ other ∈ used :: memo.without key,
      ∃ before ∈ memo.slots, before.number = other.number ∧ before.key = other.key := by
  obtain ⟨present, own⟩ := find?_mem found
  intro other member
  rcases List.mem_cons.mp member with rfl | inside
  · exact ⟨slot, present, sameNumber.symm, own.trans sameKey.symm⟩
  · exact ⟨other, (mem_without.mp inside).1, rfl, rfl⟩

theorem Descends.keptByUse (memo : Memo κ ν) : KeptByUse memo.Descends where
  get after key descends := by
    refine descends.ofOrigin (after.get_nextNumber key) ?_
    rw [get_slots]
    split
    · exact fun slot member => ⟨slot, member, rfl, rfl⟩
    · rename_i slot found
      obtain ⟨sameKey, sameNumber⟩ := after.refresh_slot slot
      exact origin_toFront found (sameKey.trans (find?_mem found).2) sameNumber
  start after key descends := by
    rcases after.start_cases key with ⟨_, _, slots, next⟩ | ⟨slot, _, found, _, _, slots, next⟩ |
      ⟨number, _, slots, ⟨slot, found, own, next⟩ | ⟨_, new, next⟩⟩
    · exact descends.ofOrigin next fun slot member => ⟨slot, slots ▸ member, rfl, rfl⟩
    · obtain ⟨sameKey, sameNumber⟩ := after.refresh_slot slot
      exact descends.ofOrigin next (slots ▸ origin_toFront found (sameKey.trans (find?_mem found).2) sameNumber)
    · exact descends.ofOrigin next (slots ▸ origin_toFront found rfl own.symm)
    · exact descends.toFront slots new next
  settle after ticket value descends := by
    refine descends.ofOrigin (after.settle_fields ticket value).2 fun slot member => ?_
    obtain ⟨key, number | number, started⟩ := ticket
    · exact ⟨slot, member, rfl, rfl⟩
    · rcases mem_fill ((after.settle_slots key number started value).1.subset member) with
        ⟨own, _, before, present, same, key⟩ | ⟨_, present⟩
      · exact ⟨before, present, same.trans own.symm, key⟩
      · exact ⟨slot, present, rfl, rfl⟩
  abandon after ticket descends := by
    obtain ⟨key, number | number, started⟩ := ticket
    · exact descends
    · exact descends.ofOrigin rfl fun slot member => ⟨slot, (List.mem_filter.mp member).1, rfl, rfl⟩
  invalidate _ _ descends := descends.ofOrigin rfl fun slot member => ⟨slot, (mem_without.mp member).1, rfl, rfl⟩
  invalidateAll _ descends := descends.ofOrigin rfl (by simp [Memo.invalidateAll])
  advance _ _ descends := descends.ofOrigin rfl fun slot member => ⟨slot, member, rfl, rfl⟩

end Memo
end FieldSelect
