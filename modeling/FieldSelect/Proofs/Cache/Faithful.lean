import FieldSelect.Proofs.Cache.Slots

/-! A memo that is only ever filled by one computation answers as that computation does, whatever it has
evicted, forgotten or let expire. -/
namespace FieldSelect
namespace Memo
variable {κ ν ε : Type} [DecidableEq κ] {compute : κ → Except ε ν} {memo after : Memo κ ν}

/-- Settled entries hold what is computed for their keys, and the number of a slot tells its key. -/
structure Faithful (compute : κ → Except ε ν) (memo : Memo κ ν) : Prop where
  entries : ∀ slot ∈ memo.slots, ∀ entry, slot.state = .settled entry → compute slot.key = .ok entry.value
  numbers : ∀ slot ∈ memo.slots, ∀ other ∈ memo.slots, slot.number = other.number → slot.key = other.key
  next : ∀ slot ∈ memo.slots, slot.number ≤ memo.nextNumber

omit [DecidableEq κ] in
theorem Faithful.ofSpec (spec : CacheSpec) : (Memo.ofSpec spec : Memo κ ν).Faithful compute :=
  ⟨by simp [Memo.ofSpec], by simp [Memo.ofSpec], by simp [Memo.ofSpec]⟩

omit [DecidableEq κ] in
/-- Losing slots, and time going by, does no harm. -/
theorem Faithful.ofSubset (faithful : memo.Faithful compute) (fewer : after.slots ⊆ memo.slots)
    (next : after.nextNumber = memo.nextNumber) : after.Faithful compute where
  entries slot member := faithful.entries slot (fewer member)
  numbers slot member other member' := faithful.numbers slot (fewer member) other (fewer member')
  next slot member := next ▸ faithful.next slot (fewer member)

/-- A slot moves to the front under its key and number, or a slot with a new number does. -/
theorem Faithful.toFront (faithful : memo.Faithful compute) {key : κ} {slot : Slot κ ν}
    (slots : after.slots = slot :: memo.without key) (same : slot.key = key)
    (origin : (∃ before ∈ memo.slots, before.key = key ∧ before.number = slot.number) ∧
        after.nextNumber = memo.nextNumber ∨
      slot.number = memo.nextNumber + 1 ∧ after.nextNumber = memo.nextNumber + 1)
    (entry : ∀ entry, slot.state = .settled entry → compute key = .ok entry.value) :
    after.Faithful compute where
  entries other member held state := by
    rw [slots] at member
    rcases List.mem_cons.mp member with rfl | inside
    · rw [same]
      exact entry held state
    · exact faithful.entries other (mem_without.mp inside).1 held state
  numbers := by
    have old : ∀ other ∈ memo.without key, other.number ≠ slot.number := by
      intro other inside equal
      obtain ⟨member, different⟩ := mem_without.mp inside
      rcases origin with ⟨⟨before, present, own, number⟩, -⟩ | ⟨new, -⟩
      · exact different ((faithful.numbers other member before present (equal.trans number.symm)).trans own)
      · have small := faithful.next other member
        omega
    intro first member second member' equal
    rw [slots] at member member'
    rcases List.mem_cons.mp member with rfl | inside <;> rcases List.mem_cons.mp member' with rfl | inside'
    · rfl
    · exact absurd equal.symm (old second inside')
    · exact absurd equal (old first inside)
    · exact faithful.numbers first (mem_without.mp inside).1 second (mem_without.mp inside').1 equal
  next other member := by
    rw [slots] at member
    rcases List.mem_cons.mp member with rfl | inside
    · rcases origin with ⟨⟨before, present, -, number⟩, next⟩ | ⟨new, next⟩
      · rw [next, ← number]
        exact faithful.next before present
      · omega
    · have small := faithful.next other (mem_without.mp inside).1
      rcases origin with ⟨-, next⟩ | ⟨-, next⟩ <;> omega

/-- A hit is what the computation gives, and a ticket's number belongs to its key. -/
theorem Faithful.start (faithful : memo.Faithful compute) (key : κ) :
    (memo.start key).2.Faithful compute ∧
      (∀ value, (memo.start key).1 = .hit value → compute key = .ok value) ∧
      ∀ ticket, (memo.start key).1 = .miss ticket →
        ticket.key = key ∧ ∀ slot ∈ (memo.start key).2.slots, ticket.slot = some slot.number → slot.key = key := by
  rcases memo.start_cases key with ⟨_, miss, slots, next⟩ | ⟨slot, value, found, live, hit, slots, next⟩ |
    ⟨number, miss, slots, origin⟩
  · refine ⟨faithful.ofSubset (slots ▸ List.Subset.refl _) next, by simp [miss], ?_⟩
    rw [miss]
    rintro _ ⟨⟩
    exact ⟨rfl, fun _ _ none => nomatch none⟩
  · obtain ⟨member, own⟩ := find?_mem found
    obtain ⟨sameKey, sameNumber⟩ := memo.refresh_slot slot
    obtain ⟨entry, state, held, used⟩ := refresh_some live
    have computed : compute key = .ok value := by
      rw [← own, ← held]
      exact faithful.entries slot member entry state
    refine ⟨?_, by simp [hit, computed], by simp [hit]⟩
    refine faithful.toFront slots (sameKey.trans own) (.inl ⟨⟨slot, member, own, sameNumber.symm⟩, next⟩) ?_
    intro other inside
    rw [used] at inside
    cases inside
    rw [computed, held]
  · have front : (memo.start key).2.Faithful compute := by
      refine faithful.toFront slots rfl ?_ (by simp)
      rcases origin with ⟨slot, found, own, next⟩ | ⟨_, new, next⟩
      · exact .inl ⟨⟨slot, (find?_mem found).1, (find?_mem found).2, own⟩, next⟩
      · exact .inr ⟨new, next⟩
    refine ⟨front, by simp [miss], ?_⟩
    rw [miss]
    rintro _ ⟨⟩
    refine ⟨rfl, fun slot member equal => ?_⟩
    have first : (⟨key, number, .inFlight⟩ : Slot κ ν) ∈ (memo.start key).2.slots :=
      slots ▸ List.mem_cons_self
    exact front.numbers slot member _ first (Option.some.inj equal).symm

theorem Faithful.settle (faithful : memo.Faithful compute) {ticket : Ticket κ} {value : ν}
    (owned : ∀ slot ∈ memo.slots, ticket.slot = some slot.number → slot.key = ticket.key)
    (computed : compute ticket.key = .ok value) : (memo.settle ticket value).Faithful compute := by
  obtain ⟨key, number | number, started⟩ := ticket
  · exact faithful
  · obtain ⟨fewer, _⟩ := memo.settle_slots key number started value
    have origin : ∀ slot ∈ fill memo.slots number ⟨value, started, started⟩,
        ∃ before ∈ memo.slots, before.number = slot.number ∧ before.key = slot.key := by
      intro slot member
      rcases mem_fill member with ⟨own, _, before, present, number, key⟩ | ⟨_, present⟩
      · exact ⟨before, present, number.trans own.symm, key⟩
      · exact ⟨slot, present, rfl, rfl⟩
    refine ⟨?_, ?_, ?_⟩
    · intro slot member entry state
      rcases mem_fill (fewer.subset member) with ⟨_, filled, before, present, own, key⟩ | ⟨_, present⟩
      · rw [filled] at state
        cases state
        have same := owned before present (by rw [own])
        rw [← key, same, computed]
      · exact faithful.entries slot present entry state
    · intro first member second member' equal
      obtain ⟨before, present, number, key⟩ := origin first (fewer.subset member)
      obtain ⟨before', present', number', key'⟩ := origin second (fewer.subset member')
      rw [← key, ← key']
      exact faithful.numbers before present before' present' (by rw [number, number', equal])
    · intro slot member
      obtain ⟨before, present, number, _⟩ := origin slot (fewer.subset member)
      rw [(memo.settle_fields _ value).2, ← number]
      exact faithful.next before present

/-- Asking a faithful memo is computing. -/
theorem Faithful.getOrInsert (faithful : memo.Faithful compute) (key : κ) :
    (memo.getOrInsert key fun _ => compute key).1 = compute key ∧
      (memo.getOrInsert key fun _ => compute key).2.Faithful compute := by
  obtain ⟨started, hits, misses⟩ := faithful.start key
  rw [Memo.getOrInsert]
  split
  · rename_i value after same
    rw [same] at started hits
    exact ⟨(hits value rfl).symm, started⟩
  · rename_i ticket after same
    rw [same] at started misses
    obtain ⟨own, owned⟩ := misses ticket rfl
    cases computed : compute key with
    | ok value =>
      refine ⟨rfl, started.settle ?_ (own ▸ computed)⟩
      rw [own]
      exact owned
    | error error =>
      refine ⟨rfl, ?_⟩
      obtain ⟨key, number | number, time⟩ := ticket
      · exact started
      · exact started.ofSubset List.filter_sublist.subset rfl

end Memo
end FieldSelect
