import FieldSelect.Proofs.Cache.Slots
import Mathlib.Data.Fintype.EquivFin

/-! How many slots a memo with a bound can keep. Settled entries never outnumber the bound; only slots
left empty by expired entries can, because nothing evicts them. -/
namespace FieldSelect
namespace Memo
variable {κ ν ε : Type} [DecidableEq κ] {memo after : Memo κ ν} {n : Nat}

/-! ### What every run keeps -/

/-- A property that none of the uses of a memo can break. -/
structure KeptByUse (holds : Memo κ ν → Prop) : Prop where
  get : ∀ memo key, holds memo → holds (memo.get key).2
  start : ∀ memo key, holds memo → holds (memo.start key).2
  settle : ∀ memo ticket value, holds memo → holds (memo.settle ticket value)
  abandon : ∀ memo ticket, holds memo → holds (memo.abandon ticket)
  invalidate : ∀ memo key, holds memo → holds (memo.invalidate key)
  invalidateAll : ∀ memo, holds memo → holds memo.invalidateAll
  advance : ∀ memo elapsed, holds memo → holds (memo.advance elapsed)

mutual

theorem KeptByUse.perform {holds : Memo κ ν → Prop} (kept : KeptByUse holds) (memo : Memo κ ν)
    (step : MemoStep κ ν ε) (before : holds memo) : holds (memo.perform step).2 := by
  cases step with
  | get key => exact kept.get memo key before
  | compute key during outcome =>
    have started := kept.start memo key before
    rw [Memo.perform]
    split
    · rename_i same
      simpa [same] using started
    · rename_i ticket waiting same
      rw [same] at started
      have inside := kept.performAll waiting during started
      cases outcome with
      | ok value => exact kept.settle _ ticket value inside
      | error _ => exact kept.abandon _ ticket inside
  | invalidate key => exact kept.invalidate memo key before
  | invalidateAll => exact kept.invalidateAll memo before
  | size => exact before
  | wait elapsed => exact kept.advance memo elapsed before

/-- A run keeps what each use keeps, computations with uses of their own included. -/
theorem KeptByUse.performAll {holds : Memo κ ν → Prop} (kept : KeptByUse holds) (memo : Memo κ ν)
    (steps : List (MemoStep κ ν ε)) (before : holds memo) : holds (memo.performAll steps).2 := by
  cases steps with
  | nil => exact before
  | cons step rest => exact kept.performAll _ rest (kept.perform memo step before)

end

/-! ### Settled slots -/

/-- Every key has one slot, and the settled slots stay within the bound. -/
structure Bounded (n : Nat) (memo : Memo κ ν) : Prop where
  limit : memo.spec.maximumSize = some n
  keys : (memo.slots.map Slot.key).Nodup
  settled : memo.slots.countP Slot.isSettled ≤ n

omit [DecidableEq κ] in
theorem Bounded.ofSublist (bounded : memo.Bounded n) (spec : after.spec = memo.spec)
    (fewer : after.slots.Sublist memo.slots) : after.Bounded n where
  limit := by rw [spec, bounded.limit]
  keys := bounded.keys.sublist (fewer.map _)
  settled := Nat.le_trans (fewer.countP_le) bounded.settled

theorem countP_without_lt {slot : Slot κ ν} (member : slot ∈ memo.slots)
    (settled : slot.isSettled = true) :
    (memo.without slot.key).countP Slot.isSettled < memo.slots.countP Slot.isSettled := by
  have split := List.countP_eq_countP_filter_add memo.slots Slot.isSettled (·.key ≠ slot.key)
  have found : 0 < (memo.slots.filter fun other => !decide (other.key ≠ slot.key)).countP Slot.isSettled :=
    List.countP_pos_iff.mpr ⟨slot, List.mem_filter.mpr ⟨member, by simp⟩, settled⟩
  simp only [without]
  omega

/-- A slot that moves to the front may stay settled but does not become so. -/
theorem Bounded.toFront (bounded : memo.Bounded n) (spec : after.spec = memo.spec) {slot : Slot κ ν}
    (slots : after.slots = slot :: memo.without slot.key)
    (origin : slot.isSettled = true →
      ∃ before ∈ memo.slots, before.key = slot.key ∧ before.isSettled = true) : after.Bounded n where
  limit := by rw [spec, bounded.limit]
  keys := slots ▸ nodup_keys_toFront bounded.keys slot
  settled := by
    rw [slots, List.countP_cons]
    have others : (memo.without slot.key).countP Slot.isSettled ≤ memo.slots.countP Slot.isSettled :=
      List.filter_sublist.countP_le
    have whole := bounded.settled
    split
    · rename_i settled
      obtain ⟨before, member, same, was⟩ := origin settled
      have fewer := countP_without_lt member was
      rw [same] at fewer
      omega
    · omega

theorem Bounded.get (bounded : memo.Bounded n) (key : κ) : (memo.get key).2.Bounded n := by
  have slots := memo.get_slots key
  cases found : memo.find? key with
  | none =>
    rw [found] at slots
    exact bounded.ofSublist (memo.get_spec key) (slots ▸ List.Sublist.refl _)
  | some slot =>
    rw [found] at slots
    obtain ⟨member, same⟩ := find?_mem found
    have used : (memo.refresh slot).2.key = key := (memo.refresh_slot slot).1.trans same
    have front : (memo.get key).2.slots = (memo.refresh slot).2 :: memo.without (memo.refresh slot).2.key := by
      rw [slots, used]
    refine bounded.toFront (memo.get_spec key) front ?_
    intro settled
    exact ⟨slot, member, by rw [used, same], memo.refresh_isSettled slot settled⟩

theorem Bounded.start (bounded : memo.Bounded n) (key : κ) : (memo.start key).2.Bounded n := by
  rcases memo.start_cases key with ⟨_, _, slots, _⟩ | ⟨slot, _, found, _, _, slots, _⟩ | ⟨_, _, slots, _⟩
  · exact bounded.ofSublist (memo.start_spec key) (slots ▸ List.Sublist.refl _)
  · obtain ⟨member, same⟩ := find?_mem found
    have used : (memo.refresh slot).2.key = key := (memo.refresh_slot slot).1.trans same
    have front : (memo.start key).2.slots = (memo.refresh slot).2 :: memo.without (memo.refresh slot).2.key := by
      rw [slots, used]
    refine bounded.toFront (memo.start_spec key) front ?_
    intro settled
    exact ⟨slot, member, by rw [used, same], memo.refresh_isSettled slot settled⟩
  · exact bounded.toFront (memo.start_spec key) slots (by simp [Slot.isSettled])

omit [DecidableEq κ] in
/-- Distinct keys leave room for one settled slot where all settled slots have the same key. -/
theorem countP_settled_le_one {slots : List (Slot κ ν)} [DecidableEq κ] {keep : κ}
    (keys : (slots.map Slot.key).Nodup) (safe : ∀ slot ∈ slots, isVictim keep slot = false) :
    slots.countP Slot.isSettled ≤ 1 := by
  have own : slots.countP Slot.isSettled ≤ slots.countP (·.key == keep) := by
    apply List.countP_mono_left
    intro slot member settled
    have kept := safe slot member
    cases state : slot.state <;> simp_all [Slot.isSettled, isVictim]
  have once : (slots.map Slot.key).count keep ≤ 1 := List.nodup_iff_count.mp keys keep
  rw [List.count_eq_countP, List.countP_map] at once
  exact Nat.le_trans own once

/-- Filling a slot may break the bound, and the eviction that follows restores it. -/
theorem Bounded.settle (positive : 1 ≤ n) (bounded : memo.Bounded n) (ticket : Ticket κ) (value : ν) :
    (memo.settle ticket value).Bounded n := by
  obtain ⟨key, number | number, started⟩ := ticket
  · exact bounded
  · obtain ⟨fewer, done⟩ := memo.settle_slots key number started value
    have keys : ((memo.settle ⟨key, some number, started⟩ value).slots.map Slot.key).Nodup := by
      have sub := fewer.map Slot.key
      rw [fill_keys] at sub
      exact bounded.keys.sublist sub
    refine ⟨by rw [(memo.settle_fields _ value).1, bounded.limit], keys, ?_⟩
    rcases done n bounded.limit with within | safe
    · exact Nat.le_trans List.countP_le_length within
    · exact Nat.le_trans (countP_settled_le_one keys safe) positive

theorem Bounded.keptByUse (positive : 1 ≤ n) : KeptByUse fun memo : Memo κ ν => memo.Bounded n where
  get _ key bounded := bounded.get key
  start _ key bounded := bounded.start key
  settle _ ticket value bounded := bounded.settle positive ticket value
  abandon memo ticket bounded := by
    refine bounded.ofSublist (memo.abandon_spec ticket) ?_
    obtain ⟨key, number | number, started⟩ := ticket
    · exact List.Sublist.refl _
    · exact List.filter_sublist
  invalidate _ _ bounded := bounded.ofSublist rfl List.filter_sublist
  invalidateAll _ bounded := bounded.ofSublist rfl (List.nil_sublist _)
  advance _ _ bounded := bounded.ofSublist rfl (List.Sublist.refl _)

/-! ### Slots in flight -/

/-- The numbers of the slots whose values are being computed. -/
def waiting (memo : Memo κ ν) : List Nat := (memo.slots.filter Slot.isInFlight).map Slot.number

omit [DecidableEq κ] in
theorem mem_waiting {number : Nat} :
    number ∈ memo.waiting ↔ ∃ slot ∈ memo.slots, slot.isInFlight = true ∧ slot.number = number := by
  simp [waiting, and_assoc]

theorem waiting_get (memo : Memo κ ν) (key : κ) : (memo.get key).2.waiting ⊆ memo.waiting := by
  intro number member
  obtain ⟨slot, inside, inFlight, rfl⟩ := mem_waiting.mp member
  rw [get_slots] at inside
  split at inside
  · exact mem_waiting.mpr ⟨slot, inside, inFlight, rfl⟩
  · rename_i found
    rcases List.mem_cons.mp inside with rfl | other
    · exact mem_waiting.mpr ⟨_, (find?_mem found).1, memo.refresh_isInFlight _ inFlight,
        (memo.refresh_slot _).2.symm⟩
    · exact mem_waiting.mpr ⟨slot, (mem_without.mp other).1, inFlight, rfl⟩

theorem waiting_start_hit {key : κ} {value : ν} (hit : (memo.start key).1 = .hit value) :
    (memo.start key).2.waiting ⊆ memo.waiting := by
  intro number member
  obtain ⟨slot, inside, inFlight, rfl⟩ := mem_waiting.mp member
  rcases memo.start_cases key with ⟨_, miss, _⟩ | ⟨used, _, found, _, _, slots, _⟩ | ⟨_, miss, _⟩
  · simp [hit] at miss
  · rw [slots] at inside
    rcases List.mem_cons.mp inside with rfl | other
    · exact mem_waiting.mpr ⟨used, (find?_mem found).1, memo.refresh_isInFlight used inFlight,
        (memo.refresh_slot used).2.symm⟩
    · exact mem_waiting.mpr ⟨slot, (mem_without.mp other).1, inFlight, rfl⟩
  · simp [hit] at miss

theorem waiting_start_miss {key : κ} {ticket : Ticket κ} (miss : (memo.start key).1 = .miss ticket) :
    ∀ number ∈ (memo.start key).2.waiting, ticket.slot = some number ∨ number ∈ memo.waiting := by
  intro number member
  obtain ⟨slot, inside, inFlight, rfl⟩ := mem_waiting.mp member
  rcases memo.start_cases key with ⟨_, _, slots, _⟩ | ⟨_, _, _, _, hit, _⟩ | ⟨number, same, slots, _⟩
  · rw [slots] at inside
    exact .inr (mem_waiting.mpr ⟨slot, inside, inFlight, rfl⟩)
  · simp [miss] at hit
  · rw [miss] at same
    cases same
    rw [slots] at inside
    rcases List.mem_cons.mp inside with rfl | other
    · exact .inl rfl
    · exact .inr (mem_waiting.mpr ⟨slot, (mem_without.mp other).1, inFlight, rfl⟩)

theorem waiting_settle (memo : Memo κ ν) (ticket : Ticket κ) (value : ν) :
    ∀ number ∈ (memo.settle ticket value).waiting, ticket.slot ≠ some number ∧ number ∈ memo.waiting := by
  intro number member
  obtain ⟨slot, inside, inFlight, rfl⟩ := mem_waiting.mp member
  obtain ⟨key, own | own, started⟩ := ticket
  · exact ⟨by simp, mem_waiting.mpr ⟨slot, inside, inFlight, rfl⟩⟩
  · rcases mem_fill ((memo.settle_slots key own started value).1.subset inside) with
      ⟨-, state, -⟩ | ⟨different, before⟩
    · simp [Slot.isInFlight, state] at inFlight
    · exact ⟨by simpa using Ne.symm different, mem_waiting.mpr ⟨slot, before, inFlight, rfl⟩⟩

omit [DecidableEq κ] in
theorem waiting_abandon (memo : Memo κ ν) (ticket : Ticket κ) :
    ∀ number ∈ (memo.abandon ticket).waiting, ticket.slot ≠ some number ∧ number ∈ memo.waiting := by
  intro number member
  obtain ⟨slot, inside, inFlight, rfl⟩ := mem_waiting.mp member
  obtain ⟨key, own | own, started⟩ := ticket
  · exact ⟨by simp, mem_waiting.mpr ⟨slot, inside, inFlight, rfl⟩⟩
  · rw [abandon_slots] at inside
    obtain ⟨before, different⟩ := List.mem_filter.mp inside
    exact ⟨by simpa using Ne.symm (of_decide_eq_true different),
      mem_waiting.mpr ⟨slot, before, inFlight, rfl⟩⟩

mutual

theorem waiting_perform (memo : Memo κ ν) (step : MemoStep κ ν ε) :
    (memo.perform step).2.waiting ⊆ memo.waiting := by
  cases step with
  | get key => exact memo.waiting_get key
  | compute key during outcome =>
    rw [perform]
    split
    · rename_i same
      simpa [same] using waiting_start_hit (congrArg Prod.fst same)
    · rename_i ticket started same
      -- whatever the steps inside leave in flight was so before them, and the own slot is over now
      have begun := waiting_start_miss (congrArg Prod.fst same)
      rw [same] at begun
      have inside := started.waiting_performAll during
      intro number member
      have past : ticket.slot ≠ some number ∧ number ∈ (started.performAll during).2.waiting := by
        cases outcome with
        | ok value => exact waiting_settle _ ticket value number member
        | error _ => exact waiting_abandon _ ticket number member
      rcases begun number (inside past.2) with own | before
      · exact absurd own past.1
      · exact before
  | invalidate key =>
    intro number member
    obtain ⟨slot, inside, inFlight, rfl⟩ := mem_waiting.mp member
    exact mem_waiting.mpr ⟨slot, (mem_without.mp inside).1, inFlight, rfl⟩
  | invalidateAll => exact List.nil_subset _
  | size => exact fun _ member => member
  | wait elapsed => exact fun _ member => member

/-- Nothing is in flight after a run that was not so before it. -/
theorem waiting_performAll (memo : Memo κ ν) (steps : List (MemoStep κ ν ε)) :
    (memo.performAll steps).2.waiting ⊆ memo.waiting := by
  cases steps with
  | nil => exact fun _ member => member
  | cons step rest =>
    exact fun _ member => memo.waiting_perform step (waiting_performAll _ rest member)

end

/-! ### Empty slots -/

/-- The slots that expired entries have left behind. -/
def emptied (memo : Memo κ ν) : Nat := memo.slots.countP Slot.isEmpty

omit [DecidableEq κ] in
theorem size_eq_settled_add_emptied (quiet : memo.waiting = []) :
    memo.size = memo.slots.countP Slot.isSettled + memo.emptied := by
  have settledOrEmpty : memo.slots.countP Slot.isSettled = memo.slots.countP fun slot => !slot.isEmpty := by
    apply List.countP_congr
    intro slot member
    have done : slot.isInFlight = false := by
      cases inFlight : slot.isInFlight with
      | false => rfl
      | true =>
        have listed := mem_waiting.mpr ⟨slot, member, inFlight, rfl⟩
        simp [quiet] at listed
    rw [slot.isSettled_eq_not, done]
    simp
  have whole := List.length_eq_countP_add_countP Slot.isEmpty (l := memo.slots)
  simp only [size, emptied, settledOrEmpty]
  simpa [Nat.add_comm] using whole

/-- Without expiry no entry ever leaves its slot empty. -/
structure Lasting (memo : Memo κ ν) : Prop where
  write : memo.spec.expireAfterWrite = none
  access : memo.spec.expireAfterAccess = none
  full : ∀ slot ∈ memo.slots, slot.isEmpty = false

omit [DecidableEq κ] in
theorem Lasting.isEmpty_refresh (lasting : memo.Lasting) {slot : Slot κ ν} (member : slot ∈ memo.slots) :
    (memo.refresh slot).2.isEmpty = false := by
  have held := lasting.full slot member
  unfold refresh
  split
  · have fresh : ∀ entry : Entry ν, memo.isExpired entry = false := by
      simp [isExpired, lasting.write, lasting.access]
    simp [fresh, Slot.isEmpty]
  · exact held

omit [DecidableEq κ] in
theorem Lasting.ofSlots (lasting : memo.Lasting) (spec : after.spec = memo.spec)
    (full : ∀ slot ∈ after.slots, slot.isEmpty = false) : after.Lasting :=
  ⟨by rw [spec, lasting.write], by rw [spec, lasting.access], full⟩

theorem Lasting.toFront (lasting : memo.Lasting) (spec : after.spec = memo.spec) {key : κ}
    {slot : Slot κ ν} (slots : after.slots = slot :: memo.without key) (full : slot.isEmpty = false) :
    after.Lasting := by
  refine lasting.ofSlots spec fun other member => ?_
  rw [slots] at member
  rcases List.mem_cons.mp member with rfl | inside
  · exact full
  · exact lasting.full other (mem_without.mp inside).1

theorem Lasting.get (lasting : memo.Lasting) (key : κ) : (memo.get key).2.Lasting := by
  have slots := memo.get_slots key
  cases found : memo.find? key with
  | none =>
    rw [found] at slots
    exact lasting.ofSlots (memo.get_spec key) (slots ▸ lasting.full)
  | some slot =>
    rw [found] at slots
    exact lasting.toFront (memo.get_spec key) slots (lasting.isEmpty_refresh (find?_mem found).1)

theorem Lasting.start (lasting : memo.Lasting) (key : κ) : (memo.start key).2.Lasting := by
  rcases memo.start_cases key with ⟨_, _, slots, _⟩ | ⟨slot, _, found, _, _, slots, _⟩ | ⟨_, _, slots, _⟩
  · exact lasting.ofSlots (memo.start_spec key) (slots ▸ lasting.full)
  · exact lasting.toFront (memo.start_spec key) slots (lasting.isEmpty_refresh (find?_mem found).1)
  · exact lasting.toFront (memo.start_spec key) slots rfl

theorem Lasting.settle (lasting : memo.Lasting) (ticket : Ticket κ) (value : ν) :
    (memo.settle ticket value).Lasting := by
  refine lasting.ofSlots (memo.settle_fields ticket value).1 fun slot member => ?_
  obtain ⟨key, number | number, started⟩ := ticket
  · exact lasting.full slot member
  · rcases mem_fill ((memo.settle_slots key number started value).1.subset member) with
      ⟨_, state, _⟩ | ⟨_, before⟩
    · simp [Slot.isEmpty, state]
    · exact lasting.full slot before

theorem Lasting.keptByUse : KeptByUse fun memo : Memo κ ν => memo.Lasting where
  get _ key lasting := lasting.get key
  start _ key lasting := lasting.start key
  settle _ ticket value lasting := lasting.settle ticket value
  abandon memo ticket lasting := by
    refine lasting.ofSlots (memo.abandon_spec ticket) fun slot member => ?_
    obtain ⟨key, number | number, started⟩ := ticket
    · exact lasting.full slot member
    · exact lasting.full slot (List.mem_filter.mp member).1
  invalidate _ _ lasting :=
    lasting.ofSlots rfl fun slot member => lasting.full slot (mem_without.mp member).1
  invalidateAll _ lasting := lasting.ofSlots rfl (by simp [invalidateAll])
  advance _ _ lasting := lasting.ofSlots rfl lasting.full

/-! ### Runs from the beginning -/

section Runs
variable {spec : CacheSpec} (positive : 1 ≤ n) (limit : spec.maximumSize = some n)
include positive limit

/-- Between two uses a memo holds at most as many settled entries as its bound says, and besides them only
slots that expired entries have left empty. -/
theorem size_le_add_emptied (steps : List (MemoStep κ ν ε)) :
    ((ofSpec spec).performAll steps).2.size ≤ n + ((ofSpec spec).performAll steps).2.emptied := by
  have fresh : (ofSpec spec : Memo κ ν).Bounded n := ⟨limit, List.nodup_nil, Nat.zero_le n⟩
  have bounded := (Bounded.keptByUse positive).performAll _ steps fresh
  have quiet : ((ofSpec spec).performAll steps).2.waiting = [] :=
    List.subset_nil.mp (waiting_performAll (ofSpec spec) steps)
  rw [size_eq_settled_add_emptied quiet]
  exact Nat.add_le_add_right bounded.settled _

theorem size_le_of_lasting (write : spec.expireAfterWrite = none)
    (access : spec.expireAfterAccess = none) (steps : List (MemoStep κ ν ε)) :
    ((ofSpec spec).performAll steps).2.size ≤ n := by
  have fresh : (ofSpec spec : Memo κ ν).Lasting := ⟨write, access, by simp [ofSpec]⟩
  have lasting := Lasting.keptByUse.performAll _ steps fresh
  have none : ((ofSpec spec).performAll steps).2.emptied = 0 :=
    List.countP_eq_zero.mpr fun slot member => by simp [lasting.full slot member]
  simpa [none] using size_le_add_emptied positive limit steps

end Runs

/-! ### Growth under expiry -/

theorem performAll_cons (memo : Memo κ ν) (step : MemoStep κ ν ε) (rest : List (MemoStep κ ν ε)) :
    (memo.performAll (step :: rest)).2 = ((memo.perform step).2.performAll rest).2 := rfl

theorem performAll_append (memo : Memo κ ν) (first second : List (MemoStep κ ν ε)) :
    (memo.performAll (first ++ second)).2 = ((memo.performAll first).2.performAll second).2 := by
  induction first generalizing memo with
  | nil => rfl
  | cons step rest ih => exact ih (memo.perform step).2

theorem evict_of_safe {keep : κ} (safe : ∀ slot ∈ memo.slots, isVictim keep slot = false)
    (bound rounds : Nat) : evict keep bound rounds memo = memo := by
  cases rounds with
  | zero => rfl
  | succ rounds =>
    rw [evict, dropVictim_none_of safe]
    simp

/-- Only slots that are empty, none of which has the number that comes next. -/
structure Hollow (memo : Memo κ ν) : Prop where
  empty : ∀ slot ∈ memo.slots, slot.isEmpty = true
  numbers : ∀ slot ∈ memo.slots, slot.number ≤ memo.nextNumber

/-- The memo with a value of this moment in front. -/
def withNew (memo : Memo κ ν) (key : κ) (value : ν) : Memo κ ν :=
  { memo with
    slots := ⟨key, memo.nextNumber + 1, .settled ⟨value, memo.clock, memo.clock⟩⟩ :: memo.slots
    nextNumber := memo.nextNumber + 1
    misses := memo.misses + 1 }

/-- A value under a new key comes in front, before anything goes. -/
theorem perform_compute_of_missing (numbers : ∀ slot ∈ memo.slots, slot.number ≤ memo.nextNumber) {key : κ}
    (missing : memo.find? key = none) (room : memo.spec.maximumSize ≠ some 0) (value : ν) :
    (memo.perform (.compute key [] (.ok value) : MemoStep κ ν ε)).2 = (memo.withNew key value).evictOver key := by
  have filled := fill_opened numbers key ⟨value, memo.clock, memo.clock⟩
  rw [fill] at filled
  simp only [perform, start_of_missing room missing, performAll, settle, filled]
  rfl

/-- An empty slot is no victim, so nothing goes when a value comes under a new key. -/
theorem Hollow.perform_compute (hollow : memo.Hollow) {key : κ} (missing : memo.find? key = none)
    (positive : memo.spec.maximumSize ≠ some 0) (value : ν) :
    (memo.perform (.compute key [] (.ok value) : MemoStep κ ν ε)).2 = memo.withNew key value := by
  have safe : ∀ slot ∈ (memo.withNew key value).slots, isVictim key slot = false := by
    intro slot member
    rcases List.mem_cons.mp member with rfl | old
    · simp [isVictim]
    · have empty := hollow.empty slot old
      cases state : slot.state <;> simp_all [Slot.isEmpty, isVictim]
  rw [perform_compute_of_missing hollow.numbers missing positive, evictOver]
  split
  · exact evict_of_safe safe _ _
  · rfl

theorem get_slots_of_expired {key : κ} {slot : Slot κ ν} {entry : Entry ν}
    (found : memo.find? key = some slot) (state : slot.state = .settled entry)
    (expired : memo.isExpired entry = true) :
    (memo.get key).2.slots = { slot with state := .empty } :: memo.without key := by
  rw [get_slots, found]
  simp [refresh, state, expired]

theorem get_nextNumber (memo : Memo κ ν) (key : κ) : (memo.get key).2.nextNumber = memo.nextNumber := by
  unfold get
  split
  · rfl
  · split <;> rfl

/-- A value is computed and asked for again when its time is up. -/
def expiringRound (lifetime : Nat) (value : ν) (key : κ) : List (MemoStep κ ν ε) :=
  [.compute key [] (.ok value), .wait lifetime, .get key]

/-- Another round under a new key leaves another empty slot, whatever the bound is. -/
theorem Hollow.performAll_round (hollow : memo.Hollow) {key : κ} (new : key ∉ memo.slots.map Slot.key)
    (positive : memo.spec.maximumSize ≠ some 0) {lifetime : Nat}
    (expires : memo.spec.expireAfterWrite = some lifetime ∨ memo.spec.expireAfterAccess = some lifetime)
    (value : ν) (same : (memo.performAll (expiringRound lifetime value key : List (MemoStep κ ν ε))).2 = after) :
    after.Hollow ∧ after.spec = memo.spec ∧ after.slots.map Slot.key = key :: memo.slots.map Slot.key := by
  have missing : memo.find? key = none := by simpa [find?] using new
  let aged := (memo.withNew key value).advance lifetime
  have run : (aged.get key).2 = after := by
    rw [← same, expiringRound, performAll_cons, hollow.perform_compute missing positive]
    rfl
  have expired : aged.isExpired ⟨value, memo.clock, memo.clock⟩ = true := by
    rcases expires with write | access
    · simp [isExpired, aged, advance, withNew, write]
    · simp [isExpired, aged, advance, withNew, access]
  have slots : after.slots = ⟨key, memo.nextNumber + 1, .empty⟩ :: memo.slots := by
    have rest : aged.without key = memo.slots := by
      simpa [without, aged, advance, withNew] using find?_eq_none.mp missing
    rw [← run, get_slots_of_expired (by simp [find?, aged, advance, withNew]; rfl) rfl expired, rest]
  have next : after.nextNumber = memo.nextNumber + 1 := by
    rw [← run, get_nextNumber]
    rfl
  refine ⟨⟨?_, ?_⟩, ?_, by rw [slots, List.map_cons]⟩
  · rw [slots]
    exact List.forall_mem_cons.mpr ⟨rfl, hollow.empty⟩
  · rw [slots, next]
    exact List.forall_mem_cons.mpr ⟨Nat.le_refl _, fun slot member => Nat.le_succ_of_le (hollow.numbers slot member)⟩
  · rw [← run, get_spec]
    rfl

/-- One round for each of some keys leaves one slot for each of them. -/
theorem Hollow.size_performAll_rounds {keys : List κ} (distinct : keys.Nodup) (hollow : memo.Hollow)
    (new : ∀ key ∈ keys, key ∉ memo.slots.map Slot.key) (positive : memo.spec.maximumSize ≠ some 0)
    {lifetime : Nat}
    (expires : memo.spec.expireAfterWrite = some lifetime ∨ memo.spec.expireAfterAccess = some lifetime)
    (value : ν) :
    (memo.performAll (keys.flatMap (expiringRound lifetime value) : List (MemoStep κ ν ε))).2.size =
      keys.length + memo.size := by
  induction keys generalizing memo with
  | nil => simp [performAll]
  | cons key rest ih =>
    rw [List.flatMap_cons, performAll_append]
    generalize same : (memo.performAll (expiringRound lifetime value key : List (MemoStep κ ν ε))).2 = after
    obtain ⟨hollowAfter, spec, keysAfter⟩ :=
      hollow.performAll_round (new key List.mem_cons_self) positive expires value same
    obtain ⟨fresh, distinctRest⟩ := List.nodup_cons.mp distinct
    have newRest : ∀ other ∈ rest, other ∉ after.slots.map Slot.key := by
      intro other member
      rw [keysAfter, List.mem_cons, not_or]
      exact ⟨fun equal => fresh (equal ▸ member), new other (List.mem_cons_of_mem key member)⟩
    have grown : after.size = memo.size + 1 := by
      simpa [size] using congrArg List.length keysAfter
    rw [ih distinctRest hollowAfter newRest (by rwa [spec]) (by rwa [spec]), grown, List.length_cons]
    omega

/-! ### The bound -/

section Bound
variable {spec : CacheSpec} (positive : 1 ≤ n) (limit : spec.maximumSize = some n)
include positive limit

omit [DecidableEq κ] in
/-- With expiry, reading more entries than the bound after their time leaves more slots than the bound. -/
theorem exists_size_gt_of_expiry [DecidableEq κ] [Infinite κ] (value : ν) {lifetime : Nat}
    (expires : spec.expireAfterWrite = some lifetime ∨ spec.expireAfterAccess = some lifetime) :
    ∃ steps : List (MemoStep κ ν ε), n < ((ofSpec spec).performAll steps).2.size := by
  obtain ⟨keys, many⟩ := Infinite.exists_subset_card_eq κ (n + 1)
  have hollow : (ofSpec spec : Memo κ ν).Hollow := ⟨by simp [ofSpec], by simp [ofSpec]⟩
  have room : (ofSpec spec : Memo κ ν).spec.maximumSize ≠ some 0 := by
    simp only [ofSpec, limit, ne_eq, Option.some.injEq]
    omega
  refine ⟨keys.toList.flatMap (expiringRound lifetime value), ?_⟩
  rw [hollow.size_performAll_rounds keys.nodup_toList (by simp [ofSpec]) room expires, keys.length_toList]
  omega

/-- Between two uses, a memo keeps at most as many slots as its bound says and those that expired entries
left empty. So it never exceeds its bound exactly when its entries do not expire. -/
theorem size_le_bound_iff [Infinite κ] (value : ν) :
    (∀ steps : List (MemoStep κ ν ε),
      ((ofSpec spec).performAll steps).2.size ≤ n + ((ofSpec spec).performAll steps).2.emptied) ∧
    ((∀ steps : List (MemoStep κ ν ε), ((ofSpec spec).performAll steps).2.size ≤ n) ↔
      spec.expireAfterWrite = none ∧ spec.expireAfterAccess = none) := by
  refine ⟨size_le_add_emptied positive limit, ?_, ?_⟩
  · intro within
    have lasting : ∀ lifetime,
        ¬ (spec.expireAfterWrite = some lifetime ∨ spec.expireAfterAccess = some lifetime) := by
      intro lifetime expires
      obtain ⟨steps, more⟩ := exists_size_gt_of_expiry (ε := ε) (κ := κ) positive limit value expires
      exact Nat.not_lt.mpr (within steps) more
    exact ⟨Option.eq_none_iff_forall_ne_some.mpr fun lifetime write => lasting lifetime (.inl write),
      Option.eq_none_iff_forall_ne_some.mpr fun lifetime access => lasting lifetime (.inr access)⟩
  · rintro ⟨write, access⟩ steps
    exact size_le_of_lasting positive limit write access steps

end Bound

/-- A memo of one entry that expires at once: reading the first entry leaves its slot behind, and the
second one comes on top of it. -/
theorem size_exceeds_bound_after_expiry :
    ((ofSpec { CacheSpec.unbounded with maximumSize := some 1, expireAfterWrite := some 0 } :
        Memo String String).performAll
      [.compute "a" [] (.ok "1" : Except String String), .get "a", .compute "b" [] (.ok "2")]).2.size = 2 := by
  decide

theorem size_le_bound_iff_of_one :
    (1 ≤ 1 ∧ ({ CacheSpec.unbounded with maximumSize := some 1, expireAfterAccess := some 5 } :
        CacheSpec).maximumSize = some 1) ∧
      ¬ ∀ steps : List (MemoStep String String String),
        ((ofSpec { CacheSpec.unbounded with maximumSize := some 1, expireAfterAccess := some 5 }).performAll
          steps).2.size ≤ 1 := by
  refine ⟨⟨by decide, rfl⟩, fun within => ?_⟩
  have lasting := (size_le_bound_iff (by decide) rfl "").2.mp within
  exact absurd lasting.2 (by decide)

end Memo
end FieldSelect
