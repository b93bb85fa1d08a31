import FieldSelect.Proofs.Cache.Tidy
import Mathlib.Data.List.Forall2

/-! A memo whose entries do not expire, used one step at a time, is a map that keeps the entries used last. -/
namespace FieldSelect

/-- A map of limited size. Entries stand in the order of their last use, the latest first. -/
structure Lru (κ ν : Type) where
  capacity : Option Nat
  entries : List (κ × ν)
  hits : Nat
  misses : Nat
  evictions : Nat

namespace Lru
variable {κ ν ε : Type} [DecidableEq κ]

def ofCapacity (capacity : Option Nat) : Lru κ ν := ⟨capacity, [], 0, 0, 0⟩

def stats (lru : Lru κ ν) : MemoStats := ⟨lru.hits, lru.misses, lru.evictions, lru.entries.length⟩

def find? (lru : Lru κ ν) (key : κ) : Option ν := (lru.entries.find? (·.1 = key)).map (·.2)

def without (lru : Lru κ ν) (key : κ) : List (κ × ν) := lru.entries.filter (·.1 ≠ key)

/-- An entry that is used becomes the latest one. -/
def hit (lru : Lru κ ν) (key : κ) (value : ν) : Lru κ ν :=
  { lru with entries := (key, value) :: lru.without key, hits := lru.hits + 1 }

def miss (lru : Lru κ ν) : Lru κ ν := { lru with misses := lru.misses + 1 }

/-- An entry under a new key is the latest one. If there is one entry too many the oldest one goes. -/
def add (lru : Lru κ ν) (key : κ) (value : ν) : Lru κ ν :=
  let entries := (key, value) :: lru.entries
  if lru.capacity.any (· < entries.length) then
    { lru with entries := entries.dropLast, evictions := lru.evictions + 1 }
  else { lru with entries }

omit [DecidableEq κ] in
theorem add_of_full {lru : Lru κ ν} (full : lru.capacity = some lru.entries.length) (key : κ) (value : ν) :
    lru.add key value =
      { lru with entries := ((key, value) :: lru.entries).dropLast, evictions := lru.evictions + 1 } := by
  simp [add, full]

omit [DecidableEq κ] in
theorem add_of_room {lru : Lru κ ν} (room : ∀ bound, lru.capacity = some bound → lru.entries.length < bound) (key : κ)
    (value : ν) : lru.add key value = { lru with entries := (key, value) :: lru.entries } := by
  rw [add, if_neg]
  intro exceeds
  obtain ⟨bound, limit, less⟩ := (Option.any_eq_true _ _).mp exceeds
  have space := room bound limit
  simp only [List.length_cons, decide_eq_true_eq] at less
  omega

/-- What becomes of the map when a value was computed, or could not be. -/
def keep (lru : Lru κ ν) (key : κ) : Except ε ν → Lru κ ν
  | .ok value => lru.add key value
  | .error _ => lru

/-- The record of a step. Steps inside a computation are left out. -/
def perform (lru : Lru κ ν) : MemoStep κ ν ε → List (MemoRecord κ ν ε) × Lru κ ν
  | .get key =>
    match lru.find? key with
    | some value => ([⟨some key, .found (some value), (lru.hit key value).stats⟩], lru.hit key value)
    | none => ([⟨some key, .found none, lru.miss.stats⟩], lru.miss)
  | .compute key _ outcome =>
    match lru.find? key with
    | some value => ([⟨some key, .computed (.ok value) false, (lru.hit key value).stats⟩], lru.hit key value)
    | none =>
      let lru := lru.miss.keep key outcome
      ([⟨some key, .computed outcome true, lru.stats⟩], lru)
  | .invalidate key =>
    let lru := { lru with entries := lru.without key }
    ([⟨some key, .done, lru.stats⟩], lru)
  | .invalidateAll =>
    let lru := { lru with entries := [] }
    ([⟨none, .done, lru.stats⟩], lru)
  | .size => ([⟨none, .size lru.entries.length, lru.stats⟩], lru)
  | .wait _ => ([], lru)

def performAll (lru : Lru κ ν) : List (MemoStep κ ν ε) → List (MemoRecord κ ν ε) × Lru κ ν
  | [] => ([], lru)
  | step :: rest =>
    let (records, lru) := lru.perform step
    let (more, lru) := lru.performAll rest
    (records ++ more, lru)

end Lru

/-- Nothing else is done while a value is computed. -/
def MemoStep.isPlain {κ ν ε : Type} : MemoStep κ ν ε → Bool
  | .compute _ during _ => during.isEmpty
  | _ => true

/-- A slot that holds a given entry. -/
def Slot.Holds {κ ν : Type} (slot : Slot κ ν) (entry : κ × ν) : Prop :=
  slot.key = entry.1 ∧ ∃ kept, slot.state = .settled kept ∧ kept.value = entry.2

namespace Memo
variable {κ ν ε : Type} [DecidableEq κ] {memo : Memo κ ν} {lru : Lru κ ν}

/-! ### One slot for each entry -/

/-- The memo and the map hold the same entries in the same order, within the same bound, and count alike. -/
structure Mirrors (memo : Memo κ ν) (lru : Lru κ ν) : Prop where
  tidy : memo.Tidy
  capacity : lru.capacity = memo.spec.maximumSize
  entries : List.Forall₂ Slot.Holds memo.slots lru.entries
  within : ∀ bound, memo.spec.maximumSize = some bound → memo.size ≤ bound
  hits : lru.hits = memo.hits
  misses : lru.misses = memo.misses
  evictions : lru.evictions = memo.evictions

omit [DecidableEq κ] in
theorem Mirrors.stats (mirrors : memo.Mirrors lru) : memo.stats = lru.stats := by
  rw [Memo.stats, Lru.stats, mirrors.hits, mirrors.misses, mirrors.evictions, ← mirrors.entries.length_eq]
  rfl

omit [DecidableEq κ] in
theorem Mirrors.keys (mirrors : memo.Mirrors lru) : memo.slots.map Slot.key = lru.entries.map Prod.fst := by
  have entries := mirrors.entries
  generalize memo.slots = slots at entries
  generalize lru.entries = others at entries
  induction entries with
  | nil => rfl
  | cons holds _ ih => rw [List.map_cons, List.map_cons, holds.1, ih]

theorem find?_holds {slots : List (Slot κ ν)} {entries : List (κ × ν)} (held : List.Forall₂ Slot.Holds slots entries)
    (key : κ) : Option.Rel Slot.Holds (slots.find? (·.key = key)) (entries.find? (·.1 = key)) := by
  induction held with
  | nil => exact .none
  | @cons slot entry _ _ holds _ ih =>
    by_cases own : slot.key = key
    · simpa [own, ← holds.1] using Option.Rel.some holds
    · simpa [own, ← holds.1] using ih

theorem without_holds {slots : List (Slot κ ν)} {entries : List (κ × ν)} (held : List.Forall₂ Slot.Holds slots entries)
    (key : κ) : List.Forall₂ Slot.Holds (slots.filter (·.key ≠ key)) (entries.filter (·.1 ≠ key)) := by
  refine List.rel_filter (p := (·.key ≠ key)) (q := (·.1 ≠ key)) ?_ held
  intro slot entry holds
  simp [holds.1]

/-- Either both have no entry for a key, or both have the same one. -/
theorem Mirrors.find? (mirrors : memo.Mirrors lru) (key : κ) :
    (memo.find? key = none ∧ lru.find? key = none) ∨
      ∃ slot kept, memo.find? key = some slot ∧ slot.state = .settled kept ∧ lru.find? key = some kept.value := by
  have found := find?_holds mirrors.entries key
  rw [Memo.find?, Lru.find?]
  generalize memo.slots.find? (·.key = key) = slot at found
  generalize lru.entries.find? (·.1 = key) = entry at found
  cases found with
  | none => exact .inl ⟨rfl, rfl⟩
  | some holds =>
    obtain ⟨_, kept, state, value⟩ := holds
    exact .inr ⟨_, kept, rfl, state, congrArg some value.symm⟩

/-! ### Uses of an entry -/

theorem Mirrors.used (mirrors : memo.Mirrors lru) {key : κ} {slot : Slot κ ν} {kept : Entry ν}
    (found : memo.find? key = some slot) (state : slot.state = .settled kept) :
    (memo.used slot kept).Mirrors (lru.hit key kept.value) := by
  obtain ⟨member, own⟩ := find?_mem found
  refine ⟨?_, mirrors.capacity, ?_, ?_, congrArg (· + 1) mirrors.hits, mirrors.misses, mirrors.evictions⟩
  · have tidy := mirrors.tidy.get key
    rwa [get_of_settled mirrors.tidy.lasting found state] at tidy
  · subst own
    exact .cons ⟨rfl, _, rfl, rfl⟩ (without_holds mirrors.entries slot.key)
  · intro bound limit
    have fewer : (memo.without slot.key).length < memo.slots.length :=
      List.length_filter_lt_length_iff_exists.mpr ⟨slot, member, by simp⟩
    exact Nat.le_trans fewer (mirrors.within bound limit)

theorem Mirrors.get (mirrors : memo.Mirrors lru) (key : κ) :
    (memo.perform (.get key : MemoStep κ ν ε)).1 = (lru.perform (.get key)).1 ∧
      (memo.perform (.get key : MemoStep κ ν ε)).2.Mirrors (lru.perform (.get key : MemoStep κ ν ε)).2 := by
  rcases mirrors.find? key with ⟨missing, absent⟩ | ⟨slot, kept, found, state, present⟩
  · have missed : memo.countMiss.Mirrors lru.miss :=
      { mirrors with
        tidy := mirrors.tidy.ofSublist rfl rfl (List.Sublist.refl _)
        misses := congrArg (· + 1) mirrors.misses }
    have got : memo.get key = (none, memo.countMiss) := by simp [Memo.get, missing]
    simpa only [perform, Lru.perform, got, absent, record, missed.stats, true_and] using missed
  · have hit := mirrors.used found state
    simpa only [perform, Lru.perform, get_of_settled mirrors.tidy.lasting found state, present, record, hit.stats,
      true_and] using hit

/-! ### Computations -/

omit [DecidableEq κ] in
theorem evict_of_within [DecidableEq κ] {bound : Nat} (within : memo.size ≤ bound) (keep : κ) (rounds : Nat) :
    evict keep bound rounds memo = memo := by
  cases rounds with
  | zero => rfl
  | succ rounds => rw [evict, if_pos within]

/-- With one slot too many the last one goes. -/
theorem evict_last {bound : Nat} {keep : κ} {slots : List (Slot κ ν)} {last : Slot κ ν} (rounds : Nat)
    (split : memo.slots = slots ++ [last]) (victim : isVictim keep last = true) (full : slots.length = bound) :
    evict keep bound (rounds + 1) memo = { memo with slots, evictions := memo.evictions + 1 } := by
  have exceeds : ¬ memo.size ≤ bound := by
    rw [size, split, List.length_append, full]
    simp
  rw [evict, if_neg exceeds, split, dropVictim_concat victim]
  have within : ({ memo with slots, evictions := memo.evictions + 1 } : Memo κ ν).size ≤ bound := Nat.le_of_eq full
  exact evict_of_within within keep rounds

/-- Every slot of such a memo is settled. -/
theorem Mirrors.isVictim (mirrors : memo.Mirrors lru) {slot : Slot κ ν} (member : slot ∈ memo.slots) {keep : κ}
    (other : slot.key ≠ keep) : Memo.isVictim keep slot = true := by
  rcases mirrors.find? slot.key with ⟨missing, _⟩ | ⟨found, kept, same, state, _⟩
  · exact absurd rfl (find?_eq_none.mp missing slot member)
  · rw [mirrors.tidy.find?_of_mem member, Option.some.injEq] at same
    subst same
    simp [Memo.isVictim, state, other]

/-- Where the bound is met and every slot is settled, a new one drives out the last one. -/
theorem Mirrors.evictOver_of_full (mirrors : memo.Mirrors lru) {key : κ} (missing : memo.find? key = none) (value : ν)
    (full : memo.spec.maximumSize = some memo.size) :
    (memo.withNew key value).evictOver key =
      { memo.withNew key value with
        slots := (memo.withNew key value).slots.dropLast, evictions := memo.evictions + 1 } := by
  obtain ⟨slots, last, split⟩ := (List.eq_nil_or_concat memo.slots).resolve_left fun empty =>
    mirrors.tidy.room (by rw [full, size, empty, List.length_nil])
  have member : last ∈ memo.slots := by
    rw [split, List.concat_eq_append]
    exact List.mem_append_right _ List.mem_cons_self
  have victim := mirrors.isVictim member (find?_eq_none.mp missing last member)
  have limit : (memo.withNew key value).spec.maximumSize = some memo.size := full
  rw [evictOver, limit]
  have new : (memo.withNew key value).slots =
      (⟨key, memo.nextNumber + 1, .settled ⟨value, memo.clock, memo.clock⟩⟩ :: slots) ++ [last] := by
    simp [withNew, split]
  refine (evict_last memo.size new victim ?_).trans ?_
  · simp [size, split]
  · simp only [new, List.dropLast_concat]
    rfl

theorem evictOver_of_room {key : κ} {value : ν}
    (room : ∀ bound, memo.spec.maximumSize = some bound → memo.size < bound) :
    (memo.withNew key value).evictOver key = memo.withNew key value := by
  unfold evictOver
  split
  · rename_i bound limit
    exact evict_of_within (room bound limit) key _
  · rfl

/-- A value that was computed for a new key becomes the latest entry of both. -/
theorem Mirrors.add (mirrors : memo.Mirrors lru) {key : κ} (missing : memo.find? key = none) (value : ν) :
    ((memo.withNew key value).evictOver key).Mirrors (lru.miss.add key value) := by
  have tidy : ((memo.withNew key value).evictOver key).Tidy := by
    rw [← perform_compute_of_missing (ε := Unit) mirrors.tidy.next missing mirrors.tidy.room]
    exact Tidy.keptByUse.perform memo _ mirrors.tidy
  have held : List.Forall₂ Slot.Holds (memo.withNew key value).slots ((key, value) :: lru.entries) :=
    .cons ⟨rfl, _, rfl, rfl⟩ mirrors.entries
  have size : lru.miss.entries.length = memo.size := mirrors.entries.length_eq.symm
  have capacity : lru.miss.capacity = memo.spec.maximumSize := mirrors.capacity
  have misses : lru.misses + 1 = memo.misses + 1 := congrArg (· + 1) mirrors.misses
  by_cases full : memo.spec.maximumSize = some memo.size
  · rw [mirrors.evictOver_of_full missing value full] at tidy ⊢
    rw [← capacity, ← size] at full
    rw [Lru.add_of_full full]
    refine ⟨tidy, mirrors.capacity, ?_, ?_, mirrors.hits, misses, congrArg (· + 1) mirrors.evictions⟩
    · simp only [List.dropLast_eq_take, held.length_eq]
      exact List.forall₂_take _ held
    · intro bound limit
      have same : lru.miss.entries.length = bound := Option.some.inj (full.symm.trans (capacity.trans limit))
      rw [← same, size]
      simp [Memo.size, withNew]
  · have room : ∀ bound, memo.spec.maximumSize = some bound → memo.size < bound := fun bound limit =>
      Nat.lt_of_le_of_ne (mirrors.within bound limit) fun same => full (limit.trans (congrArg some same.symm))
    rw [evictOver_of_room room] at tidy ⊢
    rw [Lru.add_of_room (by rwa [capacity, size])]
    exact ⟨tidy, mirrors.capacity, held, room, mirrors.hits, misses, mirrors.evictions⟩

omit [DecidableEq κ] in
/-- A computation that fails takes away the slot that was opened for it. -/
theorem abandon_opened (tidy : memo.Tidy) (key : κ) :
    (memo.opened key).abandon ⟨key, some (memo.nextNumber + 1), memo.clock⟩ =
      { memo with nextNumber := memo.nextNumber + 1, misses := memo.misses + 1 } := by
  simp only [abandon, opened, List.filter_cons, others_of_gone (next_gone tidy.next)]
  simp

theorem perform_compute_of_failing (tidy : memo.Tidy) {key : κ} (missing : memo.find? key = none) (error : ε) :
    (memo.perform (.compute key [] (.error error))).2 =
      { memo with nextNumber := memo.nextNumber + 1, misses := memo.misses + 1 } := by
  rw [← abandon_opened tidy key]
  simp only [perform, start_of_missing tidy.room missing, performAll]

omit [DecidableEq κ] in
theorem Mirrors.fail (mirrors : memo.Mirrors lru) :
    ({ memo with nextNumber := memo.nextNumber + 1, misses := memo.misses + 1 } : Memo κ ν).Mirrors lru.miss :=
  { mirrors with
    tidy := { mirrors.tidy with
      lasting := mirrors.tidy.lasting.ofSlots rfl mirrors.tidy.lasting.full
      next := fun slot member => Nat.le_succ_of_le (mirrors.tidy.next slot member) }
    misses := congrArg (· + 1) mirrors.misses }

theorem Mirrors.compute (mirrors : memo.Mirrors lru) (key : κ) (outcome : Except ε ν) :
    (memo.perform (.compute key [] outcome)).1 = (lru.perform (.compute key [] outcome)).1 ∧
      (memo.perform (.compute key [] outcome)).2.Mirrors (lru.perform (.compute key [] outcome)).2 := by
  rcases mirrors.find? key with ⟨missing, absent⟩ | ⟨slot, kept, found, state, present⟩
  · have after : (memo.perform (.compute key [] outcome)).2.Mirrors (lru.miss.keep key outcome) := by
      cases outcome with
      | ok value =>
        rw [perform_compute_of_missing mirrors.tidy.next missing mirrors.tidy.room]
        exact mirrors.add missing value
      | error error =>
        rw [perform_compute_of_failing mirrors.tidy missing]
        exact mirrors.fail
    have records : (memo.perform (.compute key [] outcome)).1 =
        [record (some key) (.computed outcome true) (memo.perform (.compute key [] outcome)).2] := by
      simp only [perform, start_of_missing mirrors.tidy.room missing, performAll, List.nil_append]
    have reference : lru.perform (.compute key [] outcome) =
        ([⟨some key, .computed outcome true, (lru.miss.keep key outcome).stats⟩], lru.miss.keep key outcome) := by
      simp only [Lru.perform, absent]
    rw [records, reference, record, after.stats]
    exact ⟨rfl, after⟩
  · have hit := mirrors.used found state
    simpa only [perform, Lru.perform, start_of_settled mirrors.tidy found state, present, record, hit.stats,
      true_and] using hit

/-! ### Steps and runs -/

/-- Fewer slots stand for fewer entries. -/
theorem Mirrors.invalidate (mirrors : memo.Mirrors lru) (key : κ) :
    (memo.invalidate key).Mirrors { lru with entries := lru.without key } :=
  { mirrors with
    tidy := mirrors.tidy.ofSublist rfl rfl List.filter_sublist
    entries := without_holds mirrors.entries key
    within := fun bound limit => Nat.le_trans (List.length_filter_le _ _) (mirrors.within bound limit) }

omit [DecidableEq κ] in
theorem Mirrors.invalidateAll (mirrors : memo.Mirrors lru) :
    memo.invalidateAll.Mirrors { lru with entries := [] } :=
  { mirrors with
    tidy := mirrors.tidy.ofSublist rfl rfl (List.nil_sublist _)
    entries := .nil
    within := fun bound _ => Nat.zero_le bound }

theorem Mirrors.perform (mirrors : memo.Mirrors lru) (step : MemoStep κ ν ε) (plain : step.isPlain = true) :
    (memo.perform step).1 = (lru.perform step).1 ∧ (memo.perform step).2.Mirrors (lru.perform step).2 := by
  cases step with
  | get key => exact mirrors.get key
  | compute key during outcome =>
    obtain rfl : during = [] := List.isEmpty_iff.mp plain
    exact mirrors.compute key outcome
  | invalidate key =>
    have after := mirrors.invalidate key
    refine ⟨?_, after⟩
    simp only [Memo.perform, Lru.perform, record, after.stats]
  | invalidateAll =>
    have after := mirrors.invalidateAll
    refine ⟨?_, after⟩
    simp only [Memo.perform, Lru.perform, record, after.stats]
  | size =>
    have size : memo.size = lru.entries.length := mirrors.entries.length_eq
    simp only [Memo.perform, Lru.perform, record, mirrors.stats, size, true_and]
    exact mirrors
  | wait elapsed =>
    exact ⟨rfl, { mirrors with tidy := Tidy.keptByUse.advance memo elapsed mirrors.tidy }⟩

theorem Mirrors.performAll (mirrors : memo.Mirrors lru) {steps : List (MemoStep κ ν ε)}
    (plain : ∀ step ∈ steps, step.isPlain = true) :
    (memo.performAll steps).1 = (lru.performAll steps).1 ∧
      (memo.performAll steps).2.Mirrors (lru.performAll steps).2 := by
  induction steps generalizing memo lru with
  | nil => exact ⟨rfl, mirrors⟩
  | cons step rest ih =>
    obtain ⟨first, after⟩ := mirrors.perform step (plain step List.mem_cons_self)
    obtain ⟨more, done⟩ := ih after fun other member => plain other (List.mem_cons_of_mem step member)
    exact ⟨congrArg₂ (· ++ ·) first more, done⟩

omit [DecidableEq κ] in
theorem Mirrors.ofSpec {spec : CacheSpec} (write : spec.expireAfterWrite = none)
    (access : spec.expireAfterAccess = none) (room : spec.maximumSize ≠ some 0) :
    (Memo.ofSpec spec : Memo κ ν).Mirrors (Lru.ofCapacity spec.maximumSize) :=
  ⟨Tidy.ofSpec write access room, rfl, .nil, fun bound _ => Nat.zero_le bound, rfl, rfl, rfl⟩

/-- Where entries do not expire and nothing is done inside a computation, a memo answers as a map that keeps
the entries used last, runs the same computations, and has the same keys in the same order and the same counts. -/
theorem performAll_eq_lru {spec : CacheSpec} (write : spec.expireAfterWrite = none)
    (access : spec.expireAfterAccess = none) (room : spec.maximumSize ≠ some 0) (steps : List (MemoStep κ ν ε))
    (plain : ∀ step ∈ steps, step.isPlain = true) :
    let run := (Memo.ofSpec spec).performAll steps
    let reference := (Lru.ofCapacity spec.maximumSize).performAll steps
    run.1 = reference.1 ∧ run.2.slots.map Slot.key = reference.2.entries.map Prod.fst ∧
      run.2.stats = reference.2.stats := by
  obtain ⟨records, after⟩ := (Mirrors.ofSpec write access room).performAll plain
  exact ⟨records, after.keys, after.stats⟩

/-- A memo of two entries: the hit on the first one leaves the second one to go when a third one comes, and the
computation that fails in the end changes nothing but the count of misses. -/
theorem performAll_eq_lru_of_two :
    let spec : CacheSpec := { CacheSpec.unbounded with maximumSize := some 2 }
    let steps : List (MemoStep String Nat String) :=
      [.compute "a" [] (.ok 1), .compute "b" [] (.ok 2), .get "a", .compute "c" [] (.ok 3),
        .compute "d" [] (.error "no")]
    let run := (Memo.ofSpec spec).performAll steps
    (spec.expireAfterWrite = none ∧ spec.expireAfterAccess = none ∧ spec.maximumSize ≠ some 0 ∧
        ∀ step ∈ steps, step.isPlain = true) ∧
      run.2.slots.map Slot.key = ["c", "a"] ∧ run.2.stats = ⟨1, 4, 1, 2⟩ := by
  have write : ({ CacheSpec.unbounded with maximumSize := some 2 } : CacheSpec).expireAfterWrite = none := rfl
  refine ⟨⟨write, rfl, by decide, by decide⟩, ?_⟩
  obtain ⟨_, keys, stats⟩ := performAll_eq_lru write rfl (by decide)
    ([.compute "a" [] (.ok 1), .compute "b" [] (.ok 2), .get "a", .compute "c" [] (.ok 3),
      .compute "d" [] (.error "no")] : List (MemoStep String Nat String)) (by decide)
  exact ⟨keys.trans (by decide), stats.trans (by decide)⟩

end Memo
end FieldSelect
