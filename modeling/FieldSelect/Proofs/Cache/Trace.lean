import FieldSelect.Proofs.Cache.Tidy

/-! What a run that never waits for itself does to a memo whose entries do not expire, and what its records say
of it. -/
namespace FieldSelect

namespace MemoReply
variable {ν ε : Type}

/-- The kept value that was answered. -/
def served? : MemoReply ν ε → Option ν
  | .found value => value
  | .computed (.ok value) false => some value
  | _ => none

/-- The value that was computed. -/
def made? : MemoReply ν ε → Option ν
  | .computed (.ok value) true => some value
  | _ => none

def isDone : MemoReply ν ε → Bool
  | .done => true
  | _ => false

theorem isDone_of_served {reply : MemoReply ν ε} {value : ν} (served : reply.served? = some value) :
    reply.isDone = false := by
  cases reply with
  | done => simp [served?] at served
  | _ => rfl

end MemoReply

/-- One key or all of them were invalidated, and this one was among them. -/
def MemoRecord.invalidates {κ ν ε : Type} [DecidableEq κ] (record : MemoRecord κ ν ε) (key : κ) : Bool :=
  record.reply.isDone && record.key.all (· = key)

/-- Every value that was served came from outside or was computed in an earlier step. -/
def Sourced {κ ν ε : Type} (source : ν → Prop) (records : List (MemoRecord κ ν ε)) : Prop :=
  ∀ first record rest value, records = first ++ record :: rest → record.reply.served? = some value →
    source value ∨ ∃ made ∈ first, made.reply.made? = some value

theorem Sourced.concat {κ ν ε : Type} {source : ν → Prop} {records : List (MemoRecord κ ν ε)}
    (sourced : Sourced source records) {last : MemoRecord κ ν ε}
    (served : ∀ value, last.reply.served? = some value →
      source value ∨ ∃ made ∈ records, made.reply.made? = some value) : Sourced source (records ++ [last]) := by
  intro first record rest value split
  rcases List.eq_nil_or_concat rest with rfl | ⟨before, final, rfl⟩
  · obtain ⟨rfl, same⟩ := List.append_inj' split rfl
    obtain rfl : last = record := List.singleton_inj.mp same
    exact served value
  · rw [List.concat_eq_append, ← List.cons_append, ← List.append_assoc] at split
    exact sourced first record before value (List.append_inj' split rfl).1

namespace Memo
variable {κ ν ε : Type} [DecidableEq κ] {memo after : Memo κ ν}

/-! ### Runs that do not wait for themselves -/

mutual

/-- No step asks for a value while it is being computed. -/
def proceeds (memo : Memo κ ν) : MemoStep κ ν ε → Bool
  | .get key => !memo.isBusy key
  | .compute key during _ =>
    !memo.isBusy key &&
      match memo.start key with
      | (.hit _, _) => true
      | (.miss _, memo) => proceedsAll memo during
  | _ => true

def proceedsAll (memo : Memo κ ν) : List (MemoStep κ ν ε) → Bool
  | [] => true
  | step :: rest => proceeds memo step && proceedsAll (memo.perform step).2 rest

end

/-- The computation is over, one way or the other. -/
def finish (memo : Memo κ ν) (ticket : Ticket κ) : Except ε ν → Memo κ ν
  | .ok value => memo.settle ticket value
  | .error _ => memo.abandon ticket

theorem perform_compute_of_opened (room : memo.spec.maximumSize ≠ some 0) {key : κ} (missing : memo.find? key = none)
    (during : List (MemoStep κ ν ε)) (outcome : Except ε ν) :
    let inside := (memo.opened key).performAll during
    let after := inside.2.finish ⟨key, some (memo.nextNumber + 1), memo.clock⟩ outcome
    memo.perform (.compute key during outcome) =
      (inside.1 ++ [record (some key) (.computed outcome true) after], after) := by
  simp only [perform, start_of_missing room missing]
  cases outcome <;> rfl

theorem perform_compute_of_settled (tidy : memo.Tidy) {key : κ} {slot : Slot κ ν} {kept : Entry ν}
    (found : memo.find? key = some slot) (state : slot.state = .settled kept) (during : List (MemoStep κ ν ε))
    (outcome : Except ε ν) :
    memo.perform (.compute key during outcome) =
      ([record (some key) (.computed (.ok kept.value) false) (memo.used slot kept)], memo.used slot kept) := by
  simp only [perform, start_of_settled tidy found state]

/-- The slot that was opened is the only one of its number, whatever happens inside. -/
theorem key_of_opened (tidy : memo.Tidy) (key : κ) (during : List (MemoStep κ ν ε)) :
    ∀ slot ∈ ((memo.opened key).performAll during).2.slots, slot.number = memo.nextNumber + 1 → slot.key = key := by
  intro slot member number
  have descends := (Descends.keptByUse (memo.opened key)).performAll _ during (Descends.refl _)
  obtain ⟨before, present, same, own⟩ := descends.origin slot member (Nat.le_of_eq number)
  rcases List.mem_cons.mp present with rfl | old
  · exact own.symm
  · have small := tidy.next before old
    omega

/-! ### What every such run keeps -/

/-- A property of a memo and the records so far that no use can break, where computations have numbers above a
given one. -/
structure KeptByTrace (floor : Nat) (holds : Memo κ ν → List (MemoRecord κ ν ε) → Prop) : Prop where
  idle : ∀ memo after records, after.slots = memo.slots → holds memo records →
    holds after records ∧ ∀ record : MemoRecord κ ν ε, record.reply.served? = none → record.reply.made? = none →
      record.reply.isDone = false → holds after (records ++ [record])
  serve : ∀ memo records key slot kept (record : MemoRecord κ ν ε), memo.Tidy → memo.find? key = some slot →
    slot.state = .settled kept → record.reply.served? = some kept.value → holds memo records →
    holds (memo.used slot kept) (records ++ [record])
  opened : ∀ memo records key, memo.Tidy → memo.find? key = none → floor ≤ memo.nextNumber → holds memo records →
    holds (memo.opened key) records
  finish : ∀ memo records key number started outcome stats, memo.Tidy → floor < number →
    (∀ slot ∈ memo.slots, slot.number = number → slot.key = key) → holds memo records →
    holds (memo.finish ⟨key, some number, started⟩ outcome) (records ++ [⟨some key, .computed outcome true, stats⟩])
  clear : ∀ memo after records (mark : MemoRecord κ ν ε), memo.Tidy → mark.reply = .done →
    after.slots = memo.slots.filter (!mark.invalidates ·.key) → holds memo records → holds after (records ++ [mark])

section Traces
variable {floor : Nat} {holds : Memo κ ν → List (MemoRecord κ ν ε) → Prop}

theorem KeptByTrace.get (kept : KeptByTrace floor holds) (tidy : memo.Tidy) {key : κ} (free : memo.isBusy key = false)
    {records : List (MemoRecord κ ν ε)} (before : holds memo records) :
    holds (memo.get key).2 (records ++ [record (some key) (.found (memo.get key).1) (memo.get key).2]) := by
  rcases tidy.find?_of_free free with missing | ⟨slot, entry, found, state⟩
  · have got : memo.get key = (none, memo.countMiss) := by simp [Memo.get, missing]
    rw [got]
    exact (kept.idle memo memo.countMiss records rfl before).2 _ rfl rfl rfl
  · rw [get_of_settled tidy.lasting found state]
    exact kept.serve memo records key slot entry _ tidy found state rfl before

theorem KeptByTrace.invalidate (kept : KeptByTrace floor holds) (tidy : memo.Tidy) (key : κ)
    {records : List (MemoRecord κ ν ε)} (before : holds memo records) :
    holds (memo.invalidate key) (records ++ [record (some key) .done (memo.invalidate key)]) := by
  refine kept.clear memo _ records _ tidy rfl ?_ before
  refine List.filter_congr fun slot _ => ?_
  simp [MemoRecord.invalidates, MemoReply.isDone, record, eq_comm]

theorem KeptByTrace.invalidateAll (kept : KeptByTrace floor holds) (tidy : memo.Tidy)
    {records : List (MemoRecord κ ν ε)} (before : holds memo records) :
    holds memo.invalidateAll (records ++ [record none .done memo.invalidateAll]) :=
  kept.clear memo _ records _ tidy rfl
    (by simp [MemoRecord.invalidates, MemoReply.isDone, record, Memo.invalidateAll]) before

mutual

theorem KeptByTrace.perform (kept : KeptByTrace floor holds) (memo : Memo κ ν) (tidy : memo.Tidy)
    (above : floor ≤ memo.nextNumber) (step : MemoStep κ ν ε) (proceeds : memo.proceeds step = true)
    {records : List (MemoRecord κ ν ε)} (before : holds memo records) : holds (memo.perform step).2 (records ++ (memo.perform step).1) := by
  cases step with
  | get key => exact kept.get tidy (by simpa [Memo.proceeds] using proceeds) before
  | compute key during outcome =>
    rw [Memo.proceeds, Bool.and_eq_true, Bool.not_eq_true'] at proceeds
    obtain ⟨free, onward⟩ := proceeds
    rcases tidy.find?_of_free free with missing | ⟨slot, entry, found, state⟩
    · rw [start_of_missing tidy.room missing] at onward
      have opened := kept.opened memo records key tidy missing above before
      have tidyOpened := tidy.opened missing
      have inside := kept.performAll (memo.opened key) tidyOpened (Nat.le_succ_of_le above) during onward opened
      -- the number that was opened is a new one, so no slot that the property speaks of has it
      have ended := Tidy.keptByUse.performAll _ during tidyOpened
      rw [perform_compute_of_opened tidy.room missing, ← List.append_assoc]
      exact kept.finish _ _ key _ _ outcome _ ended (Nat.lt_succ_of_le above) (key_of_opened tidy key during) inside
    · rw [perform_compute_of_settled tidy found state]
      exact kept.serve memo records key slot entry _ tidy found state rfl before
  | invalidate key => exact kept.invalidate tidy key before
  | invalidateAll => exact kept.invalidateAll tidy before
  | size => exact (kept.idle memo memo records rfl before).2 _ rfl rfl rfl
  | wait elapsed =>
    simpa [Memo.perform] using (kept.idle memo (memo.advance elapsed) records rfl before).1

/-- A run that does not wait for itself keeps what each use keeps. -/
theorem KeptByTrace.performAll (kept : KeptByTrace floor holds) (memo : Memo κ ν) (tidy : memo.Tidy)
    (above : floor ≤ memo.nextNumber) (steps : List (MemoStep κ ν ε)) (proceeds : memo.proceedsAll steps = true)
    {records : List (MemoRecord κ ν ε)} (before : holds memo records) : holds (memo.performAll steps).2 (records ++ (memo.performAll steps).1) := by
  cases steps with
  | nil => simpa [Memo.performAll] using before
  | cons step rest =>
    rw [Memo.proceedsAll, Bool.and_eq_true] at proceeds
    have first := kept.perform memo tidy above step proceeds.1 before
    have grown := ((Descends.keptByUse memo).perform memo step (Descends.refl memo)).next
    have more := kept.performAll (memo.perform step).2 (Tidy.keptByUse.perform memo step tidy)
      (Nat.le_trans above grown) rest proceeds.2 first
    rwa [List.append_assoc] at more

end

end Traces

/-! ### Where served values come from -/

def Keeps (memo : Memo κ ν) (value : ν) : Prop :=
  ∃ slot ∈ memo.slots, ∃ kept, slot.state = .settled kept ∧ kept.value = value

/-- All that was served so far, and all that can be served from now on, came from outside or was computed. -/
structure Supplied (source : ν → Prop) (memo : Memo κ ν) (records : List (MemoRecord κ ν ε)) : Prop where
  kept : ∀ value, memo.Keeps value → source value ∨ ∃ made ∈ records, made.reply.made? = some value
  served : Sourced source records

omit [DecidableEq κ] in
/-- A record is added that serves only what is kept, and the memo keeps nothing new but what it made. -/
theorem Supplied.concat {source : ν → Prop} {records : List (MemoRecord κ ν ε)}
    (supplied : Supplied source memo records) {last : MemoRecord κ ν ε}
    (served : ∀ value, last.reply.served? = some value → memo.Keeps value)
    (origin : ∀ value, after.Keeps value → memo.Keeps value ∨ last.reply.made? = some value) :
    Supplied source after (records ++ [last]) where
  kept value keeps := by
    rcases origin value keeps with old | new
    · rcases supplied.kept value old with outside | ⟨made, member, same⟩
      · exact .inl outside
      · exact .inr ⟨made, List.mem_append_left _ member, same⟩
    · exact .inr ⟨last, List.mem_append_right _ List.mem_cons_self, new⟩
  served := supplied.served.concat fun value serves => supplied.kept value (served value serves)

omit [DecidableEq κ] in
theorem Keeps.ofSubset {value : ν} (subset : after.slots ⊆ memo.slots) (keeps : after.Keeps value) :
    memo.Keeps value := by
  obtain ⟨slot, member, settled⟩ := keeps
  exact ⟨slot, subset member, settled⟩

omit [DecidableEq κ] in
theorem Supplied.ofSubset {source : ν → Prop} {records : List (MemoRecord κ ν ε)}
    (supplied : Supplied source memo records) (subset : after.slots ⊆ memo.slots) : Supplied source after records :=
  ⟨fun value keeps => supplied.kept value (keeps.ofSubset subset), supplied.served⟩

omit [DecidableEq κ] in
theorem Supplied.start (memo : Memo κ ν) : Supplied memo.Keeps memo ([] : List (MemoRecord κ ν ε)) :=
  ⟨fun _ keeps => .inl keeps, fun _ _ _ _ split => absurd split (by simp)⟩

theorem Keeps.ofUsed {slot : Slot κ ν} {kept : Entry ν} {key : κ} (found : memo.find? key = some slot)
    (state : slot.state = .settled kept) {value : ν} (keeps : (memo.used slot kept).Keeps value) :
    memo.Keeps value := by
  obtain ⟨other, member, entry, settled, same⟩ := keeps
  rcases List.mem_cons.mp member with rfl | inside
  · cases settled
    exact ⟨slot, (find?_mem found).1, kept, state, same⟩
  · exact ⟨other, (mem_without.mp inside).1, entry, settled, same⟩

theorem Keeps.ofFinish {ticket : Ticket κ} {outcome : Except ε ν} {value : ν}
    (keeps : (memo.finish ticket outcome).Keeps value) :
    memo.Keeps value ∨ (.computed outcome true : MemoReply ν ε).made? = some value := by
  obtain ⟨key, number | number, started⟩ := ticket
  · cases outcome <;> exact .inl keeps
  · cases outcome with
    | error _ => exact .inl (keeps.ofSubset List.filter_sublist.subset)
    | ok made =>
      obtain ⟨slot, member, entry, settled, same⟩ := keeps
      rcases mem_fill ((memo.settle_slots key number started made).1.subset member) with ⟨_, state, _⟩ | ⟨_, present⟩
      · rw [state] at settled
        cases settled
        exact .inr (congrArg some same)
      · exact .inl ⟨slot, present, entry, settled, same⟩

theorem Supplied.finish {source : ν → Prop} {records : List (MemoRecord κ ν ε)}
    (supplied : Supplied source memo records) (ticket : Ticket κ) (outcome : Except ε ν) (stats : MemoStats) :
    Supplied source (memo.finish ticket outcome)
      (records ++ [⟨some ticket.key, .computed outcome true, stats⟩]) := by
  refine supplied.concat (fun value serves => ?_) fun value keeps => keeps.ofFinish
  cases outcome <;> simp [MemoReply.served?] at serves

theorem Supplied.keptByTrace (source : ν → Prop) (floor : Nat) :
    KeptByTrace floor fun (memo : Memo κ ν) (records : List (MemoRecord κ ν ε)) => Supplied source memo records where
  idle memo after records slots supplied := by
    have subset : after.slots ⊆ memo.slots := slots ▸ List.Subset.refl _
    refine ⟨supplied.ofSubset subset, ?_⟩
    intro record served _ _
    exact supplied.concat (by simp [served]) fun value keeps => .inl (keeps.ofSubset subset)
  serve memo records key slot kept record _ found state served supplied := by
    refine supplied.concat (fun value serves => ?_) fun value keeps => .inl (keeps.ofUsed found state)
    rw [served, Option.some.injEq] at serves
    exact ⟨slot, (find?_mem found).1, kept, state, serves⟩
  opened memo records key _ _ _ supplied := by
    refine ⟨fun value keeps => supplied.kept value ?_, supplied.served⟩
    obtain ⟨slot, member, kept, state, same⟩ := keeps
    rcases List.mem_cons.mp member with rfl | inside
    · cases state
    · exact ⟨slot, inside, kept, state, same⟩
  finish memo records key number started outcome stats _ _ _ supplied :=
    supplied.finish ⟨key, some number, started⟩ outcome stats
  clear memo after records mark _ done slots supplied := by
    refine supplied.concat (by simp [done, MemoReply.served?]) fun value keeps => .inl (keeps.ofSubset ?_)
    rw [slots]
    exact List.filter_sublist.subset

end Memo
end FieldSelect
