import FieldSelect.Proofs.Cache.Trace

/-! A computation can use the memo that waits for its value. What becomes of its slot meanwhile decides what
becomes of the value. -/
namespace FieldSelect

section Records
variable {κ ν ε : Type} [DecidableEq κ] {key : κ} {records : List (MemoRecord κ ν ε)}

/-- A key was invalidated, alone or with all others. -/
def Invalidated (key : κ) (records : List (MemoRecord κ ν ε)) : Prop :=
  ∃ record ∈ records, record.invalidates key = true

/-- The value was computed for the key after the key had been invalidated. -/
def Renewed (key : κ) (value : ν) (records : List (MemoRecord κ ν ε)) : Prop :=
  ∃ first mark rest, records = first ++ mark :: rest ∧ mark.invalidates key = true ∧
    ∃ made ∈ rest, made.key = some key ∧ made.reply.made? = some value

theorem Renewed.concat {value : ν} (renewed : Renewed key value records) (last : MemoRecord κ ν ε) :
    Renewed key value (records ++ [last]) := by
  obtain ⟨first, mark, rest, rfl, hit, made, member, computed⟩ := renewed
  exact ⟨first, mark, rest ++ [last], by simp, hit, made, List.mem_append_left _ member, computed⟩

theorem Renewed.ofLast (invalidated : Invalidated key records) {last : MemoRecord κ ν ε} {value : ν}
    (own : last.key = some key) (made : last.reply.made? = some value) : Renewed key value (records ++ [last]) := by
  obtain ⟨mark, member, hit⟩ := invalidated
  obtain ⟨first, rest, rfl⟩ := List.append_of_mem member
  exact ⟨first, mark, rest ++ [last], by simp, hit, last, by simp, own, made⟩

theorem invalidated_concat {last : MemoRecord κ ν ε} :
    Invalidated key (records ++ [last]) ↔ Invalidated key records ∨ last.invalidates key = true := by
  simp [Invalidated, or_and_right, exists_or]

theorem invalidated_concat_of_other {last : MemoRecord κ ν ε} (other : last.reply.isDone = false) :
    Invalidated key (records ++ [last]) ↔ Invalidated key records := by
  simp [invalidated_concat, MemoRecord.invalidates, other]

end Records

namespace Memo
variable {κ ν ε : Type} [DecidableEq κ] {memo after : Memo κ ν} {key : κ} {number : Nat}
  {records : List (MemoRecord κ ν ε)}

/-! ### A slot in flight -/

/-- As long as its key is not invalidated a slot in flight stays. After that it is gone for good, and any
value for the key is a new one. -/
inductive Standing (key : κ) (number : Nat) (memo : Memo κ ν) (records : List (MemoRecord κ ν ε)) : Prop where
  | own (still : ¬ Invalidated key records) (present : ⟨key, number, .inFlight⟩ ∈ memo.slots)
  | lost (invalidated : Invalidated key records) (gone : ∀ slot ∈ memo.slots, slot.number ≠ number)
      (renewed : ∀ slot ∈ memo.slots, slot.key = key → ∀ kept, slot.state = .settled kept →
        Renewed key kept.value records)

theorem Standing.idle (standing : Standing key number memo records) (slots : after.slots = memo.slots) :
    Standing key number after records := by
  cases standing with
  | own still present => exact .own still (slots ▸ present)
  | lost invalidated gone renewed => exact .lost invalidated (slots ▸ gone) (slots ▸ renewed)

/-- A record of anything but an invalidation changes nothing. -/
theorem Standing.concat (standing : Standing key number memo records) {last : MemoRecord κ ν ε}
    (other : last.reply.isDone = false) : Standing key number memo (records ++ [last]) := by
  have same : Invalidated key (records ++ [last]) ↔ Invalidated key records := invalidated_concat_of_other other
  cases standing with
  | own still present => exact .own (mt same.mp still) present
  | lost invalidated gone renewed =>
    exact .lost (same.mpr invalidated) gone fun slot member own kept state =>
      (renewed slot member own kept state).concat last

theorem Standing.used (standing : Standing key number memo records) (tidy : memo.Tidy) {other : κ} {slot : Slot κ ν}
    {kept : Entry ν} (found : memo.find? other = some slot) (state : slot.state = .settled kept) :
    Standing key number (memo.used slot kept) records := by
  have member := (find?_mem found).1
  cases standing with
  | own still present =>
    refine .own still (List.mem_cons_of_mem _ (mem_without.mpr ⟨present, fun same => ?_⟩))
    rw [← tidy.eq_of_key present member same] at state
    cases state
  | lost invalidated gone renewed =>
    refine .lost invalidated ?_ ?_
    · exact List.forall_mem_cons.mpr ⟨gone slot member, fun before inside => gone before (mem_without.mp inside).1⟩
    · refine List.forall_mem_cons.mpr ⟨fun own entry settled => ?_, fun before inside => ?_⟩
      · cases settled
        exact renewed slot member own kept state
      · exact renewed before (mem_without.mp inside).1

theorem Standing.opened (standing : Standing key number memo records) (old : number ≤ memo.nextNumber) (other : κ) :
    Standing key number (memo.opened other) records := by
  cases standing with
  | own still present => exact .own still (List.mem_cons_of_mem _ present)
  | lost invalidated gone renewed =>
    refine .lost invalidated (List.forall_mem_cons.mpr ⟨?_, gone⟩) (List.forall_mem_cons.mpr ⟨?_, renewed⟩)
    · exact (Nat.lt_succ_of_le old).ne'
    · intro _ entry settled
      cases settled

/-- A slot in flight is no victim, and a value that settles elsewhere is a new one. -/
theorem Standing.settle (standing : Standing key number memo records) {other : κ} {fresh : Nat} (started : Nat)
    (different : number ≠ fresh) (owner : ∀ slot ∈ memo.slots, slot.number = fresh → slot.key = other) (value : ν)
    (stats : MemoStats) :
    Standing key number (memo.settle ⟨other, some fresh, started⟩ value)
      (records ++ [⟨some other, .computed (.ok value) true, stats⟩]) := by
  have fewer := (memo.settle_slots other fresh started value).1
  cases standing with
  | own still present =>
    refine .own (mt (invalidated_concat_of_other rfl).mp still) (mem_settle ?_ rfl)
    exact List.mem_map.mpr ⟨_, present, if_neg different⟩
  | lost invalidated gone renewed =>
    refine .lost ((invalidated_concat_of_other rfl).mpr invalidated) (fun slot member => ?_)
      fun slot member own kept state => ?_
    · rcases mem_fill (fewer.subset member) with ⟨new, _⟩ | ⟨_, before⟩
      · exact new ▸ different.symm
      · exact gone slot before
    · rcases mem_fill (fewer.subset member) with ⟨_, settled, before, present, new, same⟩ | ⟨_, before⟩
      · rw [state] at settled
        cases settled
        exact .ofLast invalidated (congrArg some ((owner before present new).symm.trans (same.trans own))) rfl
      · exact (renewed slot before own kept state).concat _

theorem Standing.abandon (standing : Standing key number memo records) {fresh : Nat} (different : number ≠ fresh)
    (other : κ) (started : Nat) : Standing key number (memo.abandon ⟨other, some fresh, started⟩) records := by
  cases standing with
  | own still present => exact .own still (List.mem_filter.mpr ⟨present, by simpa using different⟩)
  | lost invalidated gone renewed =>
    exact .lost invalidated (fun slot member => gone slot (List.mem_filter.mp member).1)
      fun slot member => renewed slot (List.mem_filter.mp member).1

theorem Standing.clear (standing : Standing key number memo records) (tidy : memo.Tidy) {mark : MemoRecord κ ν ε}
    (slots : after.slots = memo.slots.filter (!mark.invalidates ·.key)) :
    Standing key number after (records ++ [mark]) := by
  have fewer {slot : Slot κ ν} (member : slot ∈ after.slots) :
      slot ∈ memo.slots ∧ mark.invalidates slot.key = false := by
    simpa [slots] using member
  -- the first invalidation takes the own slot away; later ones find it gone
  by_cases hit : mark.invalidates key = true
  · refine .lost (invalidated_concat.mpr (.inr hit)) (fun slot member same => ?_) fun slot member own => ?_
    · obtain ⟨before, spared⟩ := fewer member
      cases standing with
      | own still present =>
        rw [tidy.eq_of_number before present same] at spared
        simp [hit] at spared
      | lost _ gone _ => exact gone slot before same
    · rw [← own] at hit
      simp [(fewer member).2] at hit
  · cases standing with
    | own still present =>
      refine .own (fun all => (invalidated_concat.mp all).elim still hit) ?_
      rw [slots]
      exact List.mem_filter.mpr ⟨present, by simpa using hit⟩
    | lost invalidated gone renewed =>
      exact .lost (invalidated_concat.mpr (.inl invalidated)) (fun slot member => gone slot (fewer member).1)
        fun slot member own kept state => (renewed slot (fewer member).1 own kept state).concat mark

theorem Standing.keptByTrace (key : κ) (number : Nat) :
    KeptByTrace number fun (memo : Memo κ ν) (records : List (MemoRecord κ ν ε)) =>
      Standing key number memo records where
  idle _ _ _ slots standing := ⟨standing.idle slots, fun _ _ _ other => (standing.idle slots).concat other⟩
  serve _ _ _ _ _ _ tidy found state served standing :=
    (standing.used tidy found state).concat (MemoReply.isDone_of_served served)
  opened _ _ other _ _ old standing := standing.opened old other
  finish _ _ other _ started outcome stats _ above owner standing := by
    cases outcome with
    | ok value => exact standing.settle started (Nat.ne_of_lt above) owner value stats
    | error _ => exact (standing.abandon (Nat.ne_of_lt above) other started).concat rfl
  clear _ _ _ _ tidy _ slots standing := standing.clear tidy slots

/-! ### The end of a computation -/

/-- A value whose slot is gone changes nothing. -/
theorem settle_of_gone (gone : ∀ slot ∈ memo.slots, slot.number ≠ number) (key : κ) (started : Nat) (value : ν) :
    memo.settle ⟨key, some number, started⟩ value = memo.evictOver key := by
  have same := fill_of_gone gone ⟨value, started, started⟩
  rw [fill] at same
  simp only [settle, same]

theorem settle_subset_of_gone (gone : ∀ slot ∈ memo.slots, slot.number ≠ number) (key : κ) (started : Nat) (value : ν) :
    (memo.settle ⟨key, some number, started⟩ value).slots ⊆ memo.slots := by
  have fewer := (memo.settle_slots key number started value).1
  rw [fill_of_gone gone] at fewer
  exact fewer.subset

omit [DecidableEq κ] in
theorem abandon_of_gone (gone : ∀ slot ∈ memo.slots, slot.number ≠ number) (key : κ) (started : Nat) :
    memo.abandon ⟨key, some number, started⟩ = memo := by
  simp only [abandon, others_of_gone gone]

theorem get_settle_of_present (tidy : memo.Tidy) (present : ⟨key, number, .inFlight⟩ ∈ memo.slots) (started : Nat)
    (value : ν) : ((memo.settle ⟨key, some number, started⟩ value).get key).1 = some value := by
  have after := tidy.settle ⟨key, some number, started⟩ value
  have filled : ⟨key, number, .settled ⟨value, started, started⟩⟩ ∈ fill memo.slots number ⟨value, started, started⟩ :=
    List.mem_map.mpr ⟨_, present, if_pos rfl⟩
  have member : _ ∈ (memo.settle ⟨key, some number, started⟩ value).slots := mem_settle filled (by simp [isVictim])
  rw [get_of_settled after.lasting (after.find?_of_mem member) rfl]

theorem find?_abandon_of_present (tidy : memo.Tidy) (present : ⟨key, number, .inFlight⟩ ∈ memo.slots) (started : Nat) :
    (memo.abandon ⟨key, some number, started⟩).find? key = none := by
  refine find?_eq_none.mpr fun slot member own => ?_
  obtain ⟨before, other⟩ := List.mem_filter.mp member
  rw [tidy.eq_of_key before present own] at other
  simp at other

/-- A computation of what is not being computed opens a slot for a key that had none. -/
theorem opened_of_missed (tidy : memo.Tidy) (free : memo.isBusy key = false) {ticket : Ticket κ} {started : Memo κ ν}
    (missed : memo.start key = (.miss ticket, started)) : memo.find? key = none ∧ started = memo.opened key := by
  rcases tidy.find?_of_free free with missing | ⟨slot, kept, found, state⟩
  · rw [start_of_missing tidy.room missing, Prod.mk.injEq] at missed
    exact ⟨missing, missed.2.symm⟩
  · simp [start_of_settled tidy found state] at missed

/-- What is left of a computation: its slot, where the key was not invalidated, or a slot of an inner one. -/
theorem standing_performAll (tidy : memo.Tidy) (missing : memo.find? key = none) {during : List (MemoStep κ ν ε)}
    (proceeds : (memo.opened key).proceedsAll during = true) :
    Standing key (memo.nextNumber + 1) ((memo.opened key).performAll during).2
      ((memo.opened key).performAll during).1 := by
  have own : Standing key (memo.nextNumber + 1) (memo.opened key) ([] : List (MemoRecord κ ν ε)) :=
    .own (by simp [Invalidated]) List.mem_cons_self
  exact (Standing.keptByTrace key _).performAll _ (tidy.opened missing) (Nat.le_refl _) during proceeds own

theorem supplied_performAll (tidy : memo.Tidy) (missing : memo.find? key = none) {during : List (MemoStep κ ν ε)}
    (proceeds : (memo.opened key).proceedsAll during = true) :
    Supplied memo.Keeps ((memo.opened key).performAll during).2 ((memo.opened key).performAll during).1 := by
  have kept := Supplied.keptByTrace (κ := κ) (ε := ε) memo.Keeps 0
  have opened := kept.opened memo [] key tidy missing (Nat.zero_le _) (.start memo)
  exact kept.performAll _ (tidy.opened missing) (Nat.zero_le _) during proceeds opened

/-- Nothing but the own slot of a computation is in flight under its key when it ends. -/
theorem settled_of_gone (tidy : memo.Tidy) (missing : memo.find? key = none) {during : List (MemoStep κ ν ε)}
    (gone : ∀ slot ∈ ((memo.opened key).performAll during).2.slots, slot.number ≠ memo.nextNumber + 1) {slot : Slot κ ν}
    (found : ((memo.opened key).performAll during).2.find? key = some slot) :
    ∃ kept, slot.state = .settled kept := by
  have opened := tidy.opened missing
  have ended := Tidy.keptByUse.performAll _ during opened
  have free : ((memo.opened key).performAll during).2.isBusy key = false := by
    rw [isBusy, found, Option.any_some]
    refine Bool.eq_false_iff.mpr fun inFlight => ?_
    obtain ⟨member, own⟩ := find?_mem found
    -- what is in flight now was so at the beginning, and under this key that was the own slot alone
    obtain ⟨before, old, _, same⟩ := mem_waiting.mp
      (waiting_performAll (memo.opened key) during (mem_waiting.mpr ⟨slot, member, inFlight, rfl⟩))
    have descends := (Descends.keptByUse (memo.opened key)).performAll _ during (Descends.refl _)
    obtain ⟨origin, first, number, sameKey⟩ := descends.origin slot member (same ▸ opened.next before old)
    rcases List.mem_cons.mp first with rfl | other
    · exact gone slot member number.symm
    · exact find?_eq_none.mp missing origin other (sameKey.trans own)
  rcases ended.find?_of_free free with none | ⟨slot', kept, found', state⟩
  · simp [found] at none
  · obtain rfl := Option.some.inj (found.symm.trans found')
    exact ⟨kept, state⟩

end Memo

/-! ### Sessions -/

/-- A memo in use, with the computations that are under way, the innermost one first. -/
structure Session (κ ν : Type) where
  memo : Memo κ ν
  underWay : List (Ticket κ)

/-- A whole use, or the beginning or the end of a computation with whatever is done inside it in between. -/
inductive SessionEvent (κ ν ε : Type) where
  | use (step : MemoStep κ ν ε)
  | enter (key : κ)
  | leave (outcome : Except ε ν)

namespace Session
variable {κ ν ε : Type} [DecidableEq κ] {session : Session κ ν}

def ofSpec (spec : CacheSpec) : Session κ ν := ⟨.ofSpec spec, []⟩

def take (session : Session κ ν) : SessionEvent κ ν ε → List (MemoRecord κ ν ε) × Session κ ν
  | .use step =>
    let (records, memo) := session.memo.perform step
    (records, { session with memo })
  | .enter key =>
    match session.memo.start key with
    | (.hit value, memo) => ([Memo.record (some key) (.computed (.ok value) false) memo], { session with memo })
    | (.miss ticket, memo) => ([], ⟨memo, ticket :: session.underWay⟩)
  | .leave outcome =>
    match session.underWay with
    | [] => ([], session)
    | ticket :: outer =>
      let memo := session.memo.finish ticket outcome
      ([Memo.record (some ticket.key) (.computed outcome true) memo], ⟨memo, outer⟩)

def takeAll (session : Session κ ν) : List (SessionEvent κ ν ε) → List (MemoRecord κ ν ε) × Session κ ν
  | [] => ([], session)
  | event :: rest =>
    let (records, session) := session.take event
    let (more, session) := session.takeAll rest
    (records ++ more, session)

/-- Nothing waits for itself, and only what is under way can end. -/
def permits (session : Session κ ν) : SessionEvent κ ν ε → Bool
  | .use step => session.memo.proceeds step
  | .enter key => !session.memo.isBusy key
  | .leave _ => !session.underWay.isEmpty

def permitsAll (session : Session κ ν) : List (SessionEvent κ ν ε) → Bool
  | [] => true
  | event :: rest => session.permits event && (session.take event).2.permitsAll rest

/-- What can come of a memo, between two uses and inside of computations. -/
def Reachable (ε : Type) (spec : CacheSpec) (session : Session κ ν) : Prop :=
  ∃ events : List (SessionEvent κ ν ε),
    (ofSpec spec).permitsAll events = true ∧ ((ofSpec spec).takeAll events).2 = session

theorem takeAll_append (session : Session κ ν) (first second : List (SessionEvent κ ν ε)) :
    session.takeAll (first ++ second) =
      ((session.takeAll first).1 ++ ((session.takeAll first).2.takeAll second).1,
        ((session.takeAll first).2.takeAll second).2) := by
  induction first generalizing session with
  | nil => rfl
  | cons event rest ih => simp only [List.cons_append, takeAll, ih, List.append_assoc]

theorem takeAll_uses (session : Session κ ν) (steps : List (MemoStep κ ν ε)) :
    session.takeAll (steps.map .use) =
      ((session.memo.performAll steps).1, { session with memo := (session.memo.performAll steps).2 }) := by
  induction steps generalizing session with
  | nil => rfl
  | cons step rest ih => simp only [List.map_cons, takeAll, ih, take, Memo.performAll]

/-- A computation is its beginning, what is done inside it and its end. -/
theorem take_compute_of_missed {key : κ} {ticket : Ticket κ} {started : Memo κ ν}
    (missed : session.memo.start key = (.miss ticket, started)) (during : List (MemoStep κ ν ε))
    (outcome : Except ε ν) :
    session.take (.use (.compute key during outcome)) =
      session.takeAll (.enter key :: during.map .use ++ [.leave outcome]) := by
  have own : ticket.key = key := by
    rcases session.memo.start_cases key with ⟨_, miss, _⟩ | ⟨_, _, _, _, hit, _⟩ | ⟨_, miss, _⟩
    · rw [missed] at miss
      cases miss
      rfl
    · rw [missed] at hit
      cases hit
    · rw [missed] at miss
      cases miss
      rfl
  rw [List.cons_append, takeAll]
  simp only [take, Memo.perform, missed, takeAll_append, takeAll_uses, takeAll, own, List.nil_append, List.append_nil]
  cases outcome <;> rfl

theorem take_tidy (tidy : session.memo.Tidy) (event : SessionEvent κ ν ε) : (session.take event).2.memo.Tidy := by
  cases event with
  | use step => exact Memo.Tidy.keptByUse.perform session.memo step tidy
  | enter key =>
    have started := tidy.start key
    rw [take]
    split <;> rename_i same <;> rwa [same] at started
  | leave outcome =>
    rw [take]
    split
    · exact tidy
    · rename_i ticket _ _
      cases outcome with
      | ok value => exact tidy.settle ticket value
      | error _ => exact Memo.Tidy.keptByUse.abandon _ ticket tidy

theorem takeAll_tidy (tidy : session.memo.Tidy) (events : List (SessionEvent κ ν ε)) :
    (session.takeAll events).2.memo.Tidy := by
  induction events generalizing session with
  | nil => exact tidy
  | cons event rest ih => exact ih (take_tidy tidy event)

theorem Reachable.tidy {spec : CacheSpec} (reachable : session.Reachable ε spec) (write : spec.expireAfterWrite = none)
    (access : spec.expireAfterAccess = none) (room : spec.maximumSize ≠ some 0) : session.memo.Tidy := by
  obtain ⟨events, _, rfl⟩ := reachable
  exact takeAll_tidy (.ofSpec write access room) events

/-- Values that are served come from outside or from computations, also when these end later on. -/
theorem supplied_take {source : ν → Prop} {records : List (MemoRecord κ ν ε)} (tidy : session.memo.Tidy)
    (supplied : Memo.Supplied source session.memo records) {event : SessionEvent κ ν ε}
    (permitted : session.permits event = true) :
    Memo.Supplied source (session.take event).2.memo (records ++ (session.take event).1) := by
  have kept := Memo.Supplied.keptByTrace (κ := κ) (ε := ε) source 0
  cases event with
  | use step => exact kept.perform session.memo tidy (Nat.zero_le _) step permitted supplied
  | enter key =>
    rcases tidy.find?_of_free (by simpa [permits] using permitted) with missing | ⟨slot, entry, found, state⟩
    · simp only [take, Memo.start_of_missing tidy.room missing, List.append_nil]
      exact kept.opened _ _ key tidy missing (Nat.zero_le _) supplied
    · simp only [take, Memo.start_of_settled tidy found state]
      exact kept.serve _ _ key slot entry _ tidy found state rfl supplied
  | leave outcome =>
    rw [take]
    split
    · simpa using supplied
    · exact supplied.finish _ outcome _

theorem supplied_takeAll {source : ν → Prop} {records : List (MemoRecord κ ν ε)} (tidy : session.memo.Tidy)
    (supplied : Memo.Supplied source session.memo records) {events : List (SessionEvent κ ν ε)}
    (permitted : session.permitsAll events = true) :
    Memo.Supplied source (session.takeAll events).2.memo (records ++ (session.takeAll events).1) := by
  induction events generalizing session records with
  | nil => simpa [takeAll] using supplied
  | cons event rest ih =>
    rw [permitsAll, Bool.and_eq_true] at permitted
    have first := supplied_take tidy supplied permitted.1
    have more := ih (take_tidy tidy event) first permitted.2
    rwa [List.append_assoc] at more

/-- What comes of a computation that uses the memo it is computed for. If its key is not invalidated meanwhile, its
value is there to be had right after it, and nothing is if it fails. If its key is invalidated, its value changes
nothing and is served to no one, and if it fails it leaves alone what was computed for the key since. -/
theorem compute_of_nested {spec : CacheSpec} (write : spec.expireAfterWrite = none)
    (access : spec.expireAfterAccess = none) (room : spec.maximumSize ≠ some 0) (reachable : session.Reachable ε spec)
    {key : κ} {ticket : Ticket κ} {started : Memo κ ν} (free : session.memo.isBusy key = false)
    (missed : session.memo.start key = (.miss ticket, started)) {during : List (MemoStep κ ν ε)}
    (proceeds : started.proceedsAll during = true) :
    let inner := (started.performAll during).1
    let ended := (started.performAll during).2
    let after (outcome : Except ε ν) := (session.memo.perform (.compute key during outcome)).2
    (¬ Invalidated key inner →
      (∀ value, ((after (.ok value)).get key).1 = some value) ∧ ∀ error, (after (.error error)).find? key = none) ∧
    (Invalidated key inner →
      (∀ value other, after (.ok value) = after (.ok other)) ∧
      (∀ value (events : List (SessionEvent κ ν ε)),
        let later : Session κ ν := { session with memo := after (.ok value) }
        later.permitsAll events = true → Sourced session.memo.Keeps (inner ++ (later.takeAll events).1)) ∧
      ∀ error, after (.error error) = ended ∧ ∀ slot, ended.find? key = some slot →
        ∃ kept, slot.state = .settled kept ∧ Renewed key kept.value inner) := by
  intro inner ended after
  have tidy := reachable.tidy write access room
  obtain ⟨missing, rfl⟩ := Memo.opened_of_missed tidy free missed
  have finished (outcome : Except ε ν) :
      after outcome = ended.finish ⟨key, some (session.memo.nextNumber + 1), session.memo.clock⟩ outcome :=
    congrArg Prod.snd (Memo.perform_compute_of_opened tidy.room missing during outcome)
  have tidyEnded : ended.Tidy := Memo.Tidy.keptByUse.performAll _ during (tidy.opened missing)
  have standing : Memo.Standing key (session.memo.nextNumber + 1) ended inner :=
    Memo.standing_performAll tidy missing proceeds
  cases standing with
  | own still present =>
    refine ⟨fun _ => ⟨fun value => ?_, fun error => ?_⟩, fun hit => absurd hit still⟩
    · rw [finished]
      exact Memo.get_settle_of_present tidyEnded present session.memo.clock value
    · rw [finished]
      exact Memo.find?_abandon_of_present tidyEnded present session.memo.clock
  | lost invalidated gone renewed =>
    refine ⟨fun still => absurd invalidated still, fun _ => ⟨fun value other => ?_, ?_, fun error => ⟨?_, ?_⟩⟩⟩
    · rw [finished, finished]
      exact (Memo.settle_of_gone gone key _ value).trans (Memo.settle_of_gone gone key _ other).symm
    · intro value events later permitted
      have inside := Memo.supplied_performAll tidy missing proceeds
      have kept : Memo.Supplied session.memo.Keeps later.memo inner := by
        refine inside.ofSubset ?_
        simp only [later, finished]
        exact Memo.settle_subset_of_gone gone key _ value
      have tidyLater : later.memo.Tidy := Memo.Tidy.keptByUse.perform session.memo _ tidy
      exact (supplied_takeAll tidyLater kept permitted).served
    · rw [finished]
      exact Memo.abandon_of_gone gone key session.memo.clock
    · intro slot found
      obtain ⟨kept, state⟩ := Memo.settled_of_gone tidy missing gone found
      obtain ⟨member, own⟩ := Memo.find?_mem found
      exact ⟨kept, state, renewed slot member own kept state⟩

/-- Inside of a computation for another key, a value is invalidated while it is computed and computed anew: whatever
the outer computation comes to, it is the inner value that is found. -/
theorem compute_of_nested_renewed :
    let session : Session String Nat :=
      ((ofSpec { CacheSpec.unbounded with maximumSize := some 1 }).takeAll
        [(.enter "b" : SessionEvent String Nat String)]).2
    let during : List (MemoStep String Nat String) := [.invalidate "a", .compute "a" [] (.ok 2)]
    let after (outcome : Except String Nat) := (session.memo.perform (.compute "a" during outcome)).2
    (session.underWay.map Ticket.key = ["b"] ∧ session.memo.isBusy "a" = false ∧
        (session.memo.start "a").2.proceedsAll during = true) ∧
      after (.ok 1) = after (.ok 3) ∧ ((after (.ok 1)).get "a").1 = some 2 ∧
        ((after (.error "no")).get "a").1 = some 2 := by
  intro session during after
  have reachable : session.Reachable String { CacheSpec.unbounded with maximumSize := some 1 } :=
    ⟨[.enter "b"], by decide, rfl⟩
  have free : session.memo.isBusy "a" = false := by decide
  have proceeds : (session.memo.start "a").2.proceedsAll during = true := by decide
  have missed : session.memo.start "a" = (.miss ⟨"a", some 2, 0⟩, (session.memo.start "a").2) := rfl
  have invalidated : Invalidated "a" ((session.memo.start "a").2.performAll during).1 :=
    ⟨_, List.mem_cons_self, by decide⟩
  have nested := (compute_of_nested rfl rfl (by decide) reachable free missed proceeds).2 invalidated
  exact ⟨⟨by decide, free, proceeds⟩, nested.1 1 3, by decide, by decide⟩

end Session
end FieldSelect
