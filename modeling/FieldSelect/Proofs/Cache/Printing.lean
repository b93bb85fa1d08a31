import FieldSelect.Cache.Spec
import FieldSelect.Proofs.Yields

/-! The text of a cache spec, read again. Durations are written in milliseconds, and those that 64 bits do not hold are
refused. -/
namespace FieldSelect

theorem pieces_eq_splitOn (mark : Char) (text : List Char) : pieces [mark] text = text.splitOn mark := by
  rw [pieces]
  induction text with
  | nil => rfl
  | cons c rest ih =>
    rw [piecesAfter, List.splitOn, List.splitOnP_cons_eq_if_modifyHead, ← List.splitOn]
    have found : [mark].isPrefixOf (c :: rest) = (c == mark) := by
      simp [List.isPrefixOf, Bool.beq_comm]
    rw [found]
    split
    · exact congrArg _ ih
    · obtain ⟨first, others, shape⟩ := List.exists_cons_of_ne_nil (List.splitOn_ne_nil mark rest)
      rw [ih, shape]
      rfl

theorem trimBlank_of_forall {text : List Char} (clean : ∀ c ∈ text, isBlank c = false) : trimBlank text = text := by
  have kept : ∀ shown : List Char, (∀ c ∈ shown, isBlank c = false) → shown.dropWhile isBlank = shown := by
    intro shown clean
    cases shown with
    | nil => rfl
    | cons c rest => simp [clean c List.mem_cons_self]
  rw [trimBlank, kept text clean, kept text.reverse fun c member => clean c (List.mem_reverse.mp member),
    List.reverse_reverse]

theorem splitOnce?_of_notMem {mark : Char} {before : List Char} (absent : mark ∉ before) (after : List Char) :
    splitOnce? mark (before ++ mark :: after) = some (before, after) := by
  induction before with
  | nil => simp [splitOnce?]
  | cons c rest ih =>
    obtain ⟨different, later⟩ := not_or.mp (mt List.mem_cons.mpr absent)
    simp [splitOnce?, ih later, Ne.symm different]

namespace CacheSpec

/-- A key with a number and its unit. -/
def written (key unit : String) (n : Nat) : List Char := key.toList ++ '=' :: (Nat.toDigits 10 n ++ unit.toList)

/-- The parts of the text of a spec. -/
def writtenParts (spec : CacheSpec) : List (List Char) :=
  spec.maximumSize.toList.map (written "maximumSize" "") ++
    spec.initialCapacity.toList.map (written "initialCapacity" "") ++
    spec.expireAfterAccess.toList.map (written "expireAfterAccess" "ms") ++
    spec.expireAfterWrite.toList.map (written "expireAfterWrite" "ms")

/-- A duration that 64 bits do not hold. -/
def tooLong? (duration : Option Nat) : Option Nat := duration.filter (largestCount < ·)

/-- The first such duration of a spec. -/
def overlong? (spec : CacheSpec) : Option Nat := (tooLong? spec.expireAfterAccess).or (tooLong? spec.expireAfterWrite)

/-! ### Writing -/

theorem toList_text (spec : CacheSpec) : spec.text.toList = [','].intercalate spec.writtenParts := by
  have part : ∀ key unit : String, ∀ value : Option Nat,
      (value.toList.map fun n => key ++ "=" ++ toString n ++ unit).map String.toList =
        value.toList.map (written key unit) := by
    intro key unit value
    cases value <;> simp [written]
  rw [text, String.toList_intercalate]
  simp only [List.map_append, part, writtenParts]
  rfl

/-- Neither a comma nor white space. -/
def isClean (c : Char) : Bool := c != ',' && !isBlank c

theorem isClean_of_isDigit {c : Char} (digit : c.isDigit = true) : isClean c = true := by
  have bounds : 48 ≤ c.toNat ∧ c.toNat ≤ 57 := by
    simpa [Char.isDigit, UInt32.le_iff_toNat_le] using digit
  have notComma : c ≠ ',' := by
    rintro rfl
    exact absurd bounds (by decide)
  have notBlank : isBlank c = false := by
    simp [isBlank, Stretch.anyHolds, blankRuns, Stretch.holds]
    omega
  simp [isClean, notComma, notBlank]

theorem isClean_of_mem_written {key unit : String} {n : Nat}
    (clean : (key.toList ++ '=' :: unit.toList).all isClean = true) {c : Char} (member : c ∈ written key unit n) :
    isClean c = true := by
  simp only [written, List.mem_append, List.mem_cons] at member
  simp only [List.all_eq_true, List.mem_append, List.mem_cons] at clean
  rcases member with named | rfl | digit | last
  · exact clean c (.inl named)
  · exact clean _ (.inr (.inl rfl))
  · exact isClean_of_isDigit (Nat.isDigit_of_mem_toDigits (by decide) (by decide) digit)
  · exact clean c (.inr (.inr last))

theorem isClean_of_mem_writtenParts {spec : CacheSpec} {part : List Char} (member : part ∈ spec.writtenParts) {c : Char}
    (inside : c ∈ part) : isClean c = true := by
  simp only [writtenParts, List.mem_append, List.mem_map] at member
  rcases member with ((⟨n, _, rfl⟩ | ⟨n, _, rfl⟩) | ⟨n, _, rfl⟩) | ⟨n, _, rfl⟩ <;>
    exact isClean_of_mem_written (by decide) inside

theorem trimBlank_of_isClean {text : List Char} (clean : ∀ c ∈ text, isClean c = true) : trimBlank text = text := by
  apply trimBlank_of_forall
  intro c member
  have both := clean c member
  simp only [isClean, Bool.and_eq_true, Bool.not_eq_true'] at both
  exact both.2

theorem parts_text (spec : CacheSpec) : parts spec.text = spec.writtenParts := by
  have separate : ∀ part ∈ spec.writtenParts, ',' ∉ part := by
    intro part member comma
    exact absurd (isClean_of_mem_writtenParts member comma) (by decide)
  have trimmed : ∀ part ∈ spec.writtenParts, trimBlank part = part := by
    intro part member
    apply trimBlank_of_isClean
    intro c inside
    exact isClean_of_mem_writtenParts member inside
  have nonempty : ∀ part ∈ spec.writtenParts, (!part.isEmpty) = true := by
    intro part member
    simp only [writtenParts, List.mem_append, List.mem_map] at member
    rcases member with ((⟨n, _, rfl⟩ | ⟨n, _, rfl⟩) | ⟨n, _, rfl⟩) | ⟨n, _, rfl⟩ <;> simp [written]
  rw [parts, pieces_eq_splitOn, toList_text]
  by_cases empty : spec.writtenParts = []
  · rw [empty]
    decide
  · rw [List.splitOn_intercalate ',' separate empty, List.map_congr_left trimmed, List.map_id',
      List.filter_eq_self.mpr nonempty]

/-! ### Reading -/

theorem readDigits?_toDigits (n : Nat) :
    readDigits? (Nat.toDigits 10 n) = if n ≤ largestCount then some n else none := by
  have digits : (Nat.toDigits 10 n).all Char.isDigit = true := by
    apply List.all_eq_true.mpr
    intro c member
    exact Nat.isDigit_of_mem_toDigits (by decide) (by decide) member
  have value : digitsValue (Nat.toDigits 10 n) = n := Nat.ofDigitChars_ten_toDigits
  simp [readDigits?, digits, value, Nat.toDigits_ne_nil]

theorem readCount_toString {n : Nat} (small : n ≤ largestCount) : readCount (toString n) = .ok n := by
  obtain ⟨c, rest, shape⟩ := List.exists_cons_of_ne_nil (Nat.toDigits_ne_nil (n := n) (b := 10))
  have digit : c.isDigit = true := by
    apply Nat.isDigit_of_mem_toDigits (b := 10) (n := n) (by decide) (by decide)
    rw [shape]
    exact List.mem_cons_self
  have unsigned : c ≠ '+' := by
    rintro rfl
    exact absurd digit (by decide)
  have read : readDigits? (c :: rest) = some n := by
    rw [← shape, readDigits?_toDigits, if_pos small]
  simp [readCount, shape, unsigned, read]

theorem readDuration_toString (n : Nat) :
    readDuration (toString n ++ "ms") =
      if n ≤ largestCount then .ok n else .error (.notDuration (toString n ++ "ms")) := by
  have digits : ∀ c ∈ Nat.toDigits 10 n, c.isDigit = true := by
    intro c member
    exact Nat.isDigit_of_mem_toDigits (by decide) (by decide) member
  have printed : (toString n ++ "ms").toList = Nat.toDigits 10 n ++ ['m', 's'] := by simp
  have taken : (Nat.toDigits 10 n ++ ['m', 's']).takeWhile Char.isDigit = Nat.toDigits 10 n := by
    rw [List.takeWhile_append_of_pos digits]
    simp
  have left : (Nat.toDigits 10 n ++ ['m', 's']).dropWhile Char.isDigit = ['m', 's'] := by
    rw [List.dropWhile_append_of_pos digits]
    rfl
  rw [readDuration, printed, taken, left, readDigits?_toDigits]
  by_cases small : n ≤ largestCount <;> simp [small]

variable {spec : CacheSpec} {n : Nat}

/-- A key and its value are told apart again. -/
theorem split_written (key unit : String) (named : '=' ∉ key.toList)
    (clean : (key.toList ++ '=' :: unit.toList).all isClean = true) (n : Nat) :
    ∃ before after, splitOnce? '=' (written key unit n) = some (before, after) ∧
      String.ofList (trimBlank before) = key ∧ String.ofList (trimBlank after) = toString n ++ unit := by
  refine ⟨_, _, splitOnce?_of_notMem named _, ?_, ?_⟩
  · rw [trimBlank_of_isClean, String.ofList_toList]
    intro c member
    exact isClean_of_mem_written (n := n) clean (List.mem_append_left _ member)
  · rw [trimBlank_of_isClean]
    · apply String.toList_inj.mp
      simp
    · intro c member
      exact isClean_of_mem_written clean (List.mem_append_right _ (List.mem_cons_of_mem _ member))

theorem once_none (key : String) (value : Except SpecFault Nat) (set : Option Nat → CacheSpec) :
    once key none value set = value.map fun n => set (some n) := rfl

theorem readPart_maximumSize (unset : spec.maximumSize = none) (small : n ≤ largestCount) :
    readPart spec (written "maximumSize" "" n) = .ok { spec with maximumSize := some n } := by
  obtain ⟨before, after, split, named, valued⟩ := split_written "maximumSize" "" (by decide) (by decide) n
  rw [String.append_empty] at valued
  simp only [readPart, split, named, valued, unset, once_none, readCount_toString small]
  rfl

theorem readPart_initialCapacity (unset : spec.initialCapacity = none) (small : n ≤ largestCount) :
    readPart spec (written "initialCapacity" "" n) = .ok { spec with initialCapacity := some n } := by
  obtain ⟨before, after, split, named, valued⟩ := split_written "initialCapacity" "" (by decide) (by decide) n
  rw [String.append_empty] at valued
  simp only [readPart, split, named, valued, unset, once_none, readCount_toString small]
  rfl

theorem readPart_expireAfterAccess (unset : spec.expireAfterAccess = none) (n : Nat) :
    readPart spec (written "expireAfterAccess" "ms" n) =
      if n ≤ largestCount then .ok { spec with expireAfterAccess := some n }
      else .error (.notDuration (toString n ++ "ms")) := by
  obtain ⟨before, after, split, named, valued⟩ := split_written "expireAfterAccess" "ms" (by decide) (by decide) n
  simp only [readPart, split, named, valued, unset, once_none, readDuration_toString]
  by_cases small : n ≤ largestCount <;> simp [small, Except.map]

theorem readPart_expireAfterWrite (unset : spec.expireAfterWrite = none) (n : Nat) :
    readPart spec (written "expireAfterWrite" "ms" n) =
      if n ≤ largestCount then .ok { spec with expireAfterWrite := some n }
      else .error (.notDuration (toString n ++ "ms")) := by
  obtain ⟨before, after, split, named, valued⟩ := split_written "expireAfterWrite" "ms" (by decide) (by decide) n
  simp only [readPart, split, named, valued, unset, once_none, readDuration_toString]
  by_cases small : n ≤ largestCount <;> simp [small, Except.map]

theorem foldlM_written {value : Option Nat} {result : Except SpecFault CacheSpec}
    (unset : value = none → result = .ok spec)
    (set : ∀ n, value = some n → readPart spec (written key unit n) = result) :
    (value.toList.map (written key unit)).foldlM readPart spec = result := by
  cases value with
  | none => exact (unset rfl).symm
  | some n =>
    have read := set n rfl
    simp only [Option.toList_some, List.map_cons, List.map_nil, List.foldlM_cons, List.foldlM_nil, read]
    cases result <;> rfl

/-! ### Counts -/

/-- Counts are held by 64 bits, as those that are read are. -/
structure Counted (spec : CacheSpec) : Prop where
  size : ∀ n ∈ spec.maximumSize, n ≤ largestCount
  capacity : ∀ n ∈ spec.initialCapacity, n ≤ largestCount

theorem le_of_readDigits? {text : List Char} (read : readDigits? text = some n) : n ≤ largestCount := by
  rw [readDigits?] at read
  split at read
  · cases read
  · split at read <;> cases read
    assumption

theorem le_of_readCount {text : String} (read : readCount text = .ok n) : n ≤ largestCount := by
  rw [readCount] at read
  split at read
  · rename_i digits
    cases read
    exact le_of_readDigits? digits
  · cases read

theorem exists_of_once {key : String} {current : Option Nat} {value : Except SpecFault Nat}
    {set : Option Nat → CacheSpec} {after : CacheSpec} (done : once key current value set = .ok after) :
    ∃ n, value = .ok n ∧ after = set (some n) := by
  rw [once] at done
  split at done
  · cases done
  · cases value with
    | ok n =>
      cases done
      exact ⟨n, rfl, rfl⟩
    | error fault => cases done

theorem Counted.readPart (counted : spec.Counted) {part : List Char} {after : CacheSpec}
    (read : CacheSpec.readPart spec part = .ok after) : after.Counted := by
  rw [CacheSpec.readPart] at read
  split at read
  · cases read
  · dsimp only at read
    split at read
    · obtain ⟨n, value, rfl⟩ := exists_of_once read
      refine ⟨?_, counted.capacity⟩
      rintro _ ⟨⟩
      exact le_of_readCount value
    · obtain ⟨n, value, rfl⟩ := exists_of_once read
      refine ⟨counted.size, ?_⟩
      rintro _ ⟨⟩
      exact le_of_readCount value
    · obtain ⟨n, _, rfl⟩ := exists_of_once read
      exact ⟨counted.size, counted.capacity⟩
    · obtain ⟨n, _, rfl⟩ := exists_of_once read
      exact ⟨counted.size, counted.capacity⟩
    · cases read

theorem Counted.foldlM (counted : spec.Counted) {parts : List (List Char)} {after : CacheSpec}
    (read : parts.foldlM CacheSpec.readPart spec = .ok after) : after.Counted := by
  induction parts generalizing spec with
  | nil =>
    cases read
    exact counted
  | cons part rest ih =>
    obtain ⟨next, first, later⟩ := exists_of_bind_eq_ok read
    exact ih (counted.readPart first) later

theorem counted_of_read {text : String} (read : CacheSpec.read text = .ok spec) : spec.Counted := by
  rw [CacheSpec.read] at read
  cases result : (parts text).foldlM readPart unbounded with
  | ok after =>
    rw [result] at read
    cases read
    have unset : unbounded.Counted := ⟨by simp [unbounded], by simp [unbounded]⟩
    exact unset.foldlM result
  | error fault =>
    rw [result] at read
    cases read

/-! ### Printed and read again -/

theorem tooLong?_some (n : Nat) : tooLong? (some n) = if n ≤ largestCount then none else some n := by
  by_cases small : n ≤ largestCount
  · simp [tooLong?, Option.filter, small, Nat.not_lt.mpr small]
  · simp [tooLong?, Option.filter, small, Nat.not_le.mp small]

theorem overlong?_eq_none :
    spec.overlong? = none ↔
      (∀ n ∈ spec.expireAfterAccess, n ≤ largestCount) ∧ ∀ n ∈ spec.expireAfterWrite, n ≤ largestCount := by
  simp [overlong?, tooLong?]

theorem foldlM_written_duration {value : Option Nat} {after : CacheSpec} (unset : value = none → after = spec)
    (set : ∀ n, value = some n → readPart spec (written key "ms" n) =
      if n ≤ largestCount then .ok after else .error (.notDuration (toString n ++ "ms"))) :
    (value.toList.map (written key "ms")).foldlM readPart spec =
      match tooLong? value with
      | none => .ok after
      | some n => .error (.notDuration (toString n ++ "ms")) := by
  apply foldlM_written
  · rintro rfl
    rw [unset rfl]
    rfl
  · rintro n rfl
    rw [set n rfl, tooLong?_some]
    by_cases small : n ≤ largestCount <;> simp [small]

theorem read_text_of_counted (counted : spec.Counted) :
    read spec.text =
      match spec.overlong? with
      | none => .ok spec
      | some n => .error ⟨spec.text, .notDuration (toString n ++ "ms")⟩ := by
  obtain ⟨size, capacity, access, write⟩ := spec
  have sized : (size.toList.map (written "maximumSize" "")).foldlM readPart unbounded =
      .ok ⟨size, none, none, none⟩ := by
    apply foldlM_written
    · rintro rfl
      rfl
    · rintro n rfl
      exact readPart_maximumSize rfl (counted.size n rfl)
  have held : (capacity.toList.map (written "initialCapacity" "")).foldlM readPart ⟨size, none, none, none⟩ =
      .ok ⟨size, capacity, none, none⟩ := by
    apply foldlM_written
    · rintro rfl
      rfl
    · rintro n rfl
      exact readPart_initialCapacity rfl (counted.capacity n rfl)
  have accessed : (access.toList.map (written "expireAfterAccess" "ms")).foldlM readPart ⟨size, capacity, none, none⟩ =
      match tooLong? access with
      | none => .ok ⟨size, capacity, access, none⟩
      | some n => .error (.notDuration (toString n ++ "ms")) := by
    apply foldlM_written_duration
    · rintro rfl
      rfl
    · rintro n rfl
      exact readPart_expireAfterAccess rfl n
  have last : (write.toList.map (written "expireAfterWrite" "ms")).foldlM readPart ⟨size, capacity, access, none⟩ =
      match tooLong? write with
      | none => .ok ⟨size, capacity, access, write⟩
      | some n => .error (.notDuration (toString n ++ "ms")) := by
    apply foldlM_written_duration
    · rintro rfl
      rfl
    · rintro n rfl
      exact readPart_expireAfterWrite rfl n
  rw [read, parts_text, writtenParts, List.foldlM_append, List.foldlM_append, List.foldlM_append, sized]
  simp only [bind, Except.bind, held, accessed, overlong?]
  cases tooLong? access with
  | some n => rfl
  | none =>
    simp only [last, Option.none_or]
    cases tooLong? write <;> rfl

/-- What is read of a text is read again of its own text, unless one of its durations is more than 64 bits hold of
milliseconds: the first such one is refused. -/
theorem read_text {text : String} (accepted : read text = .ok spec) :
    (read spec.text =
      match spec.overlong? with
      | none => .ok spec
      | some n => .error ⟨spec.text, .notDuration (toString n ++ "ms")⟩) ∧
    (read spec.text = .ok spec ↔
      (∀ n ∈ spec.expireAfterAccess, n ≤ largestCount) ∧ ∀ n ∈ spec.expireAfterWrite, n ≤ largestCount) := by
  have again := read_text_of_counted (counted_of_read accepted)
  apply And.intro again
  rw [← overlong?_eq_none, again]
  cases spec.overlong? <;> simp

theorem read_text_of_mixedUnits :
    let spec : CacheSpec := ⟨some 500, some 16, some 600000, some 250⟩
    read " expireAfterWrite=250ms,maximumSize=+500, expireAfterAccess = 10m,initialCapacity=016," = .ok spec ∧
      spec.text = "maximumSize=500,initialCapacity=16,expireAfterAccess=600000ms,expireAfterWrite=250ms" ∧
      read spec.text = .ok spec := by
  intro spec
  have accepted : read " expireAfterWrite=250ms,maximumSize=+500, expireAfterAccess = 10m,initialCapacity=016," =
      .ok spec := by rfl
  apply And.intro accepted
  constructor
  · cbv
  · apply (read_text accepted).2.mpr
    constructor
    · rintro n ⟨⟩
      decide
    · rintro n ⟨⟩
      decide

/-- So many days are read, and then refused as milliseconds. -/
theorem read_text_refused_of_days :
    let spec : CacheSpec := ⟨none, none, none, some 18446744073744000000⟩
    read "expireAfterWrite=213503982335d" = .ok spec ∧
      read spec.text = .error ⟨"expireAfterWrite=18446744073744000000ms", .notDuration "18446744073744000000ms"⟩ := by
  intro spec
  have accepted : (read "expireAfterWrite=213503982335d").toOption = some spec := by decide +kernel
  have printed : spec.text = "expireAfterWrite=18446744073744000000ms" := by cbv
  have overlong : spec.overlong? = some 18446744073744000000 := by decide
  constructor
  · cases result : read "expireAfterWrite=213503982335d" with
    | ok read =>
      rw [result] at accepted
      cases accepted
      rfl
    | error error =>
      rw [result] at accepted
      cases accepted
  · have counted : spec.Counted := ⟨nofun, nofun⟩
    have again := read_text_of_counted counted
    rw [overlong, printed] at again
    exact printed ▸ again

end CacheSpec
end FieldSelect
