import FieldSelect.Proofs.Cache.Printing
import Mathlib.Data.List.Forall2
import Mathlib.Data.List.Perm.Basic
import Mathlib.Data.List.TakeWhile

/-! Which texts are cache specs, and of what. The parts between commas count and not their order: each of them sets
something of its own, to what its value says. -/
namespace FieldSelect

/-! ### Texts cut apart -/

theorem splitOnce?_eq_some_iff {mark : Char} {text before after : List Char} :
    splitOnce? mark text = some (before, after) ↔ text = before ++ mark :: after ∧ mark ∉ before := by
  constructor
  · intro found
    have shape := splitOnce?_append found
    refine ⟨shape, fun inside => ?_⟩
    -- The text would be cut further on the left.
    obtain ⟨front, back, rfl, absent⟩ := List.eq_append_cons_of_mem inside
    rw [shape, List.append_assoc, List.cons_append, splitOnce?_of_notMem absent] at found
    have sooner : front = front ++ mark :: back := congrArg Prod.fst (Option.some.inj found)
    simp at sooner
  · rintro ⟨rfl, absent⟩
    exact splitOnce?_of_notMem absent after

theorem notMem_of_mem_splitOn {mark : Char} {text piece : List Char} (member : piece ∈ text.splitOn mark) :
    mark ∉ piece := by
  induction text generalizing piece with
  | nil =>
    rw [List.splitOn_nil, List.mem_singleton] at member
    rw [member]
    exact List.not_mem_nil
  | cons c rest ih =>
    rw [List.splitOn_cons_eq_if_modifyHead] at member
    split at member
    · rcases List.mem_cons.mp member with rfl | later
      · exact List.not_mem_nil
      · exact ih later
    · rename_i different
      obtain ⟨first, others, shape⟩ := List.exists_cons_of_ne_nil (List.splitOn_ne_nil mark rest)
      rw [shape] at member ih
      rcases List.mem_cons.mp member with rfl | later
      · rw [List.mem_cons]
        rintro (rfl | inside)
        · exact different (beq_self_eq_true mark)
        · exact ih List.mem_cons_self inside
      · exact ih (List.mem_cons_of_mem first later)

/-- What a cache spec can set. -/
inductive SpecKey where
  | maximumSize
  | initialCapacity
  | expireAfterAccess
  | expireAfterWrite
  deriving DecidableEq

def SpecKey.name : SpecKey → String
  | .maximumSize => "maximumSize"
  | .initialCapacity => "initialCapacity"
  | .expireAfterAccess => "expireAfterAccess"
  | .expireAfterWrite => "expireAfterWrite"

namespace CacheSpec

/-! ### What texts say -/

/-- Decimal digits of a number that 64 bits hold. -/
structure Amount (digits : List Char) (n : Nat) : Prop where
  nonempty : digits ≠ []
  decimal : ∀ c ∈ digits, c.isDigit = true
  value : Nat.ofDigitChars 10 digits 0 = n
  held : n ≤ largestCount

/-- A count is an amount, and a plus sign may stand in front of it. -/
inductive Count : List Char → Nat → Prop where
  | bare {digits : List Char} {n : Nat} (amount : Amount digits n) : Count digits n
  | signed {digits : List Char} {n : Nat} (amount : Amount digits n) : Count ('+' :: digits) n

/-- How many milliseconds so many of a unit are. Minutes, hours and days go no further than 64 bits hold of seconds. -/
inductive Scales (amount : Nat) : List Char → Nat → Prop where
  | milliseconds : Scales amount ['m', 's'] amount
  | unnamed : Scales amount [] (1000 * amount)
  | seconds : Scales amount ['s'] (1000 * amount)
  | minutes : Scales amount ['m'] (1000 * min (amount * 60) largestCount)
  | hours : Scales amount ['h'] (1000 * min (amount * 3600) largestCount)
  | days : Scales amount ['d'] (1000 * min (amount * 86400) largestCount)

/-- A duration is an amount of a unit. -/
def Lasts (text : List Char) (n : Nat) : Prop :=
  ∃ digits unit amount, text = digits ++ unit ∧ Amount digits amount ∧ Scales amount unit n

/-- Counts bound a cache, and durations are for what expires. -/
def Says : SpecKey → List Char → Nat → Prop
  | .maximumSize, value, n => Count value n
  | .initialCapacity, value, n => Count value n
  | .expireAfterAccess, value, n => Lasts value n
  | .expireAfterWrite, value, n => Lasts value n

/-- The part has the key before its first equals sign and the value behind it, whatever white space is around them. -/
def Sets (part : List Char) (key : SpecKey) (n : Nat) : Prop :=
  ∃ before after, part = before ++ '=' :: after ∧ '=' ∉ before ∧ trimBlank before = key.name.toList ∧
    Says key (trimBlank after) n

/-- What stands between commas, without white space around it. What is nothing but white space is no part. -/
def Listed (text : String) (parts : List (List Char)) : Prop :=
  ∃ cut : List (List Char), cut ≠ [] ∧ (∀ piece ∈ cut, ',' ∉ piece) ∧ text.toList = [','].intercalate cut ∧
    parts = (cut.map trimBlank).filter (· ≠ [])

/-- Each part sets something, and no two of them the same. -/
structure Settles (parts : List (List Char)) (settings : List (SpecKey × Nat)) : Prop where
  sets : List.Forall₂ (fun part setting => Sets part setting.1 setting.2) parts settings
  once : (settings.map (·.1)).Nodup

def setting? (spec : CacheSpec) : SpecKey → Option Nat
  | .maximumSize => spec.maximumSize
  | .initialCapacity => spec.initialCapacity
  | .expireAfterAccess => spec.expireAfterAccess
  | .expireAfterWrite => spec.expireAfterWrite

/-- The spec is set in this way and in no other. -/
def Holds (spec : CacheSpec) (settings : List (SpecKey × Nat)) : Prop :=
  ∀ key n, spec.setting? key = some n ↔ (key, n) ∈ settings

/-! ### Values -/

variable {text : String} {n : Nat}

theorem readDigits?_eq_some_iff {digits : List Char} : readDigits? digits = some n ↔ Amount digits n := by
  rw [readDigits?]
  split
  · rename_i refused
    refine iff_of_false (Option.some_ne_none n).symm fun amount => ?_
    rcases Bool.or_eq_true_iff.mp refused with empty | other
    · exact amount.nonempty (List.isEmpty_iff.mp empty)
    · simp [List.all_eq_true.mpr amount.decimal] at other
  · rename_i accepted
    obtain ⟨nonempty, digit⟩ : digits ≠ [] ∧ ∀ c ∈ digits, c.isDigit = true := by
      simpa [List.isEmpty_iff] using accepted
    split
    · rename_i held
      constructor
      · intro same
        cases same
        exact ⟨nonempty, digit, rfl, held⟩
      · intro amount
        exact congrArg some amount.value
    · rename_i wide
      refine iff_of_false (Option.some_ne_none n).symm fun amount => wide ?_
      have value : digitsValue digits = n := amount.value
      rw [value]
      exact amount.held

theorem not_amount_plus {digits : List Char} : ¬ Amount ('+' :: digits) n := by
  intro amount
  exact absurd (amount.decimal '+' List.mem_cons_self) (by decide)

/-- What is left of a count without its plus sign. -/
def unsigned : List Char → List Char
  | '+' :: rest => rest
  | rest => rest

theorem count_iff {value : List Char} : Count value n ↔ Amount (unsigned value) n := by
  rw [unsigned.eq_def]
  split
  · rename_i digits
    constructor
    · intro count
      cases count with
      | bare amount => exact absurd amount not_amount_plus
      | signed amount => exact amount
    · exact .signed
  · rename_i other
    constructor
    · intro count
      cases count with
      | bare amount => exact amount
      | signed amount => exact absurd rfl (other _)
    · exact .bare

theorem readCount_eq_ok_iff : readCount text = .ok n ↔ Count text.toList n := by
  rw [count_iff, ← readDigits?_eq_some_iff, readCount]
  split
  · rename_i m read
    change readDigits? (unsigned text.toList) = some m at read
    rw [read, Except.ok.injEq, Option.some.injEq]
  · rename_i read
    change readDigits? (unsigned text.toList) = none at read
    rw [read]
    constructor <;> rintro ⟨⟩

theorem ofList_eq_iff {chars : List Char} : String.ofList chars = text ↔ chars = text.toList := by
  rw [← String.toList_inj, String.toList_ofList]

theorem scales_of_secondsIn? {unit : List Char} {seconds : Nat} (long : secondsIn? (String.ofList unit) = some seconds)
    (amount : Nat) : Scales amount unit (1000 * min (amount * seconds) largestCount) := by
  rw [secondsIn?.eq_def] at long
  split at long <;> cases long <;> rename_i named <;> rw [ofList_eq_iff.mp named]
  · exact .minutes
  · exact .hours
  · exact .days

/-- No unit begins with a digit. -/
theorem span_of_lasts {digits unit : List Char} {amount : Nat} (decimal : Amount digits amount)
    (scales : Scales amount unit n) :
    (digits ++ unit).takeWhile Char.isDigit = digits ∧ (digits ++ unit).dropWhile Char.isDigit = unit := by
  rw [List.takeWhile_append_of_pos decimal.decimal, List.dropWhile_append_of_pos decimal.decimal]
  cases scales <;> exact ⟨List.append_nil digits, rfl⟩

theorem readDuration_eq_ok_iff : readDuration text = .ok n ↔ Lasts text.toList n := by
  constructor
  · intro read
    rw [readDuration] at read
    split at read
    · cases read
    · rename_i amount digits
      refine ⟨_, _, amount, List.takeWhile_append_dropWhile.symm, readDigits?_eq_some_iff.mp digits, ?_⟩
      generalize text.toList.dropWhile Char.isDigit = unit at read
      split at read
      · rename_i named
        cases read
        rw [ofList_eq_iff.mp named]
        exact .milliseconds
      · split at read
        · rename_i named
          cases read
          rcases named with named | named <;> rw [ofList_eq_iff.mp named]
          · exact .unnamed
          · exact .seconds
        · split at read
          · rename_i long
            cases read
            exact scales_of_secondsIn? long amount
          · cases read
  · rintro ⟨digits, unit, amount, shape, decimal, scales⟩
    obtain ⟨taken, left⟩ := span_of_lasts decimal scales
    rw [readDuration, shape, taken, left, readDigits?_eq_some_iff.mpr decimal]
    cases scales <;> rfl

/-! ### Parts -/

variable {spec after : CacheSpec} {key : SpecKey} {part : List Char}

def assign (spec : CacheSpec) (key : SpecKey) (value : Option Nat) : CacheSpec :=
  match key with
  | .maximumSize => { spec with maximumSize := value }
  | .initialCapacity => { spec with initialCapacity := value }
  | .expireAfterAccess => { spec with expireAfterAccess := value }
  | .expireAfterWrite => { spec with expireAfterWrite := value }

theorem setting?_assign (spec : CacheSpec) (key other : SpecKey) (value : Option Nat) :
    (spec.assign key value).setting? other = if other = key then value else spec.setting? other := by
  cases key <;> cases other <;> rfl

theorem eq_of_setting? (same : ∀ key, spec.setting? key = after.setting? key) : spec = after := by
  obtain ⟨size, capacity, access, write⟩ := spec
  obtain ⟨size', capacity', access', write'⟩ := after
  obtain rfl : size = size' := same .maximumSize
  obtain rfl : capacity = capacity' := same .initialCapacity
  obtain rfl : access = access' := same .expireAfterAccess
  obtain rfl : write = write' := same .expireAfterWrite
  rfl

def readAs : SpecKey → String → Except SpecFault Nat
  | .maximumSize, value => readCount value
  | .initialCapacity, value => readCount value
  | .expireAfterAccess, value => readDuration value
  | .expireAfterWrite, value => readDuration value

theorem readAs_eq_ok_iff : readAs key text = .ok n ↔ Says key text.toList n := by
  cases key
  · exact readCount_eq_ok_iff
  · exact readCount_eq_ok_iff
  · exact readDuration_eq_ok_iff
  · exact readDuration_eq_ok_iff

theorem once_eq_ok_iff {name : String} {current : Option Nat} {value : Except SpecFault Nat}
    {set : Option Nat → CacheSpec} :
    once name current value set = .ok after ↔ current = none ∧ ∃ n, value = .ok n ∧ after = set (some n) := by
  constructor
  · intro done
    refine ⟨?_, exists_of_once done⟩
    cases current with
    | none => rfl
    | some earlier => cases done
  · rintro ⟨rfl, n, rfl, rfl⟩
    rfl

theorem readPart_of_named {before value : List Char} (cut : splitOnce? '=' part = some (before, value))
    (named : trimBlank before = key.name.toList) :
    readPart spec part =
      once key.name (spec.setting? key) (readAs key (String.ofList (trimBlank value))) (spec.assign key) := by
  simp only [readPart, cut, named, String.ofList_toList]
  cases key <;> rfl

theorem exists_key_of_readPart (read : readPart spec part = .ok after) :
    ∃ (before value : List Char) (key : SpecKey),
      splitOnce? '=' part = some (before, value) ∧ trimBlank before = key.name.toList := by
  rw [readPart] at read
  split at read
  · cases read
  · rename_i before value cut
    dsimp only at read
    split at read
    · rename_i named
      exact ⟨before, value, .maximumSize, cut, ofList_eq_iff.mp named⟩
    · rename_i named
      exact ⟨before, value, .initialCapacity, cut, ofList_eq_iff.mp named⟩
    · rename_i named
      exact ⟨before, value, .expireAfterAccess, cut, ofList_eq_iff.mp named⟩
    · rename_i named
      exact ⟨before, value, .expireAfterWrite, cut, ofList_eq_iff.mp named⟩
    · cases read

/-- A part is read where it sets what is not set yet. -/
theorem readPart_eq_ok_iff :
    readPart spec part = .ok after ↔
      ∃ key n, Sets part key n ∧ spec.setting? key = none ∧ after = spec.assign key (some n) := by
  constructor
  · intro read
    obtain ⟨before, value, key, cut, named⟩ := exists_key_of_readPart read
    rw [readPart_of_named cut named] at read
    obtain ⟨unset, n, meant, assigned⟩ := once_eq_ok_iff.mp read
    rw [readAs_eq_ok_iff, String.toList_ofList] at meant
    obtain ⟨shape, absent⟩ := splitOnce?_eq_some_iff.mp cut
    exact ⟨key, n, ⟨before, value, shape, absent, named, meant⟩, unset, assigned⟩
  · rintro ⟨key, n, ⟨before, value, shape, absent, named, meant⟩, unset, assigned⟩
    rw [readPart_of_named (splitOnce?_eq_some_iff.mpr ⟨shape, absent⟩) named]
    refine once_eq_ok_iff.mpr ⟨unset, n, ?_, assigned⟩
    rw [readAs_eq_ok_iff, String.toList_ofList]
    exact meant

/-! ### Part after part -/

variable {settings : List (SpecKey × Nat)}

def assignAll (spec : CacheSpec) (settings : List (SpecKey × Nat)) : CacheSpec :=
  settings.foldl (fun spec setting => spec.assign setting.1 (some setting.2)) spec

/-- Each of the settings in turn finds its key unset. -/
def Open (spec : CacheSpec) : List (SpecKey × Nat) → Prop
  | [] => True
  | (key, n) :: later => spec.setting? key = none ∧ (spec.assign key (some n)).Open later

theorem open_iff :
    spec.Open settings ↔ (settings.map (·.1)).Nodup ∧ ∀ setting ∈ settings, spec.setting? setting.1 = none := by
  induction settings generalizing spec with
  | nil => simp [Open]
  | cons setting later ih =>
    obtain ⟨key, n⟩ := setting
    have apart : (∀ other ∈ later, (spec.assign key (some n)).setting? other.1 = none) ↔
        key ∉ later.map (·.1) ∧ ∀ other ∈ later, spec.setting? other.1 = none := by
      simp only [setting?_assign, List.mem_map, not_exists, not_and]
      constructor
      · intro unset
        constructor
        · rintro other member rfl
          simpa using unset other member
        · intro other member
          have left := unset other member
          split at left
          · cases left
          · exact left
      · rintro ⟨different, unset⟩ other member
        rw [if_neg (different other member)]
        exact unset other member
    rw [Open, ih, apart, List.map_cons, List.nodup_cons, List.forall_mem_cons]
    tauto

theorem foldlM_readPart_eq_ok_iff {parts : List (List Char)} :
    parts.foldlM readPart spec = .ok after ↔
      ∃ settings, List.Forall₂ (fun part setting => Sets part setting.1 setting.2) parts settings ∧
        spec.Open settings ∧ after = spec.assignAll settings := by
  induction parts generalizing spec with
  | nil =>
    constructor
    · rintro ⟨⟩
      exact ⟨[], .nil, trivial, rfl⟩
    · rintro ⟨settings, ⟨⟩, -, rfl⟩
      rfl
  | cons part rest ih =>
    rw [List.foldlM_cons]
    constructor
    · intro read
      obtain ⟨next, first, later⟩ := exists_of_bind_eq_ok read
      obtain ⟨key, n, sets, unset, rfl⟩ := readPart_eq_ok_iff.mp first
      obtain ⟨settings, others, rests, rfl⟩ := ih.mp later
      exact ⟨(key, n) :: settings, .cons sets others, ⟨unset, rests⟩, rfl⟩
    · rintro ⟨settings, sets, opens, rfl⟩
      cases sets with
      | @cons _ setting _ settings sets others =>
        obtain ⟨key, n⟩ := setting
        rw [readPart_eq_ok_iff.mpr ⟨key, n, sets, opens.1, rfl⟩]
        exact ih.mpr ⟨settings, others, opens.2, rfl⟩

theorem setting?_assignAll (opens : spec.Open settings) :
    (spec.assignAll settings).setting? key = some n ↔ spec.setting? key = some n ∨ (key, n) ∈ settings := by
  induction settings generalizing spec with
  | nil => simp [assignAll]
  | cons setting later ih =>
    obtain ⟨own, value⟩ := setting
    obtain ⟨unset, rest⟩ := opens
    change ((spec.assign own (some value)).assignAll later).setting? key = some n ↔ _
    rw [ih rest, setting?_assign, List.mem_cons, Prod.mk.injEq]
    by_cases same : key = own
    · subst same
      simp [unset, eq_comm]
    · simp [same]

theorem Holds.unique (holds : spec.Holds settings) (too : after.Holds settings) : spec = after := by
  apply eq_of_setting?
  intro key
  apply Option.ext
  intro n
  exact (holds key n).trans (too key n).symm

/-! ### Whole texts -/

theorem isEmpty_parts (part : List Char) : (!part.isEmpty) = decide (part ≠ []) := by
  cases part <;> rfl

theorem listed_iff {text : String} {ps : List (List Char)} : Listed text ps ↔ ps = parts text := by
  have filtered : ∀ cut : List (List Char), (cut.map trimBlank).filter (fun part => !part.isEmpty) =
      (cut.map trimBlank).filter (· ≠ []) := by
    intro cut
    exact List.filter_congr fun part _ => isEmpty_parts part
  rw [parts, pieces_eq_splitOn, filtered]
  constructor
  · rintro ⟨cut, some, apart, joined, rfl⟩
    rw [joined, List.splitOn_intercalate ',' apart some]
  · rintro rfl
    exact ⟨_, List.splitOn_ne_nil ',' _, fun piece => notMem_of_mem_splitOn,
      (List.intercalate_splitOn ',').symm, rfl⟩

theorem read_eq_ok_iff : read text = .ok spec ↔ (parts text).foldlM readPart unbounded = .ok spec := by
  rw [read]
  cases (parts text).foldlM readPart unbounded <;> simp [Except.mapError]

theorem open_unbounded_iff : unbounded.Open settings ↔ (settings.map (·.1)).Nodup := by
  rw [open_iff, and_iff_left]
  intro setting _
  cases setting.1 <;> rfl

theorem holds_assignAll (opens : unbounded.Open settings) : (unbounded.assignAll settings).Holds settings := by
  intro key n
  rw [setting?_assignAll opens, or_iff_right]
  cases key <;> exact Option.some_ne_none n ∘ Eq.symm

theorem read_iff_settles :
    read text = .ok spec ↔ ∃ settings, Settles (parts text) settings ∧ spec.Holds settings := by
  rw [read_eq_ok_iff, foldlM_readPart_eq_ok_iff]
  constructor
  · rintro ⟨settings, sets, opens, rfl⟩
    exact ⟨settings, ⟨sets, open_unbounded_iff.mp opens⟩, holds_assignAll opens⟩
  · rintro ⟨settings, ⟨sets, once⟩, holds⟩
    have opens := open_unbounded_iff.mpr once
    exact ⟨settings, sets, opens, holds.unique (holds_assignAll opens)⟩

theorem Settles.exists_holds {parts : List (List Char)} (settles : Settles parts settings) :
    ∃ spec : CacheSpec, spec.Holds settings :=
  ⟨_, holds_assignAll (open_unbounded_iff.mpr settles.once)⟩

theorem Holds.perm {other : List (SpecKey × Nat)} (holds : spec.Holds settings) (perm : settings.Perm other) :
    spec.Holds other :=
  fun key n => (holds key n).trans perm.mem_iff

/-- The order of the parts only orders what they set. -/
theorem Settles.perm {parts reordered : List (List Char)} (settles : Settles parts settings)
    (perm : reordered.Perm parts) : ∃ moved, Settles reordered moved ∧ settings.Perm moved := by
  obtain ⟨moved, sets, same⟩ := List.perm_comp_forall₂ perm settles.sets
  exact ⟨moved, ⟨sets, (same.map (·.1)).nodup_iff.mpr settles.once⟩, same.symm⟩

theorem read_of_perm {other : String} (perm : (parts other).Perm (parts text)) (accepted : read text = .ok spec) :
    read other = .ok spec := by
  obtain ⟨settings, settles, holds⟩ := read_iff_settles.mp accepted
  obtain ⟨moved, settles, same⟩ := settles.perm perm
  exact read_iff_settles.mpr ⟨moved, settles, holds.perm same⟩

/-- A text is read where every part of it sets something and no two the same, and the spec has those settings and no
others. Parts in another order are read as the same spec, or neither text is read. -/
theorem read_orderFree (text : String) :
    (∀ spec, read text = .ok spec ↔
      ∃ parts settings, Listed text parts ∧ Settles parts settings ∧ spec.Holds settings) ∧
    ((∃ spec, read text = .ok spec) ↔ ∃ parts settings, Listed text parts ∧ Settles parts settings) ∧
    ∀ other parts reordered, Listed text parts → Listed other reordered → reordered.Perm parts →
      ∀ spec, read other = .ok spec ↔ read text = .ok spec := by
  have rule : ∀ spec, read text = .ok spec ↔
      ∃ parts settings, Listed text parts ∧ Settles parts settings ∧ spec.Holds settings := by
    intro spec
    simp only [listed_iff, exists_and_left, exists_eq_left]
    exact read_iff_settles
  refine ⟨rule, ?_, ?_⟩
  · constructor
    · rintro ⟨spec, accepted⟩
      obtain ⟨parts, settings, listed, settles, -⟩ := (rule spec).mp accepted
      exact ⟨parts, settings, listed, settles⟩
    · rintro ⟨parts, settings, listed, settles⟩
      obtain ⟨spec, holds⟩ := settles.exists_holds
      exact ⟨spec, (rule spec).mpr ⟨parts, settings, listed, settles, holds⟩⟩
  · intro other _ _ listed relisted perm spec
    obtain rfl := listed_iff.mp listed
    obtain rfl := listed_iff.mp relisted
    exact ⟨read_of_perm perm.symm, read_of_perm perm⟩

/-- Neither the order nor white space nor a comma too many matters. -/
theorem read_orderFree_of_swapped :
    Listed "expireAfterWrite=10m,maximumSize=+500" ["expireAfterWrite=10m".toList, "maximumSize=+500".toList] ∧
    Listed " maximumSize=+500 ,, expireAfterWrite=10m" ["maximumSize=+500".toList, "expireAfterWrite=10m".toList] ∧
    read "expireAfterWrite=10m,maximumSize=+500" = .ok ⟨some 500, none, none, some 600000⟩ ∧
    read " maximumSize=+500 ,, expireAfterWrite=10m" = .ok ⟨some 500, none, none, some 600000⟩ := by
  have listed : Listed "expireAfterWrite=10m,maximumSize=+500"
      ["expireAfterWrite=10m".toList, "maximumSize=+500".toList] := listed_iff.mpr (by decide +kernel)
  have relisted : Listed " maximumSize=+500 ,, expireAfterWrite=10m"
      ["maximumSize=+500".toList, "expireAfterWrite=10m".toList] := listed_iff.mpr (by decide +kernel)
  have accepted : read "expireAfterWrite=10m,maximumSize=+500" = .ok ⟨some 500, none, none, some 600000⟩ := by rfl
  refine ⟨listed, relisted, accepted, ?_⟩
  exact ((read_orderFree _).2.2 _ _ _ listed relisted (.swap ..) _).mpr accepted

end CacheSpec
end FieldSelect
