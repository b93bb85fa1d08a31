import FieldSelect.Function.Core
import FieldSelect.Proofs.Decimal.Ordering
import Mathlib

/-! How values are compared when they are sorted. Comparing two of them the other way round answers the other way round,
but what is not greater than a value between them can still be greater than what is behind it: where the value between
is of a kind that the others are not compared with, or is a float that two integers are both read as. -/
namespace FieldSelect

/-- What a value is compared by. -/
inductive Scale where
  | number
  | text
  | truth
  deriving DecidableEq

namespace Value

/-- Only values of one scale are told apart. -/
def scale? : Value → Option Scale
  | .integer _ | .float _ => some .number
  | .string _ => some .text
  | .boolean _ => some .truth
  | .null | .array _ | .object _ | .record .. => none

theorem exists_of_text (value : Value) (text : value.scale? = some .text) : ∃ chars, value = .string chars := by
  cases value with
  | string chars => exact ⟨chars, rfl⟩
  | _ => cases text

theorem exists_of_truth (value : Value) (truth : value.scale? = some .truth) : ∃ own, value = .boolean own := by
  cases value with
  | boolean own => exact ⟨own, rfl⟩
  | _ => cases truth

/-- The value is no float that is not a number. -/
def IsOrdered : Value → Prop
  | .float x => x.isNaN = false
  | _ => True

/-- The value is no integer that is too long for the significand of a float. -/
def IsShort : Value → Prop
  | .integer n => n.toInt.natAbs ≤ 2 ^ 53
  | _ => True

/-- The rank of a number, integers being read as floats. -/
def rank : Value → Int
  | .integer n => floatRank (integerFloat n)
  | .float x => floatRank x
  | _ => 0

end Value

namespace Core

theorem compareFloats_eq {x y : Float} (number : x.isNaN = false) (number' : y.isNaN = false) :
    compareFloats x y = compare (floatRank x) (floatRank y) := by
  unfold compareFloats
  simp only [lt_iff_floatRank number number', lt_iff_floatRank number' number]
  rcases Int.lt_trichotomy (floatRank x) (floatRank y) with less | same | greater
  · rw [if_pos less, Int.compare_eq_lt.mpr less]
  · rw [if_neg (by omega), if_neg (by omega), Int.compare_eq_eq.mpr same]
  · rw [if_neg (by omega), if_pos greater, Int.compare_eq_gt.mpr greater]

theorem compareBooleans_eq (a b : Bool) : compareBooleans a b = compare a b := by
  cases a <;> cases b <;> rfl

/-- Two numbers are compared by their ranks, unless both are integers. -/
theorem compareValues_eq_rank {a b : Value} (number : a.scale? = some .number) (number' : b.scale? = some .number)
    (ordered : a.IsOrdered) (ordered' : b.IsOrdered)
    (float : ∀ m n, ¬ (a = .integer m ∧ b = .integer n)) : compareValues a b = compare a.rank b.rank := by
  cases a with
  | integer m =>
    cases b with
    | integer n => exact (float m n ⟨rfl, rfl⟩).elim
    | float y => exact compareFloats_eq (isNaN_integerFloat m) ordered'
    | null | boolean | string | array | object | record => cases number'
  | float x =>
    cases b with
    | integer n => exact compareFloats_eq ordered (isNaN_integerFloat n)
    | float y => exact compareFloats_eq ordered ordered'
    | null | boolean | string | array | object | record => cases number'
  | null | boolean | string | array | object | record => cases number

theorem compareValues_swap {a b : Value} (ordered : a.IsOrdered) (ordered' : b.IsOrdered) :
    compareValues b a = (compareValues a b).swap := by
  have floats : ∀ {x y : Float}, x.isNaN = false → y.isNaN = false → compareFloats y x = (compareFloats x y).swap :=
    fun number number' => by
      rw [compareFloats_eq number' number, compareFloats_eq number number']
      exact Std.OrientedOrd.eq_swap
  cases a <;> cases b <;> try rfl
  case boolean.boolean left right => cases left <;> cases right <;> rfl
  case integer.integer => exact Std.OrientedOrd.eq_swap
  case integer.float m y => exact floats (isNaN_integerFloat m) ordered'
  case float.integer x n => exact floats ordered (isNaN_integerFloat n)
  case float.float => exact floats ordered ordered'
  case string.string => exact Std.OrientedOrd.eq_swap

theorem compareValues_of_scale {a b : Value} (apart : a.scale? ≠ b.scale?) : compareValues a b = .eq := by
  cases a <;> cases b <;> first | rfl | exact (apart rfl).elim

/-- Where one value is greater than another one, both are of one scale. -/
theorem scale_of_greater {a b : Value} (greater : compareValues a b = .gt) :
    ∃ scale, a.scale? = some scale ∧ b.scale? = some scale := by
  cases a <;> cases b <;> first | exact ⟨_, rfl, rfl⟩ | cases greater

theorem rank_le {a b : Value} (number : a.scale? = some .number) (number' : b.scale? = some .number)
    (ordered : a.IsOrdered) (ordered' : b.IsOrdered) (le : (compareValues a b).isLE) : a.rank ≤ b.rank := by
  by_cases integers : ∃ m n, a = .integer m ∧ b = .integer n
  · obtain ⟨m, n, rfl, rfl⟩ := integers
    have below : m ≤ n := Std.isLE_compare.mp le
    exact floatRank_integerFloat_mono (Int64.le_iff_toInt_le.mp below)
  · rw [compareValues_eq_rank number number' ordered ordered' fun m n both => integers ⟨m, n, both⟩] at le
    exact Std.isLE_compare.mp le

/-- A value is greater than another one, though neither is told from the value between them. -/
inductive Blurs : Value → Value → Value → Prop where
  /-- The value between them is of another scale. -/
  | kind {a b c : Value} (greater : compareValues a c = .gt) (apart : a.scale? ≠ b.scale?) : Blurs a b c
  /-- The values are integers that are read as the float between them. -/
  | rounding {m n : Int64} {x : Float} (greater : n < m) (high : compareValues (.integer m) (.float x) = .eq)
    (low : compareValues (.float x) (.integer n) = .eq) : Blurs (.integer m) (.float x) (.integer n)

theorem Blurs.isLE {a b c : Value} (blurs : Blurs a b c) :
    (compareValues a b).isLE ∧ (compareValues b c).isLE ∧ compareValues a c = .gt := by
  cases blurs with
  | kind greater apart =>
    obtain ⟨scale, first, last⟩ := scale_of_greater greater
    have apart' : b.scale? ≠ c.scale? := fun same => apart ((first.trans last.symm).trans same.symm)
    rw [compareValues_of_scale apart, compareValues_of_scale apart']
    exact ⟨rfl, rfl, greater⟩
  | rounding greater high low =>
    rw [high, low]
    exact ⟨rfl, rfl, Std.compare_eq_gt.mpr greater⟩

/-- Numbers in a row of which the first is greater than the last have one rank, so both are integers. -/
theorem blurs_of_numbers {a b c : Value} (first : a.scale? = some .number) (second : b.scale? = some .number)
    (third : c.scale? = some .number) (ordered : a.IsOrdered) (ordered' : b.IsOrdered) (ordered'' : c.IsOrdered)
    (low : (compareValues a b).isLE) (high : (compareValues b c).isLE) (greater : compareValues a c = .gt) :
    Blurs a b c := by
  have back : (compareValues c a).isLE := by
    rw [compareValues_swap ordered ordered'', greater]
    rfl
  have rising := rank_le first second ordered ordered' low
  have rising' := rank_le second third ordered' ordered'' high
  have falling := rank_le third first ordered'' ordered back
  -- All three ranks are the same, and only integers are told apart by more than their ranks.
  have integers : ∃ m n, a = .integer m ∧ c = .integer n := by
    by_contra float
    rw [compareValues_eq_rank first third ordered ordered'' fun m n both => float ⟨m, n, both⟩,
      Int.compare_eq_gt] at greater
    omega
  obtain ⟨m, n, rfl, rfl⟩ := integers
  have less : n < m := Std.compare_eq_gt.mp greater
  cases b with
  | integer k =>
    have le : (compare m n).isLE := Std.TransCmp.isLE_trans low high
    exact (Ordering.isLE_iff_ne_gt.mp le greater).elim
  | float x =>
    have high := compareValues_eq_rank first second ordered ordered' fun _ _ both => Value.noConfusion both.2
    have low := compareValues_eq_rank second third ordered' ordered'' fun _ _ both => Value.noConfusion both.1
    rw [Int.compare_eq_eq.mpr (by omega)] at high low
    exact .rounding less high low
  | null | boolean | string | array | object | record => cases second

theorem blurs_of_greater {a b c : Value} (ordered : a.IsOrdered) (ordered' : b.IsOrdered) (ordered'' : c.IsOrdered)
    (low : (compareValues a b).isLE) (high : (compareValues b c).isLE) (greater : compareValues a c = .gt) :
    Blurs a b c := by
  obtain ⟨scale, first, third⟩ := scale_of_greater greater
  by_cases apart : a.scale? ≠ b.scale?
  · exact .kind greater apart
  · have second : b.scale? = some scale := (not_not.mp apart).symm.trans first
    cases scale with
    | number => exact blurs_of_numbers first second third ordered ordered' ordered'' low high greater
    | text =>
      obtain ⟨left, rfl⟩ := a.exists_of_text first
      obtain ⟨middle, rfl⟩ := b.exists_of_text second
      obtain ⟨right, rfl⟩ := c.exists_of_text third
      have le : (compare left right).isLE := Std.TransOrd.isLE_trans low high
      exact (Ordering.isLE_iff_ne_gt.mp le greater).elim
    | truth =>
      obtain ⟨left, rfl⟩ := a.exists_of_truth first
      obtain ⟨middle, rfl⟩ := b.exists_of_truth second
      obtain ⟨right, rfl⟩ := c.exists_of_truth third
      simp only [compareValues, compareBooleans_eq] at low high greater
      have le : (compare left right).isLE := Std.TransOrd.isLE_trans low high
      exact (Ordering.isLE_iff_ne_gt.mp le greater).elim

theorem Blurs.apart_of_short {a b c : Value} (blurs : Blurs a b c) (ordered : b.IsOrdered) (short : a.IsShort)
    (short' : c.IsShort) : a.scale? ≠ b.scale? := by
  cases blurs with
  | kind greater apart => exact apart
  | @rounding m n x greater high low =>
    have less := floatRank_integerFloat_lt (Int64.lt_iff_toInt_lt.mp greater) short' short
    have same : floatRank (integerFloat m) = floatRank x :=
      Int.compare_eq_eq.mp ((compareFloats_eq (isNaN_integerFloat m) ordered).symm.trans high)
    have same' : floatRank x = floatRank (integerFloat n) :=
      Int.compare_eq_eq.mp ((compareFloats_eq ordered (isNaN_integerFloat n)).symm.trans low)
    omega

/-- Comparing the other way round answers the other way round. Of three values none of which is greater than the next
one, the first is not greater than the last unless they are blurred, and values of one scale are not blurred where their
integers are short. -/
theorem compareValues_order {a b c : Value} (ordered : a.IsOrdered) (ordered' : b.IsOrdered)
    (ordered'' : c.IsOrdered) :
    compareValues b a = (compareValues a b).swap ∧
      ((compareValues a b ≠ .gt → compareValues b c ≠ .gt → compareValues a c ≠ .gt) ↔ ¬ Blurs a b c) ∧
      (a.scale? = b.scale? → a.IsShort → c.IsShort → ¬ Blurs a b c) := by
  refine ⟨compareValues_swap ordered ordered', ⟨fun transitive blurs => ?_, fun clear low high greater => ?_⟩,
    fun same short short' blurs => blurs.apart_of_short ordered' short short' same⟩
  · obtain ⟨low, high, greater⟩ := blurs.isLE
    exact transitive (Ordering.isLE_iff_ne_gt.mp low) (Ordering.isLE_iff_ne_gt.mp high) greater
  · exact clear (blurs_of_greater ordered ordered' ordered'' (Ordering.isLE_iff_ne_gt.mpr low)
      (Ordering.isLE_iff_ne_gt.mpr high) greater)

theorem compareValues_order_of_mixed :
    (Value.integer 2).IsOrdered ∧ (Value.float 2.5).IsOrdered ∧ (Value.integer 3).IsOrdered ∧
      compareValues (.float 2.5) (.integer 2) = (compareValues (.integer 2) (.float 2.5)).swap ∧
      ¬ Blurs (.integer 2) (.float 2.5) (.integer 3) ∧ compareValues (.integer 2) (.integer 3) ≠ .gt := by
  have number : (2.5 : Float).isNaN = false := by decide
  obtain ⟨swapped, transitive, clear⟩ := compareValues_order (a := .integer 2) (b := .float 2.5) (c := .integer 3)
    trivial number trivial
  have sharp : ¬ Blurs (.integer 2) (.float 2.5) (.integer 3) := by
    refine clear rfl ?_ ?_ <;> unfold Value.IsShort <;> decide
  exact ⟨trivial, number, trivial, swapped, sharp, transitive.mpr sharp (by decide) (by decide)⟩

/-- An integer that a float cannot hold is placed in front of a lesser one, since a float stands between them that is
equal to both. So is a number in front of a lesser one behind a text. -/
theorem sortValues_blurred :
    (compareValues (.integer 9007199254740993) (.float 9007199254740992) ≠ .gt ∧
      compareValues (.float 9007199254740992) (.integer 9007199254740992) ≠ .gt ∧
      compareValues (.integer 9007199254740993) (.integer 9007199254740992) = .gt ∧
      sortValues [.integer 9007199254740993, .float 9007199254740992, .integer 9007199254740992] =
        [.integer 9007199254740993, .float 9007199254740992, .integer 9007199254740992]) ∧
    (compareValues (.integer 2) (.string "x") ≠ .gt ∧ compareValues (.string "x") (.integer 1) ≠ .gt ∧
      compareValues (.integer 2) (.integer 1) = .gt ∧
      sortValues [.integer 2, .string "x", .integer 1] = [.integer 2, .string "x", .integer 1]) :=
  ⟨⟨by decide, by decide, rfl, rfl⟩, by decide, by decide, rfl, rfl⟩

end Core
end FieldSelect
