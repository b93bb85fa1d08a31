import FieldSelect.Json.Reader
import Mathlib

/-! Arithmetic that stays finite: unsigned integers of 64 bits become finite floats, and remain so however often they
are divided by powers of ten. -/
namespace FieldSelect
open Float.Model Float.Model.UnpackedFloat

/-! ### Lengths in bits -/

theorem log2_le_of_lt {n width : Nat} (small : n < 2 ^ (width + 1)) : n.log2 ≤ width := by
  by_cases none : n = 0
  · rw [none]
    exact Nat.zero_le _
  · exact Nat.le_of_lt_succ ((Nat.log2_lt none).mpr small)

theorem log2_mul_pow_le (n shift : Nat) : (n * 2 ^ shift).log2 ≤ n.log2 + shift := by
  refine log2_le_of_lt ?_
  rw [Nat.add_right_comm, Nat.pow_add]
  exact Nat.mul_lt_mul_of_pos_right Nat.lt_log2_self (Nat.two_pow_pos shift)

theorem log2_div_le {n d : Nat} (some_ : n / d ≠ 0) : (n / d).log2 + d.log2 ≤ n.log2 := by
  have positive : n ≠ 0 := by
    rintro rfl
    exact some_ (Nat.zero_div d)
  have divides : d ≠ 0 := by
    rintro rfl
    exact some_ (Nat.div_zero n)
  rw [Nat.le_log2 positive, Nat.pow_add]
  exact Nat.le_trans (Nat.mul_le_mul (Nat.log2_self_le some_) (Nat.log2_self_le divides)) (Nat.div_mul_le_self n d)

theorem log2_div_pow_le {n shift : Nat} (some_ : n / 2 ^ shift ≠ 0) : (n / 2 ^ shift).log2 + shift ≤ n.log2 := by
  have shorter := log2_div_le some_
  rwa [Nat.log2_two_pow] at shorter

/-! ### Floats that are packed as finite ones -/

/-- The float is less than this power of two. -/
def Below (top : Int) : UnpackedFloat → Prop
  | .zero _ => True
  | .finite _ mantissa exponent _ => totalExponent mantissa exponent ≤ top
  | .infinity _ | .notANumber => False

theorem Below.mono {top higher : Int} {x : UnpackedFloat} (below : Below top x) (le : top ≤ higher) :
    Below higher x := by
  cases x with
  | finite => exact Int.le_trans below le
  | zero | infinity | notANumber => exact below

theorem isFinite_unpack {bits : BitVec Format.binary64.numBits} (exponent : unpackExponent bits ≠ -1#_) :
    (UnpackedFloat.unpack Format.binary64 bits).isFinite = true := by
  unfold UnpackedFloat.unpack
  dsimp only
  rw [if_neg exponent]
  split
  · split <;> rfl
  · rfl

theorem exponent_ne_top {field : Nat} (small : field + 1 < 2 ^ 11) : BitVec.ofNat 11 field ≠ -1#11 := by
  intro same
  have value := congrArg BitVec.toNat same
  rw [BitVec.toNat_ofNat, Nat.mod_eq_of_lt (Nat.lt_of_succ_lt small)] at value
  change field = 2047 at value
  omega

theorem pack_finite (sign : Sign) {mantissa : Nat} {exponent : Int} (positive : 0 < mantissa) (low : exponent ≤ 971) :
    (exponent + 1075).toNat + 1 < 2 ^ 11 ∧
      (mantissa.log2 = 52 ∧ UnpackedFloat.pack Format.binary64 (.finite sign mantissa exponent positive) =
          packComponents Format.binary64 sign (BitVec.ofNat 11 (exponent + 1075).toNat) (BitVec.ofNat 52 mantissa) ∨
        mantissa.log2 ≠ 52 ∧ UnpackedFloat.pack Format.binary64 (.finite sign mantissa exponent positive) =
          packComponents Format.binary64 sign 0#11 (BitVec.ofNat 52 mantissa)) := by
  have small : (exponent + 1075).toNat + 1 < 2 ^ 11 := by omega
  have field : exponent + (Format.binary64.exponentBias : Int) + ((52 : Nat) : Int) = exponent + 1075 := by
    have bias : (Format.binary64.exponentBias : Int) = 1023 := rfl
    omega
  refine ⟨small, ?_⟩
  unfold UnpackedFloat.pack
  dsimp only
  rw [field, if_neg (Nat.not_le_of_lt small)]
  have bits : Format.binary64.mantissaBits = 53 := rfl
  by_cases normal : mantissa.log2 + 1 = Format.binary64.mantissaBits
  · left
    rw [if_pos normal]
    exact ⟨by omega, rfl⟩
  · right
    rw [if_neg normal]
    exact ⟨by omega, rfl⟩

theorem exponent_le_of_unpack {bits : BitVec Format.binary64.numBits} {sign : Sign} {mantissa : Nat} {exponent : Int}
    {positive : 0 < mantissa}
    (unpacked : UnpackedFloat.unpack Format.binary64 bits = .finite sign mantissa exponent positive) :
    exponent ≤ 971 := by
  unfold UnpackedFloat.unpack at unpacked
  dsimp only at unpacked
  split at unpacked
  · split at unpacked <;> cases unpacked
  · rename_i top
    have field : (unpackExponent bits).toNat ≠ 2047 := fun same => top (BitVec.eq_of_toNat_eq same)
    have bound : (unpackExponent bits).toNat < 2 ^ 11 := (unpackExponent bits).isLt
    have low : ((unpackExponent bits).toNat : Int) - (1023 + 52) ≤ 971 := by omega
    split at unpacked
    · rename_i subnormal
      split at unpacked
      · cases unpacked
      · cases unpacked
        change ((unpackExponent bits).toNat : Int) - (1023 + 52) + 1 ≤ 971
        rw [subnormal]
        decide
    · cases unpacked
      exact low

theorem below_unpack_packComponents {sign : Sign} {field : BitVec 11} {fraction : BitVec 52} {top : Int}
    (small : field ≠ -1#11) (low : field = 0#11 → -1022 ≤ top)
    (high : field ≠ 0#11 → (field.toNat : Int) - 1022 ≤ top) :
    Below top (UnpackedFloat.unpack Format.binary64 (packComponents Format.binary64 sign field fraction)) := by
  simp only [UnpackedFloat.unpack, unpackExponent_packComponents, unpackMantissa_packComponents]
  rw [if_neg small]
  by_cases subnormal : field = 0#11
  · rw [if_pos subnormal]
    split
    · trivial
    · have lt : fraction.toNat < 2 ^ 52 := fraction.isLt
      have bound := log2_le_of_lt lt
      have low := low subnormal
      change (fraction.toNat.log2 + 1 + ((field.toNat : Int) - (1023 + 52) + 1) : Int) ≤ top
      rw [subnormal]
      change (fraction.toNat.log2 + 1 + ((0 : Int) - (1023 + 52) + 1) : Int) ≤ top
      omega
  · rw [if_neg subnormal]
    have lt : (1#1 ++ fraction).toNat < 2 ^ 53 := (1#1 ++ fraction).isLt
    have bound := log2_le_of_lt lt
    have high := high subnormal
    change ((1#1 ++ fraction).toNat.log2 + 1 + ((field.toNat : Int) - (1023 + 52)) : Int) ≤ top
    omega

/-- What is packed is as small as it was. -/
theorem below_unpack_pack {x : UnpackedFloat} {top : Int} (below : Below top x) (normal : -1022 ≤ top)
    (le : top ≤ 971) : Below top (Float.Model.pack x).unpack := by
  change Below top (UnpackedFloat.unpack Format.binary64 (UnpackedFloat.pack Format.binary64 x))
  cases x with
  | zero sign =>
    rw [UnpackedFloat.pack, packedZero]
    exact below_unpack_packComponents (by decide) (fun _ => normal) fun some_ => absurd rfl some_
  | finite sign mantissa exponent positive =>
    have below : (mantissa.log2 + 1 + exponent : Int) ≤ top := below
    have low : exponent ≤ 971 := by omega
    obtain ⟨small, ⟨length, packed⟩ | ⟨_, packed⟩⟩ := pack_finite sign positive low
    · rw [packed]
      refine below_unpack_packComponents (exponent_ne_top small) (fun _ => normal) fun some_ => ?_
      rw [BitVec.toNat_ofNat, Nat.mod_eq_of_lt (Nat.lt_of_succ_lt small)]
      omega
    · rw [packed]
      exact below_unpack_packComponents (by decide) (fun _ => normal) fun some_ => absurd rfl some_
  | infinity | notANumber => exact below.elim

/-! ### Rounding -/

theorem targetExponent_eq (total : Int) : Format.binary64.targetExponent total = max (total - 53) (-1074) := rfl

theorem mantissa_shiftRight (extended : ExtendedMantissa) (amount : Nat) :
    (extended >>> amount).mantissa = extended.mantissa / 2 ^ amount := by
  change (amount.repeat ExtendedMantissa.shiftRightOne extended).mantissa = _
  induction amount with
  | zero => exact (Nat.div_one _).symm
  | succ amount ih =>
    change (amount.repeat ExtendedMantissa.shiftRightOne extended).mantissa / 2 = _
    rw [ih, Nat.div_div_eq_div_mul, Nat.pow_succ]

theorem mantissa_ofMantissaAndAccuracy (mantissa : Nat) (accuracy : Accuracy) :
    (ExtendedMantissa.ofMantissaAndAccuracy mantissa accuracy).mantissa = mantissa := by
  unfold ExtendedMantissa.ofMantissaAndAccuracy
  split <;> rfl

theorem roundedMantissa_le (extended : ExtendedMantissa) : extended.roundedMantissa ≤ extended.mantissa + 1 := by
  unfold ExtendedMantissa.roundedMantissa Accuracy.roundToNearestEven
  split <;> omega

/-- A shift to the exponent of the format drops bits and raises the exponent as far. -/
theorem shiftToTargetExponent_eq (mantissa : Nat) (exponent : Int) (accuracy : Accuracy) :
    ∃ shift : Nat,
      (shiftToTargetExponent Format.binary64 mantissa exponent accuracy).1.mantissa = mantissa / 2 ^ shift ∧
      (shiftToTargetExponent Format.binary64 mantissa exponent accuracy).2 = exponent + shift ∧
        (shift = 0 ∨ exponent + shift = max (totalExponent mantissa exponent - 53) (-1074)) := by
  refine ⟨(Format.binary64.targetExponent (totalExponent mantissa exponent) - exponent).toNat, ?_, rfl, ?_⟩
  · refine (mantissa_shiftRight (.ofMantissaAndAccuracy mantissa accuracy) _).trans ?_
    rw [mantissa_ofMantissaAndAccuracy]
  · rw [targetExponent_eq]
    omega

/-- A float is rounded between two shifts. -/
theorem roundWithAccuracy_eq (sign : Sign) (mantissa : Nat) (exponent : Int) (accuracy : Accuracy) :
    ∃ shift rounded again : Nat, rounded ≤ mantissa / 2 ^ shift + 1 ∧
      (shift = 0 ∨ exponent + shift = max (totalExponent mantissa exponent - 53) (-1074)) ∧
        (roundWithAccuracy Format.binary64 sign mantissa exponent accuracy = .zero sign ∨
          ∃ positive, roundWithAccuracy Format.binary64 sign mantissa exponent accuracy =
            .finite sign (rounded / 2 ^ again) (exponent + shift + again) positive) := by
  obtain ⟨shift, shorter, raised, reached⟩ := shiftToTargetExponent_eq mantissa exponent accuracy
  have rounded := roundedMantissa_le (shiftToTargetExponent Format.binary64 mantissa exponent accuracy).1
  rw [shorter] at rounded
  obtain ⟨again, shorter', raised', _⟩ := shiftToTargetExponent_eq
    (shiftToTargetExponent Format.binary64 mantissa exponent accuracy).1.roundedMantissa (exponent + shift) .exact
  rw [← raised] at shorter' raised'
  refine ⟨shift, _, again, rounded, reached, ?_⟩
  unfold roundWithAccuracy
  dsimp only
  split
  · exact .inl rfl
  · rename_i some_
    refine .inr ⟨Nat.pos_of_ne_zero (shorter' ▸ some_), ?_⟩
    simp only [shorter', raised']
    simp only [raised]

/-- Rounding may take a float up to the next power of two. -/
theorem below_roundWithAccuracy {mantissa : Nat} {exponent top : Int} (low : totalExponent mantissa exponent ≤ top)
    (normal : -1022 ≤ top) (sign : Sign) (accuracy : Accuracy) :
    Below (top + 1) (roundWithAccuracy Format.binary64 sign mantissa exponent accuracy) := by
  obtain ⟨shift, rounded, again, up, reached, outcome⟩ := roundWithAccuracy_eq sign mantissa exponent accuracy
  have low : (mantissa.log2 + 1 + exponent : Int) ≤ top := low
  have reached : shift = 0 ∨ exponent + shift = max ((mantissa.log2 + 1 + exponent : Int) - 53) (-1074) := reached
  have total : (rounded.log2 + 1 + (exponent + shift) : Int) ≤ top + 1 := by
    by_cases none : mantissa / 2 ^ shift = 0
    · rw [none] at up
      have two : rounded < 2 := Nat.lt_succ_of_le up
      have length : rounded.log2 ≤ 0 := log2_le_of_lt two
      omega
    · have length : rounded.log2 ≤ (mantissa / 2 ^ shift).log2 + 1 := by
        have lt : mantissa / 2 ^ shift < 2 ^ ((mantissa / 2 ^ shift).log2 + 1) := Nat.lt_log2_self
        refine log2_le_of_lt (Nat.lt_of_le_of_lt (Nat.le_trans up lt) ?_)
        exact Nat.pow_lt_pow_right (by decide) (Nat.lt_succ_self _)
      have shorter := log2_div_pow_le none
      omega
  rcases outcome with zero | ⟨positive, finite⟩
  · rw [zero]
    trivial
  · have shorter := log2_div_pow_le (Nat.ne_of_gt positive)
    rw [finite]
    change ((rounded / 2 ^ again).log2 + 1 + (exponent + shift + again) : Int) ≤ top + 1
    omega

/-! ### Integers and quotients -/

theorem below_ofUInt64 (n : UInt64) : Below 65 (UnpackedFloat.ofUInt64 Format.binary64 n) := by
  have length : n.toNat.log2 ≤ 63 := log2_le_of_lt n.toNat_lt
  unfold UnpackedFloat.ofUInt64 UnpackedFloat.ofNat UnpackedFloat.ofInt UnpackedFloat.normalize
  split
  · rename_i negative
    exact absurd (Int.compare_eq_lt.mp negative) (Int.not_lt.mpr (Int.natCast_nonneg _))
  · trivial
  · unfold UnpackedFloat.round decreaseExponent
    change Below (64 + 1) _
    refine below_roundWithAccuracy ?_ (by decide) _ _
    generalize (0 - Format.binary64.targetExponent (totalExponent (n.toNat : Int).toNat 0)).toNat = shift
    have wider := log2_mul_pow_le n.toNat shift
    rw [Int.toNat_natCast, Nat.shiftLeft_eq]
    change ((n.toNat * 2 ^ shift).log2 + 1 + (0 - (shift : Int)) : Int) ≤ 64
    omega

/-- A quotient has as many bits as the format holds, or all there are. -/
theorem divCore_eq (mantissa : Nat) (exponent : Int) (mantissa' : Nat) (exponent' : Int) :
    ∃ (low : Int) (accuracy : Accuracy), low ≤ exponent - exponent' ∧
      low ≤ max (totalExponent mantissa exponent - totalExponent mantissa' exponent' - 53) (-1074) ∧
        divCore Format.binary64 mantissa exponent mantissa' exponent' =
          (mantissa * 2 ^ (exponent - exponent' - low).toNat / mantissa', low, accuracy) := by
  refine ⟨_, (divCore Format.binary64 mantissa exponent mantissa' exponent').2.2, Int.min_le_left _ _,
    Int.min_le_right _ _, ?_⟩
  unfold divCore
  dsimp only
  rw [Nat.shiftLeft_eq, targetExponent_eq]

/-- Divided by a float of full length that is a power of two or more, a float falls as far. -/
theorem below_div {x : UnpackedFloat} {top fall : Int} (below : Below top x) (normal : -1000 ≤ top - fall)
    {sign : Sign} {mantissa : Nat} {exponent : Int} {positive : 0 < mantissa} (full : mantissa.log2 = 52)
    (large : fall ≤ totalExponent mantissa exponent) :
    Below (top - fall + 1 + 1) (UnpackedFloat.div Format.binary64 x (.finite sign mantissa exponent positive)) := by
  cases x with
  | zero => trivial
  | infinity | notANumber => exact below.elim
  | finite sign' mantissa' exponent' positive' =>
    have below : (mantissa'.log2 + 1 + exponent' : Int) ≤ top := below
    have large : fall ≤ (mantissa.log2 + 1 + exponent : Int) := large
    obtain ⟨low, accuracy, under, under', divided⟩ := divCore_eq mantissa' exponent' mantissa exponent
    have under' :
        low ≤ max ((mantissa'.log2 + 1 + exponent' : Int) - (mantissa.log2 + 1 + exponent : Int) - 53) (-1074) := under'
    rw [UnpackedFloat.div, divided]
    refine below_roundWithAccuracy ?_ (by omega) _ _
    change ((mantissa' * 2 ^ (exponent' - exponent - low).toNat / mantissa).log2 + 1 + low : Int) ≤ _
    by_cases none : mantissa' * 2 ^ (exponent' - exponent - low).toNat / mantissa = 0
    · rw [none, show Nat.log2 0 = 0 from rfl]
      omega
    · have shorter := log2_div_le none
      have wider := log2_mul_pow_le mantissa' (exponent' - exponent - low).toNat
      omega

/-! ### Powers of ten -/

/-- The float has all its bits and is this power of two or more. -/
def isLarge (least : Int) : UnpackedFloat → Bool
  | .finite _ mantissa exponent _ => mantissa.log2 == 52 && least ≤ totalExponent mantissa exponent
  | _ => false

theorem isLarge_decimalFloat {power : Nat} (held : power ≤ 308) :
    isLarge (if power = 0 then 1 else 2) (decimalFloat 1 power).toModel.unpack = true := by
  have all : (List.range 309).all (fun power =>
      isLarge (if power = 0 then 1 else 2) (decimalFloat 1 power).toModel.unpack) = true := by decide +kernel
  exact List.all_eq_true.mp all power (List.mem_range.mpr (Nat.lt_succ_of_le held))

theorem below_div_of_isLarge {x y : Float} {top fall : Int} (below : Below top x.toModel.unpack)
    (large : isLarge fall y.toModel.unpack = true) (normal : -1000 ≤ top - fall) (le : top - fall ≤ 900) :
    Below (top - fall + 1 + 1) (x / y).toModel.unpack := by
  refine below_unpack_pack ?_ (by omega) (by omega)
  cases unpacked : y.toModel.unpack with
  | finite sign mantissa exponent positive =>
    rw [unpacked, isLarge, Bool.and_eq_true, beq_iff_eq, decide_eq_true_eq] at large
    exact below_div below normal large.1 large.2
  | zero | infinity | notANumber =>
    rw [unpacked] at large
    cases large

theorem Below.isFinite {top : Int} {x : Float} (below : Below top x.toModel.unpack) : x.isFinite = true := by
  change x.toModel.unpack.isFinite = true
  cases unpacked : x.toModel.unpack with
  | zero | finite => rfl
  | infinity | notANumber =>
    rw [unpacked] at below
    exact below.elim

theorem below_toFloat (n : UInt64) : Below 65 n.toFloat.toModel.unpack :=
  below_unpack_pack (below_ofUInt64 n) (by decide) (by decide)

theorem isFinite_neg {x : Float} (finite : x.isFinite = true) : (-x).isFinite = true := by
  change x.toModel.unpack.isFinite = true at finite
  change (UnpackedFloat.unpack Format.binary64
    (UnpackedFloat.pack Format.binary64 x.toModel.unpack.neg)).isFinite = true
  refine isFinite_unpack ?_
  cases unpacked : x.toModel.unpack with
  | zero sign =>
    rw [UnpackedFloat.neg, UnpackedFloat.pack, packedZero, unpackExponent_packComponents]
    decide
  | finite sign mantissa exponent positive =>
    rw [UnpackedFloat.neg]
    obtain ⟨small, ⟨_, packed⟩ | ⟨_, packed⟩⟩ :=
      pack_finite (-sign) positive (exponent_le_of_unpack unpacked)
    · rw [packed, unpackExponent_packComponents]
      exact exponent_ne_top small
    · rw [packed, unpackExponent_packComponents]
      decide
  | infinity | notANumber =>
    rw [unpacked] at finite
    cases finite

namespace Json

theorem isFinite_shrink {x : Float} {power : Nat} (below : Below 100 x.toModel.unpack) :
    (shrink x power).isFinite = true := by
  induction power using Nat.strongRecOn generalizing x with
  | ind power ih =>
    rw [shrink]
    split
    · rename_i held
      refine (below_div_of_isLarge below (isLarge_decimalFloat held) ?_ ?_).isFinite <;> split <;> decide
    · rename_i more
      split
      · exact below.isFinite
      · refine ih _ (Nat.sub_lt (Nat.lt_of_le_of_lt (Nat.zero_le _) (Nat.lt_of_not_le more)) (by decide)) ?_
        exact below_div_of_isLarge below (isLarge_decimalFloat (Nat.le_refl 308)) (by decide) (by decide)

end Json

end FieldSelect
