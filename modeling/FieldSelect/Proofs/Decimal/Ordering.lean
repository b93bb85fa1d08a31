import FieldSelect.Decimal.Binary
import FieldSelect.Proofs.Decimal.Finite
import Mathlib

/-! The order of floats. Every float has a rank, counted from zero, and but for what is no number one float is less than
another just when its rank is. The nearest floats of integers keep their order, though not all of them stay apart. -/
namespace FieldSelect
open Float.Model Float.Model.UnpackedFloat

/-! ### Canonical floats -/

/-- Both fit into their fields, and the significand has all its bits unless the exponent is the lowest one. -/
structure FitsFields (mantissa : Nat) (exponent : Int) : Prop where
  short : mantissa < 2 ^ 53
  least : -1074 ≤ exponent
  most : exponent ≤ 971
  lowest : mantissa < 2 ^ 52 → exponent = -1074

def Canonical : UnpackedFloat → Prop
  | .finite _ mantissa exponent _ => FitsFields mantissa exponent
  | .zero _ | .infinity _ | .notANumber => True

section Bits
variable {bits : BitVec Format.binary64.numBits}

theorem toNat_unpackExponent : (unpackExponent bits).toNat = bits.toNat / 2 ^ 52 % 2 ^ 11 := by
  simp [unpackExponent, Nat.shiftRight_eq_div_pow]

theorem toNat_unpackMantissa : (unpackMantissa bits).toNat = bits.toNat % 2 ^ 52 := by
  simp [unpackMantissa]

theorem unpackSign_eq_zero (low : bits.toNat < 2 ^ 63) : unpackSign bits = 0#1 := by
  apply BitVec.eq_of_toNat_eq
  simp [unpackSign, Nat.shiftRight_eq_div_pow]
  omega

/-- The hidden bit in front of a fraction. -/
theorem toNat_append_one (fraction : BitVec 52) : (1#1 ++ fraction).toNat = 2 ^ 52 + fraction.toNat := by
  rw [BitVec.toNat_append, ← Nat.shiftLeft_add_eq_or_of_lt fraction.isLt]
  rfl

theorem canonical_unpack (bits : BitVec Format.binary64.numBits) :
    Canonical (UnpackedFloat.unpack Format.binary64 bits) := by
  unfold UnpackedFloat.unpack
  dsimp only
  have bound : (unpackExponent bits).toNat < 2 ^ 11 := (unpackExponent bits).isLt
  split
  · split <;> trivial
  · rename_i top
    have field : (unpackExponent bits).toNat ≠ 2047 := fun same => top (BitVec.eq_of_toNat_eq same)
    split
    · rename_i subnormal
      split
      · trivial
      · have small : (unpackMantissa bits).toNat < 2 ^ 52 := (unpackMantissa bits).isLt
        have lowest : (((unpackExponent bits).toNat : Int) - (1023 + 52)) + 1 = -1074 := by
          rw [subnormal]
          rfl
        exact ⟨by omega, Int.le_of_eq lowest.symm, Int.le_trans (Int.le_of_eq lowest) (by decide), fun _ => lowest⟩
    · rename_i normal
      have some_ : (unpackExponent bits).toNat ≠ 0 := fun same => normal (BitVec.eq_of_toNat_eq same)
      have full := toNat_append_one (unpackMantissa bits)
      have small : (unpackMantissa bits).toNat < 2 ^ 52 := (unpackMantissa bits).isLt
      change FitsFields (1#1 ++ unpackMantissa bits).toNat ((unpackExponent bits).toNat - (1023 + 52))
      constructor <;> omega

end Bits

/-! ### Packing and unpacking -/

@[simp] theorem unpackSign_packComponents {spec : Format} {sign exponent mantissa} :
    unpackSign (packComponents spec sign exponent mantissa) = sign.toBitVec := by
  ext i inside
  obtain rfl : i = 0 := by omega
  simp [unpackSign, packComponents, BitVec.getLsbD_append, BitVec.getElem_append]

@[simp] theorem ofBitVec_toBitVec (sign : Sign) : Sign.ofBitVec sign.toBitVec = sign := by
  cases sign <;> rfl

section Unpacking
variable {sign : Sign} {field : BitVec 11} {fraction : BitVec 52}

theorem unpack_packComponents_normal (inner : field ≠ -1#11) (normal : field ≠ 0#11) :
    UnpackedFloat.unpack Format.binary64 (packComponents Format.binary64 sign field fraction) =
      .finite sign (2 ^ 52 + fraction.toNat) (field.toNat - 1075) (Nat.add_pos_left (Nat.two_pow_pos 52) _) := by
  unfold UnpackedFloat.unpack
  simp only [unpackExponent_packComponents, unpackMantissa_packComponents, unpackSign_packComponents,
    ofBitVec_toBitVec]
  rw [if_neg inner, if_neg normal]
  congr 1
  exact toNat_append_one fraction

theorem unpack_packComponents_subnormal (some_ : 0 < fraction.toNat) :
    UnpackedFloat.unpack Format.binary64 (packComponents Format.binary64 sign 0#11 fraction) =
      .finite sign fraction.toNat (-1074) some_ := by
  have nonzero : fraction ≠ 0#52 := by
    rintro rfl
    cases some_
  unfold UnpackedFloat.unpack
  simp only [unpackExponent_packComponents, unpackMantissa_packComponents, unpackSign_packComponents,
    ofBitVec_toBitVec]
  rw [if_neg (by decide), if_pos trivial, dif_neg nonzero]
  rfl

end Unpacking

/-- What is packed as such a float is unpacked as it. -/
theorem unpack_pack {x : UnpackedFloat} (canonical : Canonical x) :
    UnpackedFloat.unpack Format.binary64 (UnpackedFloat.pack Format.binary64 x) = x := by
  cases x with
  | zero sign => cases sign <;> rfl
  | infinity sign => cases sign <;> rfl
  | notANumber => rfl
  | finite sign mantissa exponent positive =>
    obtain ⟨short, least, most, lowest⟩ := canonical
    obtain ⟨small, ⟨length, packed⟩ | ⟨length, packed⟩⟩ := pack_finite sign positive most
    · have full : 2 ^ 52 ≤ mantissa := length ▸ Nat.log2_self_le (Nat.ne_of_gt positive)
      have field : (BitVec.ofNat 11 (exponent + 1075).toNat).toNat = (exponent + 1075).toNat := by
        rw [BitVec.toNat_ofNat, Nat.mod_eq_of_lt (Nat.lt_of_succ_lt small)]
      have normal : BitVec.ofNat 11 (exponent + 1075).toNat ≠ 0#11 := by
        intro same
        have none : (exponent + 1075).toNat = 0 := field ▸ congrArg BitVec.toNat same
        omega
      rw [packed, unpack_packComponents_normal (exponent_ne_top small) normal]
      congr 1
      · rw [BitVec.toNat_ofNat]
        omega
      · rw [field]
        omega
    · have bare : mantissa < 2 ^ 52 := by
        have shorter : mantissa.log2 < 53 := (Nat.log2_lt (Nat.ne_of_gt positive)).mpr short
        exact (Nat.log2_lt (Nat.ne_of_gt positive)).mp (by omega)
      have whole : (BitVec.ofNat 52 mantissa).toNat = mantissa := by
        rw [BitVec.toNat_ofNat, Nat.mod_eq_of_lt bare]
      rw [packed, unpack_packComponents_subnormal (whole.symm ▸ positive)]
      congr 1
      exact (lowest bare).symm

/-! ### Ranks -/

/-- How many floats of its sign stand between the float and zero, itself included, with that sign. -/
def unpackedRank : UnpackedFloat → Int
  | .finite sign mantissa exponent _ => sign.apply ((exponent + 1074) * 2 ^ 52 + mantissa)
  | .infinity sign => sign.apply (2047 * 2 ^ 52)
  | .zero _ | .notANumber => 0

/-- Floats that are neither zero nor infinite stand between those. -/
theorem FitsFields.magnitude {mantissa : Nat} {exponent : Int} (fits : FitsFields mantissa exponent)
    (positive : 0 < mantissa) :
    0 < (exponent + 1074) * 2 ^ 52 + mantissa ∧ (exponent + 1074) * 2 ^ 52 + mantissa < 2047 * 2 ^ 52 := by
  obtain ⟨short, least, most, _⟩ := fits
  omega

/-- The place of a float among all floats, counted from zero. -/
def floatRank (x : Float) : Int := unpackedRank x.toModel.unpack

/-- Of two floats with one sign the exponents decide, and then the significands. -/
theorem compare_rank {mantissa mantissa' : Nat} {exponent exponent' : Int} (fits : FitsFields mantissa exponent)
    (fits' : FitsFields mantissa' exponent') : (compare exponent exponent').then (compare mantissa mantissa') =
      compare ((exponent + 1074) * 2 ^ 52 + mantissa) ((exponent' + 1074) * 2 ^ 52 + mantissa') := by
  obtain ⟨short, least, _, lowest⟩ := fits
  obtain ⟨short', least', _, lowest'⟩ := fits'
  rcases Int.lt_trichotomy exponent exponent' with less | rfl | greater
  · rw [Int.compare_eq_lt.mpr less, Int.compare_eq_lt.mpr (by omega)]
    rfl
  · rcases Nat.lt_trichotomy mantissa mantissa' with less | rfl | greater
    · rw [Int.compare_eq_eq.mpr rfl, Nat.compare_eq_lt.mpr less, Int.compare_eq_lt.mpr (by omega)]
      rfl
    · rw [Int.compare_eq_eq.mpr rfl, Nat.compare_eq_eq.mpr rfl, Int.compare_eq_eq.mpr rfl]
      rfl
    · rw [Int.compare_eq_eq.mpr rfl, Nat.compare_eq_gt.mpr greater, Int.compare_eq_gt.mpr (by omega)]
      rfl
  · rw [Int.compare_eq_gt.mpr greater, Int.compare_eq_gt.mpr (by omega)]
    rfl

theorem compare_neg_neg (a b : Int) : compare (-a) (-b) = (compare a b).swap := by
  rcases Int.lt_trichotomy a b with less | rfl | greater
  · rw [Int.compare_eq_lt.mpr less]
    exact Int.compare_eq_gt.mpr (by omega)
  · rw [Int.compare_eq_eq.mpr rfl, Int.compare_eq_eq.mpr rfl]
    rfl
  · rw [Int.compare_eq_gt.mpr greater]
    exact Int.compare_eq_lt.mpr (by omega)

/-- Numbers are compared by their ranks. -/
theorem compare_eq_some {x y : UnpackedFloat} (canonical : Canonical x) (canonical' : Canonical y)
    (number : x.isNaN = false) (number' : y.isNaN = false) :
    x.compare y = some (compare (unpackedRank x) (unpackedRank y)) := by
  -- But for two finite floats of one sign, the kinds and signs decide, and the ranks of finite floats are inner ones.
  have less : ∀ {a b : Int}, a < b → some Ordering.lt = some (compare a b) := fun lt =>
    congrArg some (Int.compare_eq_lt.mpr lt).symm
  have greater : ∀ {a b : Int}, b < a → some Ordering.gt = some (compare a b) := fun gt =>
    congrArg some (Int.compare_eq_gt.mpr gt).symm
  cases x with
  | notANumber => cases number
  | infinity sign =>
    cases y with
    | notANumber => cases number'
    | infinity sign' => cases sign <;> cases sign' <;> rfl
    | zero sign' => cases sign <;> rfl
    | finite sign' mantissa exponent positive =>
      have inner := FitsFields.magnitude canonical' positive
      cases sign <;> cases sign' <;> simp only [UnpackedFloat.compare, unpackedRank, Sign.apply] <;>
        first | exact less (by omega) | exact greater (by omega)
  | zero sign =>
    cases y with
    | notANumber => cases number'
    | infinity sign' => cases sign' <;> rfl
    | zero sign' => rfl
    | finite sign' mantissa exponent positive =>
      have inner := FitsFields.magnitude canonical' positive
      cases sign' <;> simp only [UnpackedFloat.compare, unpackedRank, Sign.apply] <;>
        first | exact less (by omega) | exact greater (by omega)
  | finite sign mantissa exponent positive =>
    have inner := FitsFields.magnitude canonical positive
    cases y with
    | notANumber => cases number'
    | infinity sign' =>
      cases sign <;> cases sign' <;> simp only [UnpackedFloat.compare, unpackedRank, Sign.apply] <;>
        first | exact less (by omega) | exact greater (by omega)
    | zero sign' =>
      cases sign <;> simp only [UnpackedFloat.compare, unpackedRank, Sign.apply] <;>
        first | exact less (by omega) | exact greater (by omega)
    | finite sign' mantissa' exponent' positive' =>
      have inner' := FitsFields.magnitude canonical' positive'
      have together := compare_rank canonical canonical'
      cases sign <;> cases sign' <;> simp only [UnpackedFloat.compare, unpackedRank, Sign.apply]
      · rw [compare_neg_neg, together]
      · exact less (by omega)
      · exact greater (by omega)
      · rw [together]

/-- Of two numbers one is less than the other just when its rank is. -/
theorem lt_iff_floatRank {x y : Float} (number : x.isNaN = false) (number' : y.isNaN = false) :
    x < y ↔ floatRank x < floatRank y := by
  have compared : x.toModel.unpack.compare y.toModel.unpack = some (compare (floatRank x) (floatRank y)) :=
    compare_eq_some (canonical_unpack _) (canonical_unpack _) number number'
  change decide ((x.toModel.unpack.compare y.toModel.unpack == some Ordering.lt) = true) = true ↔ _
  rw [compared, decide_eq_true_iff, beq_iff_eq, Option.some_inj, Int.compare_eq_lt]

theorem toModel_neg (x : Float) : (-x).toModel.unpack = x.toModel.unpack.neg := by
  refine unpack_pack ?_
  have canonical : Canonical x.toModel.unpack := canonical_unpack _
  cases unpacked : x.toModel.unpack with
  | finite sign mantissa exponent positive =>
    rw [unpacked] at canonical
    exact canonical
  | zero | infinity | notANumber => trivial

theorem isNaN_neg {x : Float} (number : x.isNaN = false) : (-x).isNaN = false := by
  change (-x).toModel.unpack.isNaN = false
  rw [toModel_neg]
  change x.toModel.unpack.isNaN = false at number
  cases unpacked : x.toModel.unpack with
  | zero | infinity | finite => rfl
  | notANumber => rw [unpacked] at number; cases number

theorem floatRank_neg (x : Float) : floatRank (-x) = -floatRank x := by
  rw [floatRank, floatRank, toModel_neg]
  cases x.toModel.unpack with
  | zero | notANumber => rfl
  | infinity sign =>
    cases sign
    · exact (Int.neg_neg _).symm
    · rfl
  | finite sign mantissa exponent positive =>
    cases sign
    · exact (Int.neg_neg _).symm
    · rfl

theorem toModel_ofBits (bits : UInt64) :
    (Float.ofBits bits).toModel.unpack = UnpackedFloat.unpack Format.binary64 bits.toBitVec :=
  unpack_pack (canonical_unpack _)

/-- Up to that of infinity, bits count the floats from zero on. -/
theorem unpackedRank_unpack {bits : BitVec Format.binary64.numBits} (low : bits.toNat ≤ 2047 * 2 ^ 52) :
    (UnpackedFloat.unpack Format.binary64 bits).isNaN = false ∧
      unpackedRank (UnpackedFloat.unpack Format.binary64 bits) = bits.toNat := by
  have field : (unpackExponent bits).toNat = bits.toNat / 2 ^ 52 % 2 ^ 11 := toNat_unpackExponent
  have fraction : (unpackMantissa bits).toNat = bits.toNat % 2 ^ 52 := toNat_unpackMantissa
  have positive : unpackSign bits = 0#1 := unpackSign_eq_zero (by omega)
  unfold UnpackedFloat.unpack
  dsimp only
  rw [positive]
  split
  · rename_i top
    have highest : (unpackExponent bits).toNat = 2047 := congrArg BitVec.toNat top
    have none : unpackMantissa bits = 0#_ := BitVec.eq_of_toNat_eq (by
      change (unpackMantissa bits).toNat = 0
      omega)
    rw [if_pos none]
    refine ⟨rfl, ?_⟩
    change (2047 * 2 ^ 52 : Int) = bits.toNat
    omega
  · split
    · rename_i _ subnormal
      have lowest : (unpackExponent bits).toNat = 0 := congrArg BitVec.toNat subnormal
      split
      · rename_i none
        have nothing : (unpackMantissa bits).toNat = 0 := congrArg BitVec.toNat none
        refine ⟨rfl, ?_⟩
        change (0 : Int) = bits.toNat
        omega
      · refine ⟨rfl, ?_⟩
        change (((unpackExponent bits).toNat : Int) - (1023 + 52) + 1 + 1074) * 2 ^ 52 + (unpackMantissa bits).toNat =
          bits.toNat
        omega
    · refine ⟨rfl, ?_⟩
      have full := toNat_append_one (unpackMantissa bits)
      change (((unpackExponent bits).toNat : Int) - (1023 + 52) + 1074) * 2 ^ 52 + (1#1 ++ unpackMantissa bits).toNat =
        bits.toNat
      omega

theorem floatRank_ofBits {count : Nat} (low : count ≤ 2047 * 2 ^ 52) :
    (Float.ofBits (UInt64.ofNat count)).isNaN = false ∧
      floatRank (Float.ofBits (UInt64.ofNat count)) = count := by
  have whole : (UInt64.ofNat count).toBitVec.toNat = count := by
    simp
    omega
  obtain ⟨number, rank⟩ := unpackedRank_unpack (whole.symm ▸ low)
  rw [← toModel_ofBits] at number rank
  exact ⟨number, rank.trans (congrArg Nat.cast whole)⟩

/-! ### Nearest floats of integers -/

theorem roundEven_mono {num num' : Nat} (den : Nat) (le : num ≤ num') : roundEven num den ≤ roundEven num' den := by
  have parts := Nat.div_add_mod num den
  have parts' := Nat.div_add_mod num' den
  unfold roundEven
  dsimp only
  rcases Nat.lt_or_eq_of_le (Nat.div_le_div_right (c := den) le) with less | same
  · split_ifs <;> omega
  · rw [same] at parts ⊢
    have rest : num % den ≤ num' % den := by omega
    split_ifs <;> omega

theorem roundEven_le {num den count : Nat} (positive : 0 < den) (le : num ≤ count * den) : roundEven num den ≤ count :=
  Nat.le_trans (roundEven_mono den le) (Nat.le_of_eq (roundEven_exact count positive))

theorem le_roundEven {num den count : Nat} (positive : 0 < den) (le : count * den ≤ num) : count ≤ roundEven num den :=
  Nat.le_trans (Nat.le_of_eq (roundEven_exact count positive).symm) (roundEven_mono den le)

theorem scaled_one (n bits : Nat) (width : Nat) :
    scaled n 1 ((bits : Int) - width) = (n * 2 ^ (width - bits), 2 ^ (bits - width)) := by
  have up : (-((bits : Int) - width)).toNat = width - bits := by omega
  have down : ((bits : Int) - width).toNat = bits - width := by omega
  rw [scaled, up, down, Nat.one_mul]
  rfl

/-- Of two lengths the longer one is reached from either of them. -/
theorem two_pow_mul_sub (width bits : Nat) : 2 ^ width * 2 ^ (bits - width) = 2 ^ bits * 2 ^ (width - bits) := by
  rw [← Nat.pow_add, ← Nat.pow_add]
  congr 1
  omega

theorem unitFor_one {n : Nat} (some_ : n ≠ 0) : unitFor n 1 = n.log2 - 52 := by
  have guess : max ((n.log2 : Int) - ((1 : Nat).log2 : Int) - 53) Binary.lowest = n.log2 - (53 : Nat) := by
    have none : (1 : Nat).log2 = 0 := rfl
    rw [none, Binary.lowest]
    omega
  have long : 2 ^ 53 ≤ n * 2 ^ (53 - n.log2) / 2 ^ (n.log2 - 53) := by
    rw [Nat.le_div_iff_mul_le (Nat.two_pow_pos _), two_pow_mul_sub]
    exact Nat.mul_le_mul_right _ (Nat.log2_self_le some_)
  unfold unitFor
  rw [guess]
  dsimp only
  rw [scaled_one]
  exact (if_neg (Nat.not_lt.mpr long)).trans (by omega)

/-- The significand of the float nearest to an integer. -/
def nearestSignificand (n : Nat) : Nat := roundEven (n * 2 ^ (52 - n.log2)) (2 ^ (n.log2 - 52))

theorem le_nearestSignificand {n : Nat} (some_ : n ≠ 0) : 2 ^ 52 ≤ nearestSignificand n := by
  apply le_roundEven (Nat.two_pow_pos _)
  rw [two_pow_mul_sub]
  exact Nat.mul_le_mul_right _ (Nat.log2_self_le some_)

theorem nearestSignificand_le (n : Nat) : nearestSignificand n ≤ 2 ^ 53 := by
  apply roundEven_le (Nat.two_pow_pos _)
  calc n * 2 ^ (52 - n.log2) ≤ 2 ^ (n.log2 + 1) * 2 ^ (52 - n.log2) :=
        Nat.mul_le_mul_right _ (Nat.le_of_lt Nat.lt_log2_self)
    _ = 2 * (2 ^ n.log2 * 2 ^ (52 - n.log2)) := by rw [Nat.pow_succ', Nat.mul_assoc]
    _ = 2 ^ 53 * 2 ^ (n.log2 - 52) := by rw [← two_pow_mul_sub, ← Nat.mul_assoc, ← Nat.pow_succ']

/-- The place of the float nearest to an integer, as though there were no largest one. -/
def nearestPlace (n : Nat) : Nat := if n = 0 then 0 else (n.log2 + 1022) * 2 ^ 52 + nearestSignificand n

theorem nearestPlace_mono {n n' : Nat} (le : n ≤ n') : nearestPlace n ≤ nearestPlace n' := by
  by_cases none : n = 0
  · rw [nearestPlace, if_pos none]
    exact Nat.zero_le _
  · have some_ : n' ≠ 0 := fun zero => none (Nat.le_zero.mp (zero ▸ le))
    rw [nearestPlace, if_neg none, nearestPlace, if_neg some_]
    have longer : n.log2 ≤ n'.log2 := (Nat.le_log2 some_).mpr (Nat.le_trans (Nat.log2_self_le none) le)
    -- A longer integer has at least the least significand one exponent up, which the greatest one may round to.
    rcases Nat.lt_or_eq_of_le longer with less | same
    · have low := le_nearestSignificand some_
      have high := nearestSignificand_le n
      omega
    · rw [nearestSignificand, nearestSignificand, ← same]
      exact Nat.add_le_add_left (roundEven_mono _ (Nat.mul_le_mul_right _ le)) _

/-- Integers that fit into a significand are told apart. -/
theorem nearestPlace_lt {n n' : Nat} (less : n < n') (short : n' ≤ 2 ^ 53) : nearestPlace n < nearestPlace n' := by
  have some_ : n' ≠ 0 := Nat.ne_of_gt (Nat.zero_lt_of_lt less)
  have low := le_nearestSignificand some_
  by_cases none : n = 0
  · rw [nearestPlace, if_pos none, nearestPlace, if_neg some_]
    omega
  · -- Up to this length integers are only shifted, so that nothing is rounded.
    have exact_ : ∀ k : Nat, k.log2 ≤ 52 → nearestSignificand k = k * 2 ^ (52 - k.log2) := fun k shorter => by
      have unit : 2 ^ (k.log2 - 52) = 1 := by rw [Nat.sub_eq_zero_of_le shorter, Nat.pow_zero]
      rw [nearestSignificand, unit]
      simpa using roundEven_exact (k * 2 ^ (52 - k.log2)) Nat.one_pos
    have shorter : n.log2 ≤ 52 := log2_le_of_lt (Nat.lt_of_lt_of_le less short)
    have inside : n * 2 ^ (52 - n.log2) < 2 ^ 53 := by
      calc n * 2 ^ (52 - n.log2) < 2 ^ (n.log2 + 1) * 2 ^ (52 - n.log2) :=
            Nat.mul_lt_mul_of_pos_right Nat.lt_log2_self (Nat.two_pow_pos _)
        _ = 2 ^ 53 := by rw [← Nat.pow_add]; congr 1; omega
    have longer : n.log2 ≤ n'.log2 := (Nat.le_log2 some_).mpr (Nat.le_trans (Nat.log2_self_le none) (Nat.le_of_lt less))
    rw [nearestPlace, if_neg none, nearestPlace, if_neg some_, exact_ n shorter]
    rcases Nat.lt_or_eq_of_le longer with further | same
    · omega
    · rw [exact_ n' (same ▸ shorter), ← same]
      exact Nat.add_lt_add_left (Nat.mul_lt_mul_of_pos_right less (Nat.two_pow_pos _)) _

theorem nearestPlace_le_of_short {n : Nat} (short : n ≤ 2 ^ 53) : nearestPlace n ≤ 2047 * 2 ^ 52 := by
  have high := nearestSignificand_le n
  have length : n.log2 ≤ 53 := log2_le_of_lt (Nat.lt_of_le_of_lt short (by decide))
  unfold nearestPlace
  split <;> omega

theorem floatRank_nearestFloat (n : Nat) : (nearestFloat n 1).isNaN = false ∧
    floatRank (nearestFloat n 1) = (min (nearestPlace n) (2047 * 2 ^ 52) : Nat) := by
  unfold nearestFloat nearestPlace
  split
  · exact ⟨by decide, rfl⟩
  · rename_i some_
    dsimp only
    have unit : ((n.log2 : Int) - 52 - Binary.lowest).toNat = n.log2 + 1022 := by
      rw [Binary.lowest]
      omega
    have quotient : scaled n 1 ((n.log2 : Int) - 52) = (n * 2 ^ (52 - n.log2), 2 ^ (n.log2 - 52)) :=
      scaled_one n n.log2 52
    rw [unitFor_one some_]
    rw [unit, quotient]
    exact floatRank_ofBits (Nat.min_le_right _ _)

theorem isNaN_integerFloat (n : Int64) : (integerFloat n).isNaN = false := by
  unfold integerFloat
  dsimp only
  split
  · exact isNaN_neg (floatRank_nearestFloat _).1
  · exact (floatRank_nearestFloat _).1

theorem floatRank_integerFloat (n : Int64) : floatRank (integerFloat n) =
    if n.toInt < 0 then -((min (nearestPlace n.toInt.natAbs) (2047 * 2 ^ 52) : Nat) : Int)
    else (min (nearestPlace n.toInt.natAbs) (2047 * 2 ^ 52) : Nat) := by
  unfold integerFloat
  dsimp only
  split
  · rw [floatRank_neg, (floatRank_nearestFloat _).2]
  · exact (floatRank_nearestFloat _).2

/-- The nearest floats of integers keep their order. -/
theorem floatRank_integerFloat_mono {n n' : Int64} (le : n.toInt ≤ n'.toInt) :
    floatRank (integerFloat n) ≤ floatRank (integerFloat n') := by
  rw [floatRank_integerFloat, floatRank_integerFloat]
  split_ifs
  · have places : nearestPlace n'.toInt.natAbs ≤ nearestPlace n.toInt.natAbs := nearestPlace_mono (by omega)
    omega
  · omega
  · omega
  · have places : nearestPlace n.toInt.natAbs ≤ nearestPlace n'.toInt.natAbs := nearestPlace_mono (by omega)
    omega

/-- Integers that fit into a significand stay apart as floats. -/
theorem floatRank_integerFloat_lt {n n' : Int64} (less : n.toInt < n'.toInt) (short : n.toInt.natAbs ≤ 2 ^ 53)
    (short' : n'.toInt.natAbs ≤ 2 ^ 53) : floatRank (integerFloat n) < floatRank (integerFloat n') := by
  have zero : nearestPlace 0 = 0 := rfl
  have low := nearestPlace_le_of_short short
  have low' := nearestPlace_le_of_short short'
  rw [floatRank_integerFloat, floatRank_integerFloat]
  split_ifs
  · have places : nearestPlace n'.toInt.natAbs < nearestPlace n.toInt.natAbs := nearestPlace_lt (by omega) short
    omega
  · have places : nearestPlace 0 < nearestPlace n.toInt.natAbs := nearestPlace_lt (by omega) short
    omega
  · omega
  · have places : nearestPlace n.toInt.natAbs < nearestPlace n'.toInt.natAbs := nearestPlace_lt (by omega) short'
    omega

end FieldSelect
