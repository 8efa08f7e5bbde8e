import Mathlib
import PinBudget.Number.Basic

/-!
How far doubles reach. A whole number below `2 ^ 1023` has a double near it, and one from `2 ^ 1024`
on has none; nor does the whole part of a finite double lie beyond. The double near a whole number
is zero for zero only.
-/
namespace PinBudget

open Float.Model UnpackedFloat

/-! ## Bits -/

theorem exponent_ofNat {bits : Nat} (below : bits < infinityBits) :
    (@unpackExponent Format.binary64 (UInt64.ofNat bits).toBitVec).toNat =
      bits / 2 ^ 52 := by
  simp only [infinityBits, Nat.pow_eq] at below
  rw [unpackExponent_def]
  simp
  omega

theorem exponent_ne {bits : Nat} (below : bits < infinityBits) :
    @unpackExponent Format.binary64 (UInt64.ofNat bits).toBitVec ≠ -1#11 := by
  intro full
  have field := exponent_ofNat below
  simp only [infinityBits, Nat.pow_eq] at below
  rw [full, show (-1#11).toNat = 2047 by decide] at field
  omega

theorem unpack_ofBits {bits : Nat} (below : bits < infinityBits) :
    (Float.ofBits (UInt64.ofNat bits)).toModel.unpack =
      UnpackedFloat.unpack Format.binary64 (UInt64.ofNat bits).toBitVec := by
  have plain : @isNaNBits Format.binary64 (UInt64.ofNat bits).toBitVec = false :=
    decide_eq_false fun full => exponent_ne below full.1
  change UnpackedFloat.unpack Format.binary64 (UnpackedFloat.pack Format.binary64
    (UnpackedFloat.unpack Format.binary64 (UInt64.ofNat bits).toBitVec)) = _
  rw [pack_unpack, plain, if_neg Bool.false_ne_true]

theorem isInf_ofBits {bits : Nat} (below : bits < infinityBits) :
    (Float.ofBits (UInt64.ofNat bits)).isInf = false := by
  change (Float.ofBits (UInt64.ofNat bits)).toModel.unpack.isInf = false
  rw [unpack_ofBits below]
  simp only [UnpackedFloat.unpack]
  rw [if_neg (exponent_ne below)]
  split
  · split <;> rfl
  · rfl

theorem isInf_infinity : (Float.ofBits (UInt64.ofNat infinityBits)).isInf = true := by
  decide

section Zero

variable {b : BitVec Format.binary64.numBits}

theorem unpack_ne_zero (field : unpackExponent b ≠ 0#11) (sign : Sign) :
    UnpackedFloat.unpack Format.binary64 b ≠ .zero sign := by
  simp only [UnpackedFloat.unpack]
  split
  · split <;> exact nofun
  · exact nofun

theorem unpack_neg_ne_zero (field : unpackExponent b ≠ 0#11) (finite : unpackExponent b ≠ -1#11)
    (sign : Sign) :
    UnpackedFloat.unpack Format.binary64 (UnpackedFloat.pack Format.binary64
      (UnpackedFloat.unpack Format.binary64 b).neg) ≠ .zero sign := by
  refine unpack_ne_zero ?_ sign
  have digits : (1#1 ++ unpackMantissa b).toNat.log2 = 52 := by
    have small : (unpackMantissa b).toNat < 2 ^ 52 := (unpackMantissa b).isLt
    rw [BitVec.toNat_append, ← Nat.shiftLeft_add_eq_or_of_lt small, Nat.shiftLeft_eq,
      Nat.log2_eq_iff (by simp)]
    simp only [BitVec.toNat_ofNat]
    omega
  have exponent : (((unpackExponent b).toNat : Int) - (Format.binary64.exponentBias + (52 : Nat)) +
      Format.binary64.exponentBias + (52 : Nat)).toNat = (unpackExponent b).toNat := by
    omega
  have below : (unpackExponent b).toNat < 2047 := by
    have least := (unpackExponent b).isLt
    have other : (unpackExponent b).toNat ≠ 2047 :=
      fun same => finite (BitVec.eq_of_toNat_eq same)
    simp only [Format.binary64] at least other ⊢
    omega
  simp only [UnpackedFloat.unpack, UnpackedFloat.neg, UnpackedFloat.pack]
  rw [if_neg finite, if_neg field]
  simp only [digits, exponent]
  rw [if_neg, if_pos, unpackExponent_packComponents, BitVec.ofNat_toNat]
  · exact field
  · rfl
  · simp only [Format.binary64]
    omega

theorem beq_zero {x : Float} (nonzero : ∀ sign, x.toModel.unpack ≠ .zero sign) :
    (x == 0.0) = false := by
  have same : (x == 0.0) = x.toModel.unpack.beq (.zero .positive) := rfl
  rw [same, ← Bool.not_eq_true, beq_iff_ne_notANumber_and_eq]
  rintro ⟨-, -, equal | ⟨equal, -⟩ | ⟨equal, -⟩⟩ <;> exact nonzero _ equal

theorem withSign_ofBits_beq_zero {bits : Nat} (least : 2 ^ 52 ≤ bits) (below : bits < infinityBits)
    (negative : Bool) : (withSign negative (Float.ofBits (UInt64.ofNat bits)) == 0.0) = false := by
  have field : @unpackExponent Format.binary64 (UInt64.ofNat bits).toBitVec ≠ 0#11 := by
    intro zero
    have number := exponent_ofNat below
    rw [zero, show (0#11).toNat = 0 by decide] at number
    omega
  refine beq_zero fun sign => ?_
  cases negative with
  | false =>
    change (Float.ofBits (UInt64.ofNat bits)).toModel.unpack ≠ _
    rw [unpack_ofBits below]
    exact unpack_ne_zero field sign
  | true =>
    change UnpackedFloat.unpack Format.binary64 (UnpackedFloat.pack Format.binary64
      (Float.ofBits (UInt64.ofNat bits)).toModel.unpack.neg) ≠ _
    rw [unpack_ofBits below]
    exact unpack_neg_ne_zero field (exponent_ne below) sign

end Zero

/-! ## Whole numbers -/

theorem roundedQuotient_bounds (numerator denominator : Nat) :
    numerator / denominator ≤ roundedQuotient numerator denominator ∧
      roundedQuotient numerator denominator ≤ numerator / denominator + 1 := by
  unfold roundedQuotient
  dsimp only
  repeat' split
  all_goals omega

theorem floorLog_one {n : Nat} (pos : n ≠ 0) : floorLog n 1 = n.log2 := by
  have reached : 2 ^ n.log2 ≤ n := Nat.log2_self_le pos
  have guess : (n.log2 : Int) - Nat.log2 1 = Int.ofNat n.log2 := by
    rw [show Nat.log2 1 = 0 by decide]
    rfl
  unfold floorLog
  simp [guess, reached]

/-- The bits of the double near a natural number: a field for the exponent, and the mantissa with
its leading bit. -/
theorem nearestDouble_natural {n : Nat} (pos : n ≠ 0) :
    ∃ mantissa, 2 ^ 52 ≤ mantissa ∧ mantissa ≤ 2 ^ 53 ∧
      nearestDouble n 1 = Float.ofBits
        (UInt64.ofNat (min ((n.log2 + 1022) * 2 ^ 52 + mantissa) infinityBits)) := by
  have least : 2 ^ n.log2 ≤ n := Nat.log2_self_le pos
  have most : n < 2 ^ (n.log2 + 1) := Nat.lt_log2_self
  have unit : max (floorLog n 1 - 52) (-1074) = (n.log2 : Int) - 52 := by
    rw [floorLog_one pos]
    omega
  have offset : ((n.log2 : Int) - 52 + 1074).toNat = n.log2 + 1022 := by omega
  unfold nearestDouble
  simp only [beq_iff_eq, pos, if_false, unit, offset]
  by_cases large : 52 ≤ n.log2
  · -- The mantissa is what is left of the number before its last digits.
    obtain ⟨up, same⟩ := Nat.exists_eq_add_of_le large
    have shift : (n.log2 : Int) - 52 = Int.ofNat up := by
      rw [same]
      simp
    obtain ⟨below, above⟩ := roundedQuotient_bounds n (1 * 2 ^ up)
    have whole : 2 ^ 52 ≤ n / (1 * 2 ^ up) := by
      rw [Nat.one_mul, Nat.le_div_iff_mul_le (Nat.two_pow_pos up), ← Nat.pow_add, ← same]
      exact least
    have bounded : n / (1 * 2 ^ up) < 2 ^ 53 := by
      rw [Nat.one_mul, Nat.div_lt_iff_lt_mul (Nat.two_pow_pos up), ← Nat.pow_add,
        show 53 + up = n.log2 + 1 by omega]
      exact most
    rw [shift]
    exact ⟨_, whole.trans below, above.trans bounded, rfl⟩
  · -- The mantissa is the number itself, with zeros behind it.
    obtain ⟨down, same⟩ := Nat.exists_eq_add_of_lt (Nat.lt_of_not_le large)
    have shift : (n.log2 : Int) - 52 = Int.negSucc down := by omega
    have kept : roundedQuotient (n * 2 ^ (down + 1)) 1 = n * 2 ^ (down + 1) := by
      simp [roundedQuotient, Nat.mod_one]
    rw [shift]
    refine ⟨n * 2 ^ (down + 1), ?_, ?_, by rw [← kept]; rfl⟩
    · rw [show 52 = n.log2 + (down + 1) by omega, Nat.pow_add]
      exact Nat.mul_le_mul_right _ least
    · rw [show 53 = n.log2 + 1 + (down + 1) by omega, Nat.pow_add _ (n.log2 + 1)]
      exact Nat.mul_le_mul_right _ most.le

/-- A natural number with at most 1023 binary digits has a double near it. -/
theorem isInf_nearestDouble {n : Nat} (short : n.log2 < 1023) :
    (nearestDouble n 1).isInf = false := by
  by_cases zero : n = 0
  · subst n
    rfl
  · obtain ⟨mantissa, _, most, same⟩ := nearestDouble_natural zero
    have below : (n.log2 + 1022) * 2 ^ 52 + mantissa < infinityBits := by
      rw [infinityBits, Nat.pow_eq]
      omega
    rw [same, min_eq_left below.le]
    exact isInf_ofBits below

/-- The binary digits that the whole part of a double has at most. -/
def doubleDigits : Nat := 1024

/-- A natural number with a double near it has at most 1024 binary digits. -/
theorem log2_lt_of_isInf_nearestDouble {n : Nat} (finite : (nearestDouble n 1).isInf = false) :
    n.log2 < doubleDigits := by
  by_contra long
  have zero : n ≠ 0 := by
    rintro rfl
    exact long (by decide)
  obtain ⟨mantissa, least, _, same⟩ := nearestDouble_natural zero
  have above : infinityBits ≤ (n.log2 + 1022) * 2 ^ 52 + mantissa := by
    rw [doubleDigits] at long
    rw [infinityBits, Nat.pow_eq]
    omega
  rw [same, min_eq_right above, isInf_infinity] at finite
  cases finite

namespace Number

/-- The least power of two beyond the doubles. It is too long a number to be computed in passing. -/
@[irreducible]
def reach : Nat := 2 ^ doubleDigits

theorem reach_pos : 0 < reach := by
  unfold reach
  exact Nat.two_pow_pos doubleDigits

/-- The number has a double near it. All floating numbers do. -/
def Fits (number : Number) : Prop :=
  ∃ x, number.toFloat = .ok x

theorem fits_float (x : Float) : (float x).Fits :=
  ⟨x, rfl⟩

theorem fits_int {n : Int} (short : n.natAbs.log2 < 1023) : (int n).Fits := by
  refine ⟨withSign (n < 0) (nearestDouble n.natAbs 1), ?_⟩
  rw [toFloat, doubleOfInt, isInf_nearestDouble short, if_neg Bool.false_ne_true]

theorem fits_natural {n : Nat} (short : n < 2 ^ 64) : (int n).Fits := by
  refine fits_int ?_
  rw [Int.natAbs_natCast]
  by_cases zero : n = 0
  · subst n
    decide
  · exact ((Nat.log2_lt zero).mpr short).trans (by decide)

theorem Fits.finite {n : Int} (fits : (int n).Fits) : (nearestDouble n.natAbs 1).isInf = false := by
  obtain ⟨x, converted⟩ := fits
  by_contra infinite
  rw [toFloat, doubleOfInt, if_pos (by simpa using infinite)] at converted
  cases converted

theorem Fits.lt {n : Int} (fits : (int n).Fits) : n.natAbs < reach := by
  have within := log2_lt_of_isInf_nearestDouble fits.finite
  unfold reach
  exact Nat.lt_log2_self.trans_le (Nat.pow_le_pow_right (by decide) within)

/-- Only zero has a double that is zero. -/
theorem Fits.exists_double {n : Int} (fits : (int n).Fits) :
    ∃ y, (int n).toFloat = .ok y ∧ (y == 0.0) = decide (n = 0) := by
  have finite := fits.finite
  refine ⟨withSign (n < 0) (nearestDouble n.natAbs 1), ?_, ?_⟩
  · rw [toFloat, doubleOfInt, finite, if_neg Bool.false_ne_true]
  · by_cases zero : n = 0
    · subst n
      decide
    · obtain ⟨mantissa, least, _, same⟩ := nearestDouble_natural (Int.natAbs_ne_zero.mpr zero)
      have below : (n.natAbs.log2 + 1022) * 2 ^ 52 + mantissa < infinityBits := by
        by_contra above
        rw [same, min_eq_right (Nat.le_of_not_lt above), isInf_infinity] at finite
        cases finite
      rw [same, min_eq_left below.le, withSign_ofBits_beq_zero (by omega) below, decide_eq_false zero]

/-- A quotient exists for every divisor but zero. -/
theorem exists_quotient_iff {n : Int} (fits : (int n).Fits) (x : Float) :
    (∃ result, quotient x (int n) = .ok result) ↔ n ≠ 0 := by
  obtain ⟨y, converted, same⟩ := fits.exists_double
  rw [quotient, converted]
  by_cases zero : n = 0 <;> simp [same, zero]

end Number

/-! ## Whole parts -/

/-- The whole part of a multiple of a power of two. -/
theorem Dyadic.natAbs_truncate_le {value : Dyadic} {up : Nat} (most : value.exponent ≤ up) :
    value.truncate.natAbs ≤ value.mantissa * 2 ^ up := by
  have part : value.truncate.natAbs = value.ratio.1 / value.ratio.2 := by
    unfold truncate
    cases value.ratio
    dsimp only
    split
    · exact Int.natAbs_neg _
    · rfl
  rw [part]
  unfold ratio
  split
  · rename_i scale same
    have within : scale ≤ up := by
      rw [same] at most
      exact Int.ofNat_le.mp most
    rw [Nat.div_one]
    exact Nat.mul_le_mul_left _ (Nat.pow_le_pow_right (by decide) within)
  · exact (Nat.div_le_self _ _).trans (Nat.le_mul_of_pos_right _ (Nat.two_pow_pos up))

theorem fields_of_finite {x : Float} {value : Dyadic} (finite : magnitude x = .finite value) :
    value.mantissa < 2 ^ 53 ∧ value.exponent + 53 ≤ doubleDigits := by
  have field : x.toBits.toNat / Nat.pow 2 52 % Nat.pow 2 11 < Nat.pow 2 11 :=
    Nat.mod_lt _ (Nat.two_pow_pos 11)
  have fraction : x.toBits.toNat % Nat.pow 2 52 < Nat.pow 2 52 :=
    Nat.mod_lt _ (Nat.two_pow_pos 52)
  unfold magnitude at finite
  dsimp only at finite
  split at finite
  · split at finite <;> cases finite
  · rename_i full
    simp only [Nat.pow_eq, Int.ofNat_eq_natCast, beq_iff_eq] at full field fraction finite
    rw [doubleDigits]
    split at finite <;> cases finite <;> dsimp only <;> omega

theorem natAbs_truncate_lt {x : Float} {value : Dyadic} (finite : magnitude x = .finite value) :
    value.truncate.natAbs < Number.reach := by
  obtain ⟨mantissa, exponent⟩ := fields_of_finite finite
  obtain ⟨up, digits⟩ := Nat.exists_eq_add_of_le (show 53 ≤ doubleDigits by decide)
  have most : value.exponent ≤ up := by omega
  have product := Nat.mul_lt_mul_of_pos_right mantissa (Nat.two_pow_pos up)
  rw [← Nat.pow_add, ← digits] at product
  unfold Number.reach
  exact (Dyadic.natAbs_truncate_le most).trans_lt product

end PinBudget
