import GuardedInstall.Decimal.Notation
import Mathlib

/-!
# Positive numbers

A floating-point number is at most zero, or positive, or no number at all. What is nearest to
a positive integer is positive. Rounding leaves something of every value that is not below the
least positive number, packing keeps its sign, and so it is with both conversions of integers,
the fast one of those with a mantissa's digits and the one of all others.
-/

namespace GuardedInstall.Decimal

open Float.Model (Format UnpackedFloat)
open Float.Model.UnpackedFloat (Sign Accuracy ExtendedMantissa)

/-! ## Rounding -/

/-- The exponent of the least positive number. -/
def leastExponent : Int := -1074

/-- A mantissa with an exponent, as a number in double precision has them. -/
structure Fits (mantissa : Nat) (exponent : Int) : Prop where
  positive : 0 < mantissa
  bounded : mantissa < 2 ^ 53
  least : leastExponent ≤ exponent

theorem mantissa_repeat (extended : ExtendedMantissa) (steps : Nat) :
    (steps.repeat ExtendedMantissa.shiftRightOne extended).mantissa =
      extended.mantissa / 2 ^ steps := by
  induction steps with
  | zero => simp [Nat.repeat]
  | succ steps ih =>
      rw [Nat.repeat, ExtendedMantissa.shiftRightOne, ih, Nat.div_div_eq_div_mul, Nat.pow_succ]

theorem mantissa_ofMantissaAndAccuracy (mantissa : Nat) (accuracy : Accuracy) :
    (ExtendedMantissa.ofMantissaAndAccuracy mantissa accuracy).mantissa = mantissa := by
  rcases accuracy with _ | (_ | _ | _) <;> rfl

/-- A value that is not below the least positive number is shifted to a mantissa and an
exponent that fit. -/
theorem fits_shiftToTargetExponent {mantissa : Nat} {exponent : Int} (positive : 0 < mantissa)
    (within : leastExponent ≤ mantissa.log2 + exponent) (accuracy : Accuracy) :
    Fits (UnpackedFloat.shiftToTargetExponent .binary64 mantissa exponent accuracy).1.mantissa
      (UnpackedFloat.shiftToTargetExponent .binary64 mantissa exponent accuracy).2 := by
  have target : Format.binary64.targetExponent (Float.Model.totalExponent mantissa exponent) =
      max (mantissa.log2 + 1 + exponent - 53) leastExponent := rfl
  simp only [UnpackedFloat.shiftToTargetExponent, UnpackedFloat.shiftToExponent, target,
    HShiftRight.hShiftRight, mantissa_repeat, mantissa_ofMantissaAndAccuracy]
  generalize steps :
    (max (mantissa.log2 + 1 + exponent - 53) leastExponent - exponent).toNat = amount
  have lower : 2 ^ mantissa.log2 ≤ mantissa := Nat.log2_self_le (by omega)
  have upper : mantissa < 2 ^ (mantissa.log2 + 1) := Nat.lt_log2_self
  constructor
  case positive =>
    have few : amount ≤ mantissa.log2 := by omega
    exact Nat.div_pos (Nat.le_trans (Nat.pow_le_pow_right (by decide) few) lower)
      (Nat.two_pow_pos _)
  case bounded =>
    have enough : mantissa.log2 + 1 ≤ 53 + amount := by omega
    rw [Nat.div_lt_iff_lt_mul (Nat.two_pow_pos _), ← Nat.pow_add]
    exact Nat.lt_of_lt_of_le upper (Nat.pow_le_pow_right (by decide) enough)
  case least => omega

theorem mantissa_le_roundedMantissa (extended : ExtendedMantissa) :
    extended.mantissa ≤ extended.roundedMantissa := by
  rcases extended with ⟨mantissa, _ | _, _ | _⟩ <;>
    simp [ExtendedMantissa.roundedMantissa, ExtendedMantissa.accuracy,
      Accuracy.roundToNearestEven]

/-- Rounding a value that is not below the least positive number leaves a positive one. -/
theorem exists_roundWithAccuracy {mantissa : Nat} {exponent : Int} (positive : 0 < mantissa)
    (within : leastExponent ≤ mantissa.log2 + exponent) :
    ∃ rounded lowest pos, UnpackedFloat.roundWithAccuracy .binary64 .positive mantissa exponent
      .exact = .finite .positive rounded lowest pos ∧ Fits rounded lowest := by
  have first := fits_shiftToTargetExponent positive within .exact
  have low := first.least
  -- Rounding can only carry the mantissa up, so the second shift is within the bound as well.
  have kept := Nat.lt_of_lt_of_le first.positive (mantissa_le_roundedMantissa _)
  have second := fits_shiftToTargetExponent kept
    (Int.le_trans low (Int.le_add_of_nonneg_left (Int.natCast_nonneg _))) .exact
  exact ⟨_, _, second.positive, dif_neg (Nat.ne_of_gt second.positive), second⟩

/-! ## Packing -/

/-- A positive number: infinity, or a finite one whose exponent is not below the least. -/
inductive IsPositive : UnpackedFloat → Prop where
  | infinity : IsPositive (.infinity .positive)
  | finite {mantissa : Nat} {exponent : Int} (positive : 0 < mantissa)
      (least : leastExponent ≤ exponent) :
      IsPositive (.finite .positive mantissa exponent positive)

/-- Of all that is packed with a positive sign, only zero and what is no number are not
positive. -/
theorem isPositive_unpack_packComponents {exponent : BitVec 11} {mantissa : BitVec 52}
    (isNumber : exponent = -1#11 → mantissa = 0#52)
    (nonzero : exponent = 0#11 → mantissa ≠ 0#52) :
    IsPositive (UnpackedFloat.unpack .binary64
      (UnpackedFloat.packComponents .binary64 .positive exponent mantissa)) := by
  simp only [UnpackedFloat.unpack, UnpackedFloat.unpackMantissa_packComponents,
    UnpackedFloat.unpackExponent_packComponents, UnpackedFloat.unpackSign_packComponents,
    Sign.ofBitVec_toBitVec]
  by_cases top : exponent = -1#11
  · rw [if_pos top, if_pos (isNumber top)]
    exact .infinity
  · rw [if_neg top]
    have bias : (Format.binary64.exponentBias + Format.binary64.mantissaBitsWithoutImplicit : Int) =
        1075 := rfl
    by_cases bottom : exponent = 0#11
    · rw [if_pos bottom, dif_neg (nonzero bottom), bias]
      exact .finite _ (by subst bottom; decide)
    · rw [if_neg bottom, bias]
      have : exponent.toNat ≠ 0 := fun none => bottom (BitVec.eq_of_toNat_eq none)
      exact .finite _ (by unfold leastExponent; omega)

/-- Packing a positive number keeps it positive. -/
theorem isPositive_unpack_pack {mantissa : Nat} {exponent : Int} (fits : Fits mantissa exponent)
    (pos : 0 < mantissa) :
    IsPositive (UnpackedFloat.unpack .binary64
      (UnpackedFloat.pack .binary64 (.finite .positive mantissa exponent pos))) := by
  have low : 1 ≤ (exponent + 1075).toNat := by
    have := fits.least
    unfold leastExponent at this
    omega
  have biased : (exponent + Format.binary64.exponentBias +
      Format.binary64.mantissaBitsWithoutImplicit).toNat = (exponent + 1075).toNat := by
    rw [Int.add_assoc]
    rfl
  simp only [UnpackedFloat.pack, biased]
  generalize (exponent + 1075).toNat = code at low
  split
  case isTrue =>
    exact isPositive_unpack_packComponents (fun _ => rfl) (fun none => absurd none (by decide))
  case isFalse fine =>
    split
    case isTrue full =>
      have code_ne {other : BitVec 11} (differs : code ≠ other.toNat) :
          BitVec.ofNat 11 code ≠ other := by
        rintro rfl
        rw [BitVec.toNat_ofNat, Nat.mod_eq_of_lt (by omega)] at differs
        exact differs rfl
      refine isPositive_unpack_packComponents (fun top => absurd top (code_ne ?_))
        (fun none => absurd none (code_ne ?_))
      · exact Nat.ne_of_lt (show code < 2047 by omega)
      · exact Nat.ne_of_gt (show 0 < code by omega)
    case isFalse short =>
      have below : mantissa < 2 ^ 52 := by
        have few := (Nat.log2_lt (Nat.ne_of_gt pos)).mpr fits.bounded
        have whole : Format.binary64.mantissaBits = 53 := rfl
        exact (Nat.log2_lt (Nat.ne_of_gt pos)).mp (by omega)
      refine isPositive_unpack_packComponents (fun top => absurd top (by decide)) (fun _ none => ?_)
      have := congrArg BitVec.toNat none
      rw [BitVec.toNat_ofNat, Nat.mod_eq_of_lt below] at this
      exact absurd this (Nat.ne_of_gt pos)

/-! ## Order -/

variable {x y : Float}

theorem lt_iff_unpack : x < y ↔ x.toModel.unpack.lt y.toModel.unpack = true :=
  decide_eq_true_iff

theorem le_iff_unpack : x ≤ y ↔ x.toModel.unpack.le y.toModel.unpack = true :=
  decide_eq_true_iff

theorem unpack_zero : (0 : Float).toModel.unpack = .zero .positive := by
  rfl

theorem pos_of_isPositive (positive : IsPositive x.toModel.unpack) : 0 < x := by
  rw [lt_iff_unpack, unpack_zero]
  generalize x.toModel.unpack = number at positive
  cases positive <;> rfl

theorem isNaN_eq_unpack (x : Float) : x.isNaN = x.toModel.unpack.isNaN :=
  rfl

/-- What is not at most zero is positive, unless it is no number. -/
theorem pos_of_not_nonpos (above : ¬ x ≤ 0) (number : x.isNaN = false) : 0 < x := by
  rw [le_iff_unpack, unpack_zero] at above
  rw [isNaN_eq_unpack] at number
  rw [lt_iff_unpack, unpack_zero]
  generalize x.toModel.unpack = value at above number ⊢
  rcases value with (_ | _) | _ | _ | ⟨_ | _, _, _, _⟩
  · exact absurd rfl above
  · rfl
  · cases number
  · exact absurd rfl above
  · exact absurd rfl above
  · rfl

theorem not_pos_of_isNaN (none : x.isNaN = true) : ¬ 0 < x := by
  rw [isNaN_eq_unpack] at none
  rw [lt_iff_unpack, unpack_zero]
  generalize x.toModel.unpack = value at none ⊢
  cases value with
  | notANumber => decide
  | _ => cases none

/-! ## Integers -/

theorem isPositive_pack_roundWithAccuracy {mantissa : Nat} {exponent : Int}
    (positive : 0 < mantissa) (within : leastExponent ≤ mantissa.log2 + exponent) :
    IsPositive (Float.Model.pack (UnpackedFloat.roundWithAccuracy .binary64 .positive mantissa
      exponent .exact)).unpack := by
  obtain ⟨rounded, lowest, pos, equal, fits⟩ := exists_roundWithAccuracy positive within
  rw [equal]
  exact isPositive_unpack_pack fits pos

/-- The conversion of an integer by shifting it into place. -/
theorem isPositive_pack_ofNat {n : Nat} (positive : 0 < n) :
    IsPositive (Float.Model.pack (UnpackedFloat.ofNat .binary64 n)).unpack := by
  have above : compare (n : Int) 0 = .gt := by
    rw [Int.compare_eq_gt]
    omega
  simp only [UnpackedFloat.ofNat, UnpackedFloat.ofInt, UnpackedFloat.normalize, above,
    UnpackedFloat.round, UnpackedFloat.decreaseExponent, Int.toNat_natCast]
  have least : leastExponent ≤
      Format.binary64.targetExponent (Float.Model.totalExponent n 0) := Int.le_max_right _ _
  refine isPositive_pack_roundWithAccuracy ?_ ?_
  · rw [Nat.shiftLeft_eq]
    exact Nat.mul_pos positive (Nat.two_pow_pos _)
  · unfold leastExponent at *
    omega

theorem log2_add_le_log2_mul {mantissa : Nat} (positive : 0 < mantissa) (places : Nat) :
    mantissa.log2 + places ≤ (mantissa * 2 ^ places).log2 := by
  have product : 0 < mantissa * 2 ^ places := Nat.mul_pos positive (Nat.two_pow_pos _)
  rw [Nat.le_log2 (Nat.ne_of_gt product), Nat.pow_add]
  exact Nat.mul_le_mul_right _ (Nat.log2_self_le (Nat.ne_of_gt positive))

theorem unpack_mul (x y : Float) : (x * y).toModel.unpack =
    (Float.Model.pack (.mul .binary64 x.toModel.unpack y.toModel.unpack)).unpack :=
  rfl

theorem unpack_toFloat (n : UInt64) : n.toFloat.toModel.unpack =
    (Float.Model.pack (.ofNat .binary64 n.toNat)).unpack :=
  rfl

theorem unpack_one : (Float.ofBits 0x3FF0000000000000).toModel.unpack =
    .finite .positive (2 ^ 52) (-52) (by decide) := by
  rfl

theorem isPositive_mul_one (positive : IsPositive x.toModel.unpack) :
    IsPositive (x * Float.ofBits 0x3FF0000000000000).toModel.unpack := by
  rw [unpack_mul, unpack_one]
  generalize x.toModel.unpack = value at positive
  cases positive with
  | infinity => exact .infinity
  | @finite mantissa exponent pos least =>
      have grown := log2_add_le_log2_mul pos 52
      exact isPositive_pack_roundWithAccuracy (by omega) (by omega)

/-- The conversion of an integer by multiplying it with a power of ten. -/
theorem isPositive_pack_ofScientific {n : Nat} (positive : 0 < n) :
    IsPositive (Float.Model.pack (UnpackedFloat.ofScientific .binary64 n 0)).unpack := by
  have grown := log2_add_le_log2_mul positive 53
  have scaled : UnpackedFloat.ofScientific .binary64 n 0 =
      UnpackedFloat.roundWithAccuracy .binary64 .positive (n * 2 ^ 53) (-53) .exact := by
    have bits : Format.binary64.mantissaBits = 53 := rfl
    have small : ¬ (0 : Int) < -(2 ^ Format.binary64.exponentBits + n.log2) := by
      have limit : (2 : Int) ^ Format.binary64.exponentBits = 2048 := rfl
      omega
    rw [UnpackedFloat.ofScientific, dif_neg (Nat.ne_of_gt positive), if_neg (by decide),
      if_neg small, if_pos (Int.le_refl 0)]
    simp only [UnpackedFloat.mul, bits, Nat.shiftLeft_eq, Int.toNat_zero, Nat.pow_zero, Nat.mul_one]
    rfl
  rw [scaled]
  exact isPositive_pack_roundWithAccuracy (by omega) (by unfold leastExponent; omega)

theorem isPositive_ofScientific {n : Nat} (positive : 0 < n) :
    IsPositive (Float.ofScientific n false 0).toModel.unpack := by
  unfold Float.ofScientific
  split
  case isTrue small =>
    have same : n.toUInt64.toNat = n := Nat.mod_eq_of_lt (by omega)
    have factor : IsPositive n.toUInt64.toFloat.toModel.unpack := by
      rw [unpack_toFloat, same]
      exact isPositive_pack_ofNat positive
    exact isPositive_mul_one factor
  case isFalse large =>
    exact isPositive_pack_ofScientific positive

/-- What is nearest to a positive integer is positive. -/
theorem pos_of_realOfInteger? {n : Int} (positive : 0 < n)
    (converted : realOfInteger? n = some x) : 0 < x := by
  have whole : 0 < Float.ofScientific n.natAbs false 0 :=
    pos_of_isPositive (isPositive_ofScientific (by omega))
  simp only [realOfInteger?, if_neg (Int.not_lt.mpr (Int.le_of_lt positive))] at converted
  generalize Float.ofScientific n.natAbs false 0 = size at whole converted
  split at converted
  · cases converted
  · cases converted
    exact whole

end GuardedInstall.Decimal
