import Mathlib.Algebra.Ring.Int.Defs
import Mathlib.Algebra.Ring.Nat

/-!
# Whole numbers as doubles

A whole number is taken apart, scaled and rounded on its way to a double. It becomes an infinity
only if its exponent is too large in the end, and each of the steps raises the exponent by no more
than the number of bits that it handles. So whole numbers of 64 bits become finite doubles.

The mantissa of a double is a whole number of 53 bits. Its exponent is between -1074 and 971, and
1075 is added to it when the double is packed into a word.
-/

namespace Conduit.Doubles

open Float.Model Float.Model.UnpackedFloat

/-- The number is finite, and its mantissa and its exponent are bounded. -/
def Within (bits : Nat) (bound : Int) : UnpackedFloat → Prop
  | .zero _ => True
  | .finite _ mantissa exponent _ => mantissa < 2 ^ bits ∧ exponent ≤ bound
  | _ => False

variable {bits bits' mantissa : Nat} {bound bound' exponent : Int} {x y : UnpackedFloat}

theorem Within.isFinite (within : Within bits bound x) : x.isFinite = true := by
  cases x <;> first | rfl | cases within

theorem Within.mono (within : Within bits bound x) (wider : bits ≤ bits')
    (higher : bound ≤ bound') : Within bits' bound' x := by
  cases x with
  | infinity sign => cases within
  | notANumber => cases within
  | zero sign => trivial
  | finite sign mantissa exponent positive =>
      exact ⟨Nat.lt_of_lt_of_le within.1 (Nat.pow_le_pow_right (by decide) wider),
        Int.le_trans within.2 higher⟩

theorem Within.neg (within : Within bits bound x) : Within bits bound x.neg := by
  cases x <;> exact within

theorem Within.dite {condition : Prop} [Decidable condition] {yes : condition → UnpackedFloat}
    {no : ¬ condition → UnpackedFloat} (whenYes : ∀ holds, Within bits bound (yes holds))
    (whenNo : ∀ fails, Within bits bound (no fails)) :
    Within bits bound (if holds : condition then yes holds else no holds) := by
  split
  · exact whenYes _
  · exact whenNo _

/-- A mantissa has up to 53 bits, and no exponent is below -1074. -/
theorem targetExponent_binary64 (exponent : Int) :
    Format.binary64.targetExponent exponent = max (exponent - 53) (-1074) := rfl

theorem exponentBias_binary64 : Format.binary64.exponentBias = 1023 := rfl

section Rounding

theorem log2_le (small : mantissa ≤ 2 ^ bits) : mantissa.log2 ≤ bits := by
  rcases Nat.eq_zero_or_pos mantissa with rfl | positive
  · exact Nat.zero_le _
  · have less : mantissa < 2 ^ (bits + 1) :=
      Nat.lt_of_le_of_lt small (Nat.pow_lt_pow_succ (by decide))
    exact Nat.le_of_lt_succ ((Nat.log2_lt (Nat.ne_of_gt positive)).2 less)

theorem shiftLeft_lt {places room : Nat} (small : mantissa < 2 ^ bits) (few : places ≤ room) :
    mantissa <<< places < 2 ^ (bits + room) := by
  rw [Nat.shiftLeft_eq, Nat.pow_add]
  exact Nat.mul_lt_mul_of_lt_of_le small (Nat.pow_le_pow_right (by decide) few)
    (Nat.two_pow_pos room)

theorem mantissa_shiftRight_le (em : ExtendedMantissa) (places : Nat) :
    (em >>> places).mantissa ≤ em.mantissa := by
  induction places with
  | zero => exact Nat.le_refl _
  | succ places ih => exact Nat.le_trans (Nat.div_le_self _ 2) ih

theorem roundedMantissa_le (em : ExtendedMantissa) : em.roundedMantissa ≤ em.mantissa + 1 := by
  unfold ExtendedMantissa.roundedMantissa Accuracy.roundToNearestEven
  split <;> omega

/-- To bring a mantissa into the format costs no more exponent than it has bits. -/
theorem shiftToTargetExponent_le (accuracy : Accuracy) (small : mantissa ≤ 2 ^ bits)
    (low : exponent ≤ bound) (least : -1074 ≤ bound) :
    (shiftToTargetExponent .binary64 mantissa exponent accuracy).1.mantissa ≤ mantissa ∧
      (shiftToTargetExponent .binary64 mantissa exponent accuracy).2 ≤ bound + bits := by
  have short := log2_le small
  constructor
  · refine Nat.le_trans (mantissa_shiftRight_le _ _) ?_
    unfold ExtendedMantissa.ofMantissaAndAccuracy
    split <;> exact Nat.le_refl _
  · simp only [shiftToTargetExponent, shiftToExponent, totalExponent]
    rw [targetExponent_binary64]
    omega

/-- The mantissa is brought into the format twice, as rounding may make it longer. -/
theorem within_roundWithAccuracy (sign : Sign) (accuracy : Accuracy) (small : mantissa < 2 ^ bits)
    (low : exponent ≤ bound) (least : -1074 ≤ bound) :
    Within (bits + 1) (bound + 2 * bits)
      (roundWithAccuracy .binary64 sign mantissa exponent accuracy) := by
  obtain ⟨shorter, once⟩ := shiftToTargetExponent_le accuracy (Nat.le_of_lt small) low least
  have rounded := Nat.le_trans (roundedMantissa_le _)
    (Nat.le_trans (Nat.succ_le_succ shorter) small)
  obtain ⟨shorter', twice⟩ :=
    shiftToTargetExponent_le .exact rounded once (by omega)
  have final := Nat.lt_of_le_of_lt (Nat.le_trans shorter' rounded)
    (Nat.pow_lt_pow_succ (show 1 < 2 by decide))
  exact Within.dite (fun _ => trivial) fun _ => ⟨final, Int.le_trans twice (by omega)⟩

/-- A whole number is scaled so that its mantissa fills the format, and then rounded. -/
theorem within_ofNat {n : Nat} (small : n < 2 ^ bits) :
    Within (bits + 53) (2 * bits + 104) (UnpackedFloat.ofNat .binary64 n) := by
  unfold UnpackedFloat.ofNat UnpackedFloat.ofInt UnpackedFloat.normalize
  split
  · next negative => exact absurd (Int.compare_eq_lt.1 negative) (by omega)
  · trivial
  · unfold UnpackedFloat.round decreaseExponent
    dsimp only
    have few : (0 - Format.binary64.targetExponent (totalExponent n 0)).toNat ≤ 52 := by
      rw [targetExponent_binary64, totalExponent]
      omega
    rw [Int.toNat_natCast]
    generalize (0 - Format.binary64.targetExponent (totalExponent n 0)).toNat = places at few
    have low : 0 - (places : Int) ≤ 0 := by omega
    have rounded := within_roundWithAccuracy .positive .exact (shiftLeft_lt small few) low
    exact (rounded (by decide)).mono (by omega) (by omega)

theorem within_mul (hx : Within bits bound x) (hy : Within bits' bound' y)
    (least : -1074 ≤ bound + bound') :
    Within (bits + bits' + 1) (bound + bound' + 2 * (bits + bits'))
      (UnpackedFloat.mul .binary64 x y) := by
  cases x with
  | infinity sign => cases hx
  | notANumber => cases hx
  | zero sign => cases y <;> trivial
  | finite sign mantissa exponent positive =>
      cases y with
      | infinity sign => cases hy
      | notANumber => cases hy
      | zero sign => trivial
      | finite sign' mantissa' exponent' positive' =>
          obtain ⟨small, low⟩ := hx
          obtain ⟨small', low'⟩ := hy
          refine within_roundWithAccuracy _ _ ?_ (Int.add_le_add low low') least
          rw [Nat.pow_add]
          exact Nat.mul_lt_mul'' small small'

/-- A whole number without a power of ten is scaled in another way, and multiplied by one. -/
theorem within_ofScientific {n : Nat} (small : n < 2 ^ bits) :
    Within (bits + 55) (2 * bits + 108) (UnpackedFloat.ofScientific .binary64 n 0) := by
  refine Within.dite (fun _ => trivial) fun positive => ?_
  have wide : (0 : Int) ≤ 2 ^ Format.binary64.exponentBits := by decide
  rw [if_neg (by decide), if_neg (by omega), if_pos (by decide)]
  have within : ∀ first second, Within (bits + 53) 0 first → Within 1 0 second →
      Within (bits + 55) (2 * bits + 108) (UnpackedFloat.mul .binary64 first second) :=
    fun first second hx hy => (within_mul hx hy (by decide)).mono (by omega) (by omega)
  refine within _ _ ?_ ?_
  · exact ⟨shiftLeft_lt small (Nat.le_refl 53), by decide⟩
  · exact ⟨by decide, by decide⟩

end Rounding

section Packing

/-- The largest packed exponent is kept for what is not finite. -/
theorem within_unpack {word : BitVec Format.binary64.numBits}
    (ordinary : unpackExponent word ≠ -1#11)
    (low : (unpackExponent word).toNat - 1075 ≤ bound) (least : -1074 ≤ bound) :
    Within 53 bound (UnpackedFloat.unpack .binary64 word) := by
  unfold UnpackedFloat.unpack
  dsimp only
  rw [if_neg ordinary, exponentBias_binary64]
  by_cases subnormal : unpackExponent word = 0#11
  · rw [if_pos subnormal]
    refine Within.dite (fun _ => trivial) fun _ => ?_
    refine ⟨Nat.lt_trans (unpackMantissa word).isLt (by decide), ?_⟩
    rw [subnormal]
    exact least
  · rw [if_neg subnormal]
    refine ⟨(1#1 ++ unpackMantissa word).isLt, ?_⟩
    omega

theorem within_unpack_of_isFinite {word : BitVec Format.binary64.numBits}
    (finite : (UnpackedFloat.unpack .binary64 word).isFinite = true) :
    Within 53 971 (UnpackedFloat.unpack .binary64 word) := by
  have ordinary : unpackExponent word ≠ -1#11 := by
    intro special
    unfold UnpackedFloat.unpack at finite
    dsimp only at finite
    rw [if_pos special] at finite
    split at finite <;> cases finite
  refine within_unpack ordinary ?_ (by decide)
  have below : (unpackExponent word).toNat < 2 ^ 11 := (unpackExponent word).isLt
  have other : (unpackExponent word).toNat ≠ 2047 := fun same =>
    ordinary (BitVec.eq_of_toNat_eq same)
  omega

/-- Zeros and the numbers near them have the least exponent. -/
theorem within_unpack_of_zero {word : BitVec Format.binary64.numBits}
    (zero : unpackExponent word = 0#11) (least : -1074 ≤ bound) :
    Within 53 bound (UnpackedFloat.unpack .binary64 word) := by
  refine within_unpack ?_ ?_ least
  · rw [zero]
    decide
  · rw [zero]
    change (0 : Int) - 1075 ≤ bound
    omega

/-- A number whose exponent is not too large is still there when it has been packed. -/
theorem within_unpack_pack (within : Within bits bound x) (least : -1074 ≤ bound)
    (most : bound ≤ 971) :
    Within 53 bound (UnpackedFloat.unpack .binary64 (UnpackedFloat.pack .binary64 x)) := by
  cases x with
  | infinity sign => cases within
  | notANumber => cases within
  | zero sign => exact within_unpack_of_zero unpackExponent_packComponents least
  | finite sign mantissa exponent positive =>
      obtain ⟨-, low⟩ := within
      unfold UnpackedFloat.pack
      dsimp only
      rw [exponentBias_binary64]
      split
      · omega
      · next fits =>
        split
        · have kept : (BitVec.ofNat 11 (exponent + 1023 + 52).toNat).toNat =
              (exponent + 1023 + 52).toNat :=
            Nat.mod_eq_of_lt (by omega)
          refine within_unpack ?_ ?_ least
          · rw [unpackExponent_packComponents]
            intro special
            have same : (exponent + 1023 + 52).toNat = 2047 :=
              kept.symm.trans (congrArg BitVec.toNat special)
            omega
          · rw [unpackExponent_packComponents]
            change ((BitVec.ofNat 11 (exponent + 1023 + 52).toNat).toNat : Int) - 1075 ≤ bound
            omega
        · exact within_unpack_of_zero unpackExponent_packComponents least

end Packing

/-- The double is finite, and its mantissa and its exponent are bounded. -/
def Moderate (bound : Int) (value : Float) : Prop :=
  Within 53 bound value.toModel.unpack

theorem moderate_pack (within : Within bits bound x) (least : -1074 ≤ bound) (most : bound ≤ 971) :
    Moderate bound (Float.ofModel (Float.Model.pack x)) :=
  within_unpack_pack within least most

theorem isFinite_iff {value : Float} : value.isFinite = true ↔ Moderate 971 value :=
  ⟨within_unpack_of_isFinite, Within.isFinite⟩

theorem isFinite_neg {value : Float} (finite : value.isFinite = true) :
    value.neg.isFinite = true :=
  isFinite_iff.2 (moderate_pack (isFinite_iff.1 finite).neg (by decide) (by decide))

theorem isFinite_mul {first second : Float} (hx : Moderate bound first)
    (hy : Moderate bound' second) (least : -1074 ≤ bound + bound')
    (most : bound + bound' + 212 ≤ 971) : (first * second).isFinite = true := by
  have product := within_mul hx hy least
  have finite := moderate_pack product (by omega) (by omega)
  exact finite.isFinite

theorem moderate_toFloat (n : UInt64) : Moderate 232 n.toFloat :=
  moderate_pack (within_ofNat n.toNat_lt) (by decide) (by decide)

theorem moderate_one : Moderate 0 (Float.ofBits 0x3FF0000000000000) :=
  moderate_pack (within_unpack (by decide) (by decide) (by decide)) (by decide) (by decide)

/-- A whole number that a double holds exactly is multiplied by one as well. -/
theorem isFinite_ofNat {n : Nat} (small : n < 2 ^ 64) : (Float.ofNat n).isFinite = true := by
  change (Float.ofScientific n false 0).isFinite = true
  unfold Float.ofScientific
  split
  · exact isFinite_mul (moderate_toFloat _) moderate_one (by decide) (by decide)
  · exact (moderate_pack (within_ofScientific small) (by decide) (by decide)).isFinite

theorem isFinite_ofInt {value : Int} (least : -2 ^ 64 < value) (most : value < 2 ^ 64) :
    (Float.ofInt value).isFinite = true := by
  cases value with
  | ofNat n => exact isFinite_ofNat (Int.ofNat_lt.1 most)
  | negSucc n => exact isFinite_neg (isFinite_ofNat (by omega))

end Conduit.Doubles
