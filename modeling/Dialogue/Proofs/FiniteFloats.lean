import Dialogue.Proofs.FloatOrder
import Dialogue.Proofs.JsonNumbers
import Mathlib.Algebra.Group.Nat.Defs

/-!
Integers as floats. An integer of 64 bits is rounded to a finite float: rounding moves an exponent
up by little more than the mantissa has digits, which stays far below the exponent of infinity.
-/
namespace Dialogue.FloatOrder

open Float.Model
open Float.Model.UnpackedFloat

/-- Zero, or a number whose mantissa has at most so many digits and whose exponent is no higher than
that. -/
inductive Bounded (digits : Nat) (top : Int) : UnpackedFloat → Prop
  | zero (sign : Sign) : Bounded digits top (.zero sign)
  | finite (sign : Sign) (mantissa : Nat) (exponent : Int) (h : 0 < mantissa)
    (hmantissa : mantissa < 2 ^ digits) (hexponent : exponent ≤ top) :
    Bounded digits top (.finite sign mantissa exponent h)

theorem Bounded.isFinite {digits : Nat} {top : Int} {u : UnpackedFloat} (h : Bounded digits top u) :
    u.isFinite = true := by
  cases h <;> rfl

theorem Bounded.neg {digits : Nat} {top : Int} {u : UnpackedFloat} (h : Bounded digits top u) :
    Bounded digits top u.neg := by
  cases h with
  | zero sign => exact .zero _
  | finite sign mantissa exponent h hmantissa hexponent =>
    exact .finite _ _ _ h hmantissa hexponent

/-! ### Packing -/

def topExponent : Int := 971

theorem bounded_packComponents {top : Int} {sign : Sign} {exponent : BitVec 11}
    {mantissa : BitVec 52} (hlow : -1074 ≤ top) (htop : top ≤ topExponent)
    (h : (exponent.toNat : Int) - 1075 ≤ top) :
    Bounded 53 top (UnpackedFloat.unpack .binary64
      (packComponents .binary64 sign exponent mantissa)) := by
  have hones : exponent ≠ -1#11 := by
    rintro rfl
    have hvalue : (-1#11).toNat = 2047 := rfl
    unfold topExponent at htop
    omega
  unfold UnpackedFloat.unpack
  dsimp only
  rw [unpackExponent_packComponents, if_neg hones]
  by_cases hzero : exponent = 0#11
  · rw [if_pos hzero]
    by_cases hmantissa : unpackMantissa (packComponents .binary64 sign exponent mantissa) = 0#52
    · rw [dif_pos hmantissa]
      exact .zero _
    · rw [dif_neg hmantissa]
      refine .finite _ _ _ _ ?_ ?_
      · exact (BitVec.isLt _).trans (by decide)
      · rw [hzero]
        exact hlow
  · rw [if_neg hzero]
    exact .finite _ _ _ _ (BitVec.isLt _) h

theorem bounded_pack {digits : Nat} {top : Int} {u : UnpackedFloat} (h : Bounded digits top u)
    (hlow : -1074 ≤ top) (htop : top ≤ topExponent) :
    Bounded 53 top (UnpackedFloat.unpack .binary64 (UnpackedFloat.pack .binary64 u)) := by
  have hzero : ((0#11).toNat : Int) - 1075 ≤ top := by
    show (0 : Int) - 1075 ≤ top
    omega
  cases h with
  | zero sign => exact bounded_packComponents hlow htop hzero
  | finite sign mantissa exponent h hmantissa hexponent =>
    have hbias : Format.binary64.exponentBias = 1023 := rfl
    unfold topExponent at htop
    unfold UnpackedFloat.pack
    dsimp only
    rw [hbias]
    split
    · rename_i hinfinite
      omega
    · split
      · refine bounded_packComponents hlow htop ?_
        rw [BitVec.toNat_ofNat]
        omega
      · exact bounded_packComponents hlow htop hzero

/-! ### Rounding -/

theorem mantissa_shiftRight (em : ExtendedMantissa) (k : Nat) :
    (em >>> k).mantissa ≤ em.mantissa := by
  induction k with
  | zero => exact Nat.le_refl _
  | succ k ih => exact (Nat.div_le_self _ _).trans ih

theorem roundedMantissa_le (em : ExtendedMantissa) : em.roundedMantissa ≤ em.mantissa + 1 := by
  obtain ⟨mantissa, roundBit, stickyBit⟩ := em
  cases roundBit <;> cases stickyBit <;>
    simp [ExtendedMantissa.roundedMantissa, ExtendedMantissa.accuracy,
      Accuracy.roundToNearestEven]
  omega

theorem mantissa_ofMantissaAndAccuracy (mantissa : Nat) (accuracy : Accuracy) :
    (ExtendedMantissa.ofMantissaAndAccuracy mantissa accuracy).mantissa = mantissa := by
  cases accuracy with
  | exact => rfl
  | inexact relative => cases relative <;> rfl

/-- A shift makes no mantissa larger, and raises an exponent by the digits of the mantissa at
most. -/
theorem shiftToTargetExponent_le {mantissa digits : Nat} {exponent top : Int} (accuracy : Accuracy)
    (hmantissa : mantissa < 2 ^ digits) (hexponent : exponent ≤ top) (htop : 0 ≤ top) :
    (shiftToTargetExponent .binary64 mantissa exponent accuracy).1.mantissa ≤ mantissa ∧
      (shiftToTargetExponent .binary64 mantissa exponent accuracy).2 ≤ top + digits := by
  constructor
  · refine (mantissa_shiftRight _ _).trans ?_
    rw [mantissa_ofMantissaAndAccuracy]
  · have hlog : mantissa.log2 ≤ digits := by
      by_cases hzero : mantissa = 0
      · rw [hzero, Nat.log2_zero]
        exact Nat.zero_le _
      · exact ((Nat.log2_lt hzero).2 hmantissa).le
    have hbits : (Format.binary64.mantissaBits : Int) = 53 := rfl
    have hmin : Format.binary64.minExponent = -1074 := rfl
    simp only [shiftToTargetExponent, shiftToExponent, Format.targetExponent, totalExponent]
    omega

theorem bounded_of_mantissa (sign : Sign) {mantissa digits : Nat} {exponent top : Int}
    (hmantissa : mantissa < 2 ^ digits) (hexponent : exponent ≤ top) :
    Bounded digits top (if h : mantissa = 0 then .zero sign
      else .finite sign mantissa exponent (Nat.pos_of_ne_zero h)) := by
  by_cases h : mantissa = 0
  · rw [dif_pos h]
    exact .zero _
  · rw [dif_neg h]
    exact .finite _ _ _ _ hmantissa hexponent

theorem bounded_round (sign : Sign) {mantissa digits : Nat} {exponent top : Int}
    (accuracy : Accuracy) (hmantissa : mantissa < 2 ^ digits) (hexponent : exponent ≤ top)
    (htop : 0 ≤ top) :
    Bounded (digits + 1) (top + digits + (digits + 1))
      (roundWithAccuracy .binary64 sign mantissa exponent accuracy) := by
  obtain ⟨hfirst, hexponent'⟩ := shiftToTargetExponent_le accuracy hmantissa hexponent htop
  have hrounded := roundedMantissa_le
    (shiftToTargetExponent .binary64 mantissa exponent accuracy).1
  have hmantissa' : (shiftToTargetExponent .binary64 mantissa exponent accuracy).1.roundedMantissa <
      2 ^ (digits + 1) := by
    rw [Nat.pow_succ]
    omega
  obtain ⟨hsecond, hexponent''⟩ := shiftToTargetExponent_le .exact hmantissa' hexponent' (by omega)
  unfold roundWithAccuracy
  exact bounded_of_mantissa sign (hsecond.trans_lt hmantissa') hexponent''

theorem bounded_mul {digits digits' : Nat} {top top' : Int} {u v : UnpackedFloat}
    (hu : Bounded digits top u) (hv : Bounded digits' top' v) (htop : 0 ≤ top + top') :
    Bounded (digits + digits' + 1) (top + top' + (digits + digits' : Nat) + (digits + digits' + 1))
      (UnpackedFloat.mul .binary64 u v) := by
  cases hu with
  | zero sign =>
    cases hv with
    | zero sign => exact .zero _
    | finite => exact .zero _
  | finite sign mantissa exponent h hmantissa hexponent =>
    cases hv with
    | zero sign => exact .zero _
    | finite sign' mantissa' exponent' h' hmantissa' hexponent' =>
      have hproduct : mantissa * mantissa' < 2 ^ (digits + digits') := by
        rw [Nat.pow_add]
        exact Nat.mul_lt_mul'' hmantissa hmantissa'
      exact bounded_round _ _ hproduct (Int.add_le_add hexponent hexponent') htop

/-! ### Integers -/

theorem Bounded.mono {digits digits' : Nat} {top top' : Int} {u : UnpackedFloat}
    (h : Bounded digits top u) (hdigits : digits ≤ digits') (htop : top ≤ top') :
    Bounded digits' top' u := by
  cases h with
  | zero sign => exact .zero _
  | finite sign mantissa exponent h hmantissa hexponent =>
    exact .finite _ _ _ _ (hmantissa.trans_le (Nat.pow_le_pow_right (by decide) hdigits))
      (hexponent.trans htop)

theorem bounded_round_word (sign : Sign) {n : Nat} (h : n < 2 ^ 64) :
    Bounded 118 235 (UnpackedFloat.round .binary64 sign n 0) := by
  unfold UnpackedFloat.round decreaseExponent
  dsimp only
  have hbits : (Format.binary64.mantissaBits : Int) = 53 := rfl
  have hshift : (0 - Format.binary64.targetExponent (totalExponent n 0)).toNat ≤ 53 := by
    unfold Format.targetExponent totalExponent
    omega
  generalize (0 - Format.binary64.targetExponent (totalExponent n 0)).toNat = shift at hshift ⊢
  have hmantissa : n <<< shift < 2 ^ 117 := by
    rw [Nat.shiftLeft_eq]
    calc n * 2 ^ shift < 2 ^ 64 * 2 ^ shift := Nat.mul_lt_mul_of_pos_right h (Nat.two_pow_pos _)
      _ ≤ 2 ^ 64 * 2 ^ 53 := Nat.mul_le_mul_left _ (Nat.pow_le_pow_right (by decide) hshift)
      _ = 2 ^ 117 := by rw [← Nat.pow_add]
  have hexponent : (0 : Int) - shift ≤ 0 := by omega
  have hround := bounded_round sign .exact hmantissa hexponent le_rfl
  exact hround

theorem bounded_ofNat {n : Nat} (h : n < 2 ^ 64) :
    Bounded 118 235 (UnpackedFloat.ofNat .binary64 n) := by
  unfold UnpackedFloat.ofNat UnpackedFloat.ofInt UnpackedFloat.normalize
  split
  · exact bounded_round_word _ (by omega)
  · exact .zero _
  · exact bounded_round_word _ (by omega)

def wordTop : Int := 448

theorem bounded_ofScientific {n : Nat} (h : n < 2 ^ 64) :
    Bounded 119 wordTop (UnpackedFloat.ofScientific .binary64 n 0) := by
  unfold UnpackedFloat.ofScientific
  by_cases hn : n = 0
  · rw [dif_pos hn]
    exact .zero _
  · have hbits : Format.binary64.mantissaBits = 53 := rfl
    have hmantissa : n <<< Format.binary64.mantissaBits < 2 ^ 117 := by
      rw [hbits, Nat.shiftLeft_eq]
      omega
    have hrange : ¬ (0 : Int) < -((2 ^ Format.binary64.exponentBits : Int) + n.log2) := by
      have hpower : (2 ^ Format.binary64.exponentBits : Int) = 2048 := rfl
      omega
    rw [dif_neg hn, if_neg (by decide), if_neg hrange, if_pos le_rfl]
    have hscaled : Bounded 117 0 (.finite .positive (n <<< Format.binary64.mantissaBits)
        (-Format.binary64.mantissaBits) (by simpa [Nat.pos_iff_ne_zero])) :=
      .finite _ _ _ _ hmantissa (by decide)
    have hunit : Bounded 1 0 (.finite .positive (10 ^ (0 : Int).toNat) 0 (by decide)) :=
      .finite _ _ _ _ (by decide) le_rfl
    exact (bounded_mul hscaled hunit le_rfl).mono (by decide) (by decide)

theorem bounded_one : Bounded 53 0 (Float.ofBits 0x3FF0000000000000).toModel.unpack :=
  .finite .positive 0x10000000000000 (-52) (by decide) (by decide) (by decide)

theorem bounded_float_ofNat {n : Nat} (h : n < 2 ^ 64) :
    Bounded 53 wordTop (Float.ofNat n).toModel.unpack := by
  show Bounded 53 wordTop (Float.ofScientific n false 0).toModel.unpack
  unfold Float.ofScientific
  split
  · have hcount : Bounded 53 235 n.toUInt64.toFloat.toModel.unpack :=
      bounded_pack (bounded_ofNat n.toUInt64.toNat_lt) (by decide) (by decide)
    have hproduct : Bounded 107 wordTop (UnpackedFloat.mul .binary64
        n.toUInt64.toFloat.toModel.unpack (Float.ofBits 0x3FF0000000000000).toModel.unpack) :=
      (bounded_mul hcount bounded_one (by decide)).mono (by decide) (by decide)
    exact bounded_pack hproduct (by decide) (by decide)
  · exact bounded_pack (bounded_ofScientific h) (by decide) (by decide)

theorem isFinite_ofInt {n : Int} (h : Json.IsWord n) : (Float.ofInt n).isFinite = true := by
  obtain ⟨hlow, hhigh⟩ := h
  cases n with
  | ofNat n => exact (bounded_float_ofNat (Int.ofNat_lt.1 hhigh)).isFinite
  | negSucc n =>
    have hmin : Int64.minValue.toInt = -2 ^ 63 := rfl
    have hsucc : n.succ < 2 ^ 64 := by omega
    exact (bounded_pack (bounded_float_ofNat hsucc).neg (by decide) (by decide)).isFinite

end Dialogue.FloatOrder
