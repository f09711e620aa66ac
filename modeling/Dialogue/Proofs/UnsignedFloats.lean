import Dialogue.Decimal
import Dialogue.Proofs.FloatOrder

/-!
Floats with a plus sign. Digits, with a point or without, read as such a float: rounding keeps the
sign and never makes what is no number.
-/
namespace Dialogue.FloatOrder

open Float.Model
open Float.Model.UnpackedFloat

inductive Unsigned : UnpackedFloat → Prop
  | infinity : Unsigned (.infinity .positive)
  | zero : Unsigned (.zero .positive)
  | finite (mantissa : Nat) (exponent : Int) (h : 0 < mantissa) :
    Unsigned (.finite .positive mantissa exponent h)

/-! ### Packing -/

theorem unpackSign_packComponents (sign : Sign) (exponent : BitVec 11) (mantissa : BitVec 52) :
    unpackSign (packComponents .binary64 sign exponent mantissa) = sign.toBitVec := by
  apply BitVec.eq_of_getLsbD_eq
  intro i hi
  obtain rfl : i = 0 := by omega
  have hbit : (sign.toBitVec ++ exponent ++ mantissa).getLsbD 63 = sign.toBitVec.getLsbD 0 := by
    rw [BitVec.getLsbD_append, if_neg (by decide), BitVec.getLsbD_append, if_neg (by decide)]
  have hextract := BitVec.getLsbD_extract 63 63 (sign.toBitVec ++ exponent ++ mantissa) 0
  exact hextract.trans ((Bool.true_and _).trans hbit)

theorem unsigned_unpack {bits : BitVec Format.binary64.numBits}
    (hsign : Sign.ofBitVec (unpackSign bits) = .positive)
    (h : unpackExponent bits = -1#11 → unpackMantissa bits = 0#52) :
    Unsigned (UnpackedFloat.unpack .binary64 bits) := by
  unfold UnpackedFloat.unpack
  dsimp only
  by_cases hexponent : unpackExponent bits = -1#11
  · rw [if_pos hexponent, if_pos (h hexponent), hsign]
    exact .infinity
  · rw [if_neg hexponent]
    by_cases hzero : unpackExponent bits = 0#11
    · rw [if_pos hzero]
      by_cases hmantissa : unpackMantissa bits = 0#52
      · rw [dif_pos hmantissa, hsign]
        exact .zero
      · rw [dif_neg hmantissa, hsign]
        exact .finite _ _ _
    · rw [if_neg hzero, hsign]
      exact .finite _ _ _

theorem unsigned_packComponents {exponent : BitVec 11} {mantissa : BitVec 52}
    (h : exponent ≠ -1#11 ∨ mantissa = 0#52) :
    Unsigned (UnpackedFloat.unpack .binary64
      (packComponents .binary64 .positive exponent mantissa)) := by
  refine unsigned_unpack (congrArg Sign.ofBitVec (unpackSign_packComponents _ _ _)) ?_
  intro hexponent
  rw [unpackExponent_packComponents] at hexponent
  rw [unpackMantissa_packComponents]
  exact h.resolve_left (not_not_intro hexponent)

theorem unsigned_pack {u : UnpackedFloat} (h : Unsigned u) :
    Unsigned (UnpackedFloat.unpack .binary64 (UnpackedFloat.pack .binary64 u)) := by
  cases h with
  | infinity => exact unsigned_packComponents (Or.inr rfl)
  | zero => exact unsigned_packComponents (Or.inr rfl)
  | finite mantissa exponent h =>
    unfold UnpackedFloat.pack
    dsimp only
    split
    · exact unsigned_packComponents (Or.inr rfl)
    · rename_i hexponent
      split
      · refine unsigned_packComponents (Or.inl fun heq => hexponent ?_)
        have hones := congrArg BitVec.toNat heq
        rw [BitVec.toNat_ofNat] at hones
        have hones' : (-1#11).toNat = 2047 := rfl
        omega
      · exact unsigned_packComponents (Or.inl (by decide))

/-! ### Rounding -/

theorem unsigned_of_mantissa (mantissa : Nat) (exponent : Int) :
    Unsigned (if h : mantissa = 0 then .zero .positive
      else .finite .positive mantissa exponent (Nat.pos_of_ne_zero h)) := by
  by_cases h : mantissa = 0
  · rw [dif_pos h]
    exact .zero
  · rw [dif_neg h]
    exact .finite _ _ _

theorem unsigned_round (spec : Format) (mantissa : Nat) (exponent : Int) (accuracy : Accuracy) :
    Unsigned (roundWithAccuracy spec .positive mantissa exponent accuracy) := by
  unfold roundWithAccuracy
  exact unsigned_of_mantissa _ _

theorem unsigned_mul {u : UnpackedFloat} (h : Unsigned u) (spec : Format) {mantissa : Nat}
    {exponent : Int} (hmantissa : 0 < mantissa) :
    Unsigned (UnpackedFloat.mul spec u (.finite .positive mantissa exponent hmantissa)) := by
  cases h with
  | infinity => exact .infinity
  | zero => exact .zero
  | finite m e hm => exact unsigned_round _ _ _ _

theorem unsigned_div {u : UnpackedFloat} (h : Unsigned u) (spec : Format) {mantissa : Nat}
    {exponent : Int} (hmantissa : 0 < mantissa) :
    Unsigned (UnpackedFloat.div spec u (.finite .positive mantissa exponent hmantissa)) := by
  cases h with
  | infinity => exact .infinity
  | zero => exact .zero
  | finite m e hm => exact unsigned_round _ _ _ _

theorem unsigned_ofNat (spec : Format) (n : Nat) : Unsigned (UnpackedFloat.ofNat spec n) := by
  cases n with
  | zero => exact .zero
  | succ n => exact unsigned_round _ _ _ _

theorem unsigned_ite {c : Prop} [Decidable c] {u v : UnpackedFloat} (hu : Unsigned u)
    (hv : Unsigned v) : Unsigned (if c then u else v) := by
  split
  · exact hu
  · exact hv

theorem unsigned_ofScientific (spec : Format) (m : Nat) (e : Int) :
    Unsigned (UnpackedFloat.ofScientific spec m e) := by
  unfold UnpackedFloat.ofScientific
  by_cases hm : m = 0
  · rw [dif_pos hm]
    exact .zero
  · rw [dif_neg hm]
    refine unsigned_ite .infinity (unsigned_ite .zero (unsigned_ite ?_ ?_))
    · exact unsigned_mul (.finite _ _ _) _ _
    · exact unsigned_div (.finite _ _ _) _ _

/-! ### Floats -/

def isPlain : UnpackedFloat → Bool
  | .finite .positive .. => true
  | _ => false

theorem isPlain_powerOfTen : ∀ e : Fin Float.exactlyRepresentablePowersOfTen.size,
    isPlain Float.exactlyRepresentablePowersOfTen[e].toModel.unpack = true := by
  decide +kernel

theorem exists_of_isPlain {u : UnpackedFloat} (h : isPlain u = true) :
    ∃ mantissa exponent hmantissa, u = .finite .positive mantissa exponent hmantissa := by
  cases u with
  | finite sign mantissa exponent hmantissa =>
    cases sign with
    | negative => cases h
    | positive => exact ⟨mantissa, exponent, hmantissa, rfl⟩
  | _ => cases h

variable {x y : Float}

theorem unsigned_float_mul (hx : Unsigned x.toModel.unpack) (hy : isPlain y.toModel.unpack = true) :
    Unsigned (x * y).toModel.unpack := by
  obtain ⟨mantissa, exponent, hmantissa, hplain⟩ := exists_of_isPlain hy
  refine unsigned_pack (u := UnpackedFloat.mul .binary64 x.toModel.unpack y.toModel.unpack) ?_
  rw [hplain]
  exact unsigned_mul hx _ _

theorem unsigned_float_div (hx : Unsigned x.toModel.unpack) (hy : isPlain y.toModel.unpack = true) :
    Unsigned (x / y).toModel.unpack := by
  obtain ⟨mantissa, exponent, hmantissa, hplain⟩ := exists_of_isPlain hy
  refine unsigned_pack (u := UnpackedFloat.div .binary64 x.toModel.unpack y.toModel.unpack) ?_
  rw [hplain]
  exact unsigned_div hx _ _

theorem unsigned_float_ofScientific (m : Nat) (negative : Bool) (e : Nat) :
    Unsigned (Float.ofScientific m negative e).toModel.unpack := by
  unfold Float.ofScientific
  split
  · rename_i h
    have hsize : e < Float.exactlyRepresentablePowersOfTen.size := Nat.lt_succ_of_le h.2
    have hpower := isPlain_powerOfTen ⟨e, hsize⟩
    have hcount : Unsigned m.toUInt64.toFloat.toModel.unpack := unsigned_pack (unsigned_ofNat _ _)
    dsimp only
    split
    · exact unsigned_float_div hcount hpower
    · exact unsigned_float_mul hcount hpower
  · exact unsigned_pack (unsigned_ofScientific _ _ _)

theorem not_isNaN_of_unsigned (h : Unsigned x.toModel.unpack) : x.isNaN = false := by
  show x.toModel.unpack.isNaN = false
  cases hx : x.toModel.unpack with
  | notANumber =>
    rw [hx] at h
    cases h
  | _ => rfl

theorem placeOf_nonneg {u : UnpackedFloat} (h : Unsigned u) :
    toLex (0, toLex (0, 0)) ≤ placeOf u := by
  cases h with
  | infinity => decide
  | zero => exact le_rfl
  | finite mantissa exponent h => exact Prod.Lex.le_iff.2 (Or.inl (by decide : (0 : Int) < 1))

theorem nonneg_of_unsigned (h : Unsigned x.toModel.unpack) : 0.0 ≤ x := by
  have hzero : place 0.0 = toLex (0, toLex (0, 0)) := by decide +kernel
  rw [le_iff (by decide +kernel) (not_isNaN_of_unsigned h), hzero]
  exact placeOf_nonneg h

end Dialogue.FloatOrder

namespace Dialogue.Decimal

open FloatOrder

theorem unsigned_toFloat (d : Decimal) : Unsigned d.toFloat.toModel.unpack := by
  unfold toFloat
  dsimp only
  split
  · exact unsigned_float_ofScientific _ _ _
  · split
    · exact Unsigned.infinity
    · exact unsigned_float_ofScientific _ _ _

/-- What is read from digits and points is a number and not below zero. -/
theorem nonneg_of_readFloat? {cs : List Char} {x : Float}
    (hcs : ∀ c ∈ cs, isDigit c = true ∨ c = '.') (h : readFloat? cs = some x) : 0.0 ≤ x := by
  have hread : (read? cs).map toFloat = some x := by
    unfold readFloat? at h
    split at h
    · exact absurd (hcs '-' List.mem_cons_self) (by decide)
    · exact absurd (hcs '+' List.mem_cons_self) (by decide)
    · exact h
  obtain ⟨d, -, rfl⟩ := Option.map_eq_some_iff.1 hread
  exact nonneg_of_unsigned d.unsigned_toFloat

end Dialogue.Decimal
