import Mathlib.Data.Prod.Lex

/-!
The order of floats. Comparison is defined on unpacked floats by cases; here each float that is a
number gets a place in a linear order, and all comparisons are read off the places.
-/
namespace Dialogue.FloatOrder

open Float.Model
open Float.Model.UnpackedFloat

abbrev Place := Int ×ₗ Int ×ₗ Int

/-- Class first, then exponent, then mantissa; below zero the last two count backwards. -/
def placeOf : UnpackedFloat → Place
  | .infinity .negative => toLex (-2, toLex (0, 0))
  | .finite .negative mantissa exponent _ => toLex (-1, toLex (-exponent, -(mantissa : Int)))
  | .zero _ | .notANumber => toLex (0, toLex (0, 0))
  | .finite .positive mantissa exponent _ => toLex (1, toLex (exponent, (mantissa : Int)))
  | .infinity .positive => toLex (2, toLex (0, 0))

def place (x : Float) : Place := placeOf x.toModel.unpack

theorem compare_natCast (m n : Nat) : compare (m : Int) (n : Int) = compare m n := by
  simp only [compare, compareOfLessAndEq, Int.ofNat_lt, Int.ofNat_inj]

theorem compare_neg (e f : Int) : compare (-e) (-f) = (compare e f).swap := by
  rw [← Std.OrientedOrd.eq_swap]
  simp only [compare, compareOfLessAndEq, Int.neg_lt_neg_iff, Int.neg_inj, eq_comm]

theorem compare_toLex (c c' e e' m m' : Int) :
    compare (toLex (c, toLex (e, m)) : Place) (toLex (c', toLex (e', m'))) =
      (compare c c').then ((compare e e').then (compare m m')) := by
  simp only [Prod.Lex.compare_def, compareLex, compareOn, ofLex_toLex]

theorem compare_place {a b : UnpackedFloat} (ha : a.isNaN = false) (hb : b.isNaN = false) :
    a.compare b = some (compare (placeOf a) (placeOf b)) := by
  cases a with
  | notANumber => cases ha
  | infinity s =>
    cases b with
    | notANumber => cases hb
    | infinity t => cases s <;> cases t <;> rfl
    | zero t => cases s <;> cases t <;> rfl
    | finite t _ _ _ => cases s <;> cases t <;> rfl
  | zero s =>
    cases b with
    | notANumber => cases hb
    | infinity t => cases s <;> cases t <;> rfl
    | zero t => cases s <;> cases t <;> rfl
    | finite t _ _ _ => cases s <;> cases t <;> rfl
  | finite s m e _ =>
    cases b with
    | notANumber => cases hb
    | infinity t => cases s <;> cases t <;> rfl
    | zero t => cases s <;> cases t <;> rfl
    | finite t n f _ =>
      cases s <;> cases t
      · show some ((compare e f).then (compare m n)).swap =
          some (compare (toLex (-1, toLex (-e, -(m : Int))) : Place)
            (toLex (-1, toLex (-f, -(n : Int)))))
        rw [compare_toLex, compare_neg e f, compare_neg m n, compare_natCast, Ordering.swap_then]
        rfl
      · rfl
      · rfl
      · show some ((compare e f).then (compare m n)) =
          some (compare (toLex (1, toLex (e, (m : Int))) : Place) (toLex (1, toLex (f, (n : Int)))))
        rw [compare_toLex, compare_natCast]
        rfl

variable {x y z : Float}

theorem lt_iff (hx : x.isNaN = false) (hy : y.isNaN = false) : x < y ↔ place x < place y := by
  have h := compare_place (a := x.toModel.unpack) (b := y.toModel.unpack) hx hy
  rw [← compare_lt_iff_lt]
  change decide (UnpackedFloat.lt _ _ = true) = true ↔ _
  simp [UnpackedFloat.lt, h, place]

theorem le_iff (hx : x.isNaN = false) (hy : y.isNaN = false) : x ≤ y ↔ place x ≤ place y := by
  have h := compare_place (a := x.toModel.unpack) (b := y.toModel.unpack) hx hy
  rw [← compare_le_iff_le]
  change decide (UnpackedFloat.le _ _ = true) = true ↔ _
  rw [decide_eq_true_iff, UnpackedFloat.le, h, Option.any_some]
  exact Ordering.isLE_iff_ne_gt

theorem beq_iff (hx : x.isNaN = false) (hy : y.isNaN = false) :
    (x == y) = true ↔ place x = place y := by
  have h := compare_place (a := x.toModel.unpack) (b := y.toModel.unpack) hx hy
  change (x.toModel.unpack.compare y.toModel.unpack == some .eq) = true ↔ _
  rw [h, beq_iff_eq, Option.some.injEq]
  exact compare_eq_iff_eq

theorem isNaN_of_compare {a b : UnpackedFloat} {o : Ordering} (h : a.compare b = some o) :
    a.isNaN = false ∧ b.isNaN = false := by
  cases a with
  | notANumber => cases b <;> cases h
  | _ =>
    cases b with
    | notANumber => cases h
    | _ => exact ⟨rfl, rfl⟩

theorem isNaN_of_lt (h : x < y) : x.isNaN = false ∧ y.isNaN = false := by
  change decide (UnpackedFloat.lt x.toModel.unpack y.toModel.unpack = true) = true at h
  rw [decide_eq_true_iff, UnpackedFloat.lt, beq_iff_eq] at h
  exact isNaN_of_compare h

theorem isNaN_of_le (h : x ≤ y) : x.isNaN = false ∧ y.isNaN = false := by
  change decide (UnpackedFloat.le x.toModel.unpack y.toModel.unpack = true) = true at h
  rw [decide_eq_true_iff, UnpackedFloat.le, Option.any_eq_true] at h
  obtain ⟨o, ho, _⟩ := h
  exact isNaN_of_compare ho

theorem isNaN_of_beq (h : (x == y) = true) : x.isNaN = false ∧ y.isNaN = false := by
  change (x.toModel.unpack.compare y.toModel.unpack == some .eq) = true at h
  exact isNaN_of_compare (beq_iff_eq.1 h)

theorem lt_irrefl (x : Float) : ¬ x < x := by
  intro h
  obtain ⟨hx, _⟩ := isNaN_of_lt h
  rw [lt_iff hx hx] at h
  exact h.false

theorem lt_trans (h : x < y) (h' : y < z) : x < z := by
  obtain ⟨hx, hy⟩ := isNaN_of_lt h
  have hz := (isNaN_of_lt h').2
  rw [lt_iff hx hy] at h
  rw [lt_iff hy hz] at h'
  rw [lt_iff hx hz]
  exact h.trans h'

theorem le_trans (h : x ≤ y) (h' : y ≤ z) : x ≤ z := by
  obtain ⟨hx, hy⟩ := isNaN_of_le h
  have hz := (isNaN_of_le h').2
  rw [le_iff hx hy] at h
  rw [le_iff hy hz] at h'
  rw [le_iff hx hz]
  exact h.trans h'

/-- A number lies above the lower or below the upper end of every gap. -/
theorem lt_or_lt (hy : y.isNaN = false) (h : x < z) : x < y ∨ y < z := by
  obtain ⟨hx, hz⟩ := isNaN_of_lt h
  rw [lt_iff hx hz] at h
  rw [lt_iff hx hy, lt_iff hy hz]
  rcases lt_or_ge (place x) (place y) with h' | h'
  · exact Or.inl h'
  · exact Or.inr (h'.trans_lt h)

theorem not_lt (hx : x.isNaN = false) (hy : y.isNaN = false) : ¬ x < y ↔ y ≤ x := by
  rw [lt_iff hx hy, le_iff hy hx]
  exact ⟨le_of_not_gt, not_lt_of_ge⟩

theorem not_le (hx : x.isNaN = false) (hy : y.isNaN = false) : ¬ x ≤ y ↔ y < x := by
  rw [lt_iff hy hx, le_iff hx hy]
  exact ⟨lt_of_not_ge, not_le_of_gt⟩

theorem le_refl (hx : x.isNaN = false) : x ≤ x :=
  (not_lt hx hx).1 (lt_irrefl x)

theorem beq_refl (hx : x.isNaN = false) : (x == x) = true :=
  (beq_iff hx hx).2 rfl

theorem lt_of_beq_of_lt (h : (x == y) = true) (h' : x < z) : y < z := by
  obtain ⟨hx, hy⟩ := isNaN_of_beq h
  have hz := (isNaN_of_lt h').2
  rw [beq_iff hx hy] at h
  rw [lt_iff hx hz, h] at h'
  exact (lt_iff hy hz).2 h'

theorem beq_of_le (h : x ≤ y) (h' : ¬ x < y) : (y == x) = true := by
  obtain ⟨hx, hy⟩ := isNaN_of_le h
  rw [le_iff hx hy] at h
  rw [lt_iff hx hy] at h'
  exact (beq_iff hy hx).2 (le_antisymm (le_of_not_gt h') h)

theorem le_of_lt (h : x < y) : x ≤ y := by
  obtain ⟨hx, hy⟩ := isNaN_of_lt h
  exact (not_lt hy hx).1 fun h' => lt_irrefl x (lt_trans h h')

end Dialogue.FloatOrder
