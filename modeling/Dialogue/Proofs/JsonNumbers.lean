import Dialogue.Json.Number
import Dialogue.Json.Record
import Dialogue.Proofs.Digits

namespace Dialogue.Json

def continues (c : Char) : Bool :=
  Decimal.isDigit c || c == '.' || c == 'e' || c == 'E'

section

variable {cs rest tail : List Char}

theorem Ends.digits (h : Ends continues rest) : Ends Decimal.isDigit rest := by
  intro c hc
  have := h c hc
  simp only [continues, Bool.or_eq_false_iff] at this
  exact this.1.1.1

theorem readFraction?_append {fraction : Option (List Char)} (hrest : Ends continues rest)
    (h : readFraction? cs = some (fraction, tail)) :
    readFraction? (cs ++ rest) = some (fraction, tail ++ rest) := by
  unfold readFraction? at h
  split at h
  · rename_i cs
    rw [List.cons_append, readFraction?]
    dsimp only at h ⊢
    rw [takeWhile_append (Ends.digits hrest), dropWhile_append (Ends.digits hrest)]
    split at h
    · cases h
    · rename_i hdigits
      cases h
      rw [if_neg hdigits]
  · rename_i hpoint
    cases h
    unfold readFraction?
    split
    · rename_i others heq
      cases cs with
      | nil =>
        rw [List.nil_append] at heq
        rw [heq] at hrest
        have := hrest '.' rfl
        simp [continues] at this
      | cons c cs =>
        cases heq
        exact absurd rfl (hpoint cs)
    · rfl

def splitSign : List Char → Bool × List Char
  | '+' :: rest => (false, rest)
  | '-' :: rest => (true, rest)
  | rest => (false, rest)

theorem readExponent?_cons (mark : Char) (cs : List Char) : readExponent? (mark :: cs) =
    if mark = 'e' || mark = 'E' then
      let digits := (splitSign cs).2.takeWhile Decimal.isDigit
      let n : Int := Decimal.ofDigits digits
      if digits.isEmpty then none
      else some (some (if (splitSign cs).1 then -n else n),
        (splitSign cs).2.dropWhile Decimal.isDigit)
    else some (none, mark :: cs) := by
  rfl

theorem splitSign_append {cs : List Char} (h : cs ≠ []) (rest : List Char) :
    splitSign (cs ++ rest) = ((splitSign cs).1, (splitSign cs).2 ++ rest) := by
  cases cs with
  | nil => exact absurd rfl h
  | cons c cs =>
    by_cases hplus : c = '+'
    · subst hplus
      rfl
    · by_cases hminus : c = '-'
      · subst hminus
        rfl
      · simp [splitSign, hplus, hminus]

theorem readExponent?_append {exponent : Option Int} (hrest : Ends continues rest)
    (h : readExponent? cs = some (exponent, tail)) :
    readExponent? (cs ++ rest) = some (exponent, tail ++ rest) := by
  cases cs with
  | nil =>
    cases h
    cases rest with
    | nil => rfl
    | cons c rest =>
      have hmark := hrest c rfl
      simp only [continues, Bool.or_eq_false_iff, beq_eq_false_iff_ne] at hmark
      rw [List.nil_append, readExponent?_cons, if_neg (by simp [hmark])]
  | cons mark cs =>
    rw [List.cons_append, readExponent?_cons]
    rw [readExponent?_cons] at h
    by_cases hmark : (mark = 'e' || mark = 'E') = true
    · rw [if_pos hmark] at h ⊢
      cases cs with
      | nil => cases h
      | cons c cs =>
        rw [splitSign_append (List.cons_ne_nil c cs)]
        dsimp only at h ⊢
        rw [takeWhile_append (Ends.digits hrest), dropWhile_append (Ends.digits hrest)]
        split at h
        · cases h
        · rename_i hdigits
          cases h
          rw [if_neg hdigits]
    · rw [if_neg hmark] at h ⊢
      cases h
      rfl

theorem readMagnitude?_append {negative : Bool} {value : Json} (hrest : Ends continues rest)
    (h : readMagnitude? negative cs = some (value, tail)) :
    readMagnitude? negative (cs ++ rest) = some (value, tail ++ rest) := by
  unfold readMagnitude? at h ⊢
  rw [takeWhile_append (Ends.digits hrest), dropWhile_append (Ends.digits hrest)]
  dsimp only at h ⊢
  split at h
  · cases h
  · rename_i hwhole
    rw [if_neg hwhole]
    obtain ⟨⟨fraction, behindFraction⟩, hfraction, h⟩ := Option.bind_eq_some_iff.1 h
    obtain ⟨⟨exponent, behindExponent⟩, hexponent, h⟩ := Option.bind_eq_some_iff.1 h
    rw [readFraction?_append hrest hfraction, Option.bind_eq_bind, Option.bind_some,
      readExponent?_append hrest hexponent, Option.bind_eq_bind, Option.bind_some]
    dsimp only at h ⊢
    split at h
    · rename_i hinteger
      rw [if_pos hinteger]
      cases h
      rfl
    · rename_i hinteger
      rw [if_neg hinteger]
      cases h
      rfl

theorem readNumber?_of_ne {c : Char} (h : c ≠ '-') (cs : List Char) :
    readNumber? (c :: cs) = readMagnitude? false (c :: cs) := by
  simp [readNumber?, h]

theorem readNumber?_append {value : Json} (hrest : Ends continues rest)
    (h : readNumber? cs = some (value, tail)) :
    readNumber? (cs ++ rest) = some (value, tail ++ rest) := by
  cases cs with
  | nil => cases h
  | cons c cs =>
    by_cases hminus : c = '-'
    · subst hminus
      exact readMagnitude?_append hrest h
    · rw [readNumber?_of_ne hminus] at h
      rw [List.cons_append, readNumber?_of_ne hminus]
      exact readMagnitude?_append hrest h

end

/-! ### Integers -/

theorem le_foldl_digits (cs : List Char) (kept : Nat) :
    kept ≤ cs.foldl (fun n c => 10 * n + Decimal.digitValue c) kept := by
  induction cs generalizing kept with
  | nil => exact Nat.le_refl kept
  | cons c cs ih =>
    have h := ih (10 * kept + Decimal.digitValue c)
    rw [List.foldl_cons]
    omega

theorem keepWhole_eq {cs : List Char} {kept : Nat}
    (h : cs.foldl (fun n c => 10 * n + Decimal.digitValue c) kept < UInt64.size) :
    keepWhole kept cs = ⟨cs.foldl (fun n c => 10 * n + Decimal.digitValue c) kept, 0⟩ := by
  induction cs generalizing kept with
  | nil => rfl
  | cons c cs ih =>
    rw [List.foldl_cons] at h
    have hle := le_foldl_digits cs (10 * kept + Decimal.digitValue c)
    rw [keepWhole, List.foldl_cons, if_pos (Nat.lt_of_le_of_lt hle h), ih h]

theorem keepWhole_toDigits {n : Nat} (h : n < UInt64.size) :
    keepWhole 0 (Nat.toDigits 10 n) = ⟨n, 0⟩ := by
  have hvalue := Decimal.ofDigits_toDigits n
  unfold Decimal.ofDigits at hvalue
  rw [keepWhole_eq (by rwa [hvalue]), hvalue]

theorem readMagnitude?_toDigits (negative : Bool) (n : Nat) :
    readMagnitude? negative (Nat.toDigits 10 n) =
      some (ofInteger negative (Nat.toDigits 10 n), []) := by
  have hdigits : ∀ c ∈ Nat.toDigits 10 n, Decimal.isDigit c = true :=
    fun c hc => Decimal.isDigit_toDigits hc
  have htake := takeWhile_run hdigits (ends_nil _)
  have hdrop := dropWhile_run hdigits (ends_nil _)
  rw [List.append_nil] at htake hdrop
  have hplain : ((Nat.toDigits 10 n).isEmpty || (Nat.toDigits 10 n).head? == some '0' &&
      (Nat.toDigits 10 n).length ≠ 1) = false := by
    rw [Bool.or_eq_false_iff, List.isEmpty_eq_false_iff]
    refine ⟨Nat.toDigits_ne_nil, ?_⟩
    by_cases hzero : n = 0
    · subst hzero
      rfl
    · rw [beq_false_of_ne (Decimal.head?_toDigits hzero)]
      rfl
  unfold readMagnitude?
  rw [htake, hdrop]
  dsimp only
  rw [hplain]
  rfl

/-- An integer that has a text in 64 bits. -/
def IsWord (n : Int) : Prop := Int64.minValue.toInt ≤ n ∧ n < UInt64.size

theorem toList_toString_negSucc (n : Nat) :
    (toString (Int.negSucc n)).toList = '-' :: Nat.toDigits 10 (n + 1) := by
  rw [Int.toString_eq_repr]
  show ("-" ++ Nat.repr (n + 1)).toList = _
  rw [String.toList_append, Nat.repr_eq_ofList_toDigits]
  simp only [String.toList_ofList]
  exact List.singleton_append

theorem toList_toString_natCast (n : Nat) : (toString (n : Int)).toList = Nat.toDigits 10 n := by
  rw [Int.toString_eq_repr]
  show (Nat.repr n).toList = _
  rw [Nat.repr_eq_ofList_toDigits, String.toList_ofList]

theorem readNumber?_toDigits (n : Nat) :
    readNumber? (Nat.toDigits 10 n) = some (ofInteger false (Nat.toDigits 10 n), []) := by
  obtain ⟨c, cs, hcs⟩ := List.exists_cons_of_ne_nil (Nat.toDigits_ne_nil (n := n) (b := 10))
  have hdigit : Decimal.isDigit c = true :=
    Decimal.isDigit_toDigits (n := n) (by rw [hcs]; exact List.mem_cons_self)
  have hminus : c ≠ '-' := by
    rintro rfl
    cases hdigit
  rw [hcs, readNumber?_of_ne hminus, ← hcs]
  exact readMagnitude?_toDigits false n

theorem readNumber?_int {n : Int} (h : IsWord n) :
    readNumber? (toString n).toList = some (.int n, []) := by
  obtain ⟨hlow, hhigh⟩ := h
  cases n with
  | ofNat n =>
    have hfits : n < UInt64.size := Int.ofNat_lt.1 hhigh
    show readNumber? (toString (n : Int)).toList = _
    rw [toList_toString_natCast, readNumber?_toDigits]
    unfold ofInteger
    rw [keepWhole_toDigits hfits]
    rfl
  | negSucc n =>
    have hfits : n + 1 < UInt64.size := by
      have hmin : Int64.minValue.toInt = -9223372036854775808 := by decide
      have hsize : UInt64.size = 18446744073709551616 := rfl
      omega
    rw [toList_toString_negSucc]
    show readMagnitude? true _ = _
    rw [readMagnitude?_toDigits]
    unfold ofInteger
    rw [keepWhole_toDigits hfits]
    dsimp only
    rw [if_pos rfl, if_neg (by decide), if_pos ⟨Nat.succ_ne_zero n, hlow⟩]
    rfl

end Dialogue.Json
