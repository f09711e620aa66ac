import Dialogue.Decimal

namespace Dialogue

/-- A run of characters of a kind ends here: nothing follows, or a character of another kind. -/
def Ends (kind : Char → Bool) (rest : List Char) : Prop :=
  ∀ c ∈ rest.head?, kind c = false

section

variable {kind : Char → Bool} {run rest : List Char}

theorem ends_nil (kind : Char → Bool) : Ends kind [] :=
  fun _ h => nomatch h

theorem ends_cons {c : Char} (h : kind c = false) (rest : List Char) : Ends kind (c :: rest) := by
  intro other hother
  cases hother
  exact h

theorem Ends.takeWhile (h : Ends kind rest) : rest.takeWhile kind = [] := by
  cases rest with
  | nil => rfl
  | cons c rest => exact List.takeWhile_cons_of_neg (by simp [h c rfl])

theorem Ends.dropWhile (h : Ends kind rest) : rest.dropWhile kind = rest := by
  cases rest with
  | nil => rfl
  | cons c rest => exact List.dropWhile_cons_of_neg (by simp [h c rfl])

theorem takeWhile_run (hrun : ∀ c ∈ run, kind c = true) (h : Ends kind rest) :
    (run ++ rest).takeWhile kind = run := by
  rw [List.takeWhile_append_of_pos hrun, h.takeWhile, List.append_nil]

theorem dropWhile_run (hrun : ∀ c ∈ run, kind c = true) (h : Ends kind rest) :
    (run ++ rest).dropWhile kind = rest := by
  rw [List.dropWhile_append_of_pos hrun, h.dropWhile]

theorem run_append_inj {run' rest' : List Char} (hrun : ∀ c ∈ run, kind c = true)
    (hrun' : ∀ c ∈ run', kind c = true) (h : Ends kind rest) (h' : Ends kind rest')
    (heq : run ++ rest = run' ++ rest') : run = run' ∧ rest = rest' := by
  constructor
  · rw [← takeWhile_run hrun h, heq, takeWhile_run hrun' h']
  · rw [← dropWhile_run hrun h, heq, dropWhile_run hrun' h']

theorem takeWhile_append (h : Ends kind rest) (cs : List Char) :
    (cs ++ rest).takeWhile kind = cs.takeWhile kind := by
  induction cs with
  | nil => exact h.takeWhile
  | cons c cs ih =>
    rw [List.cons_append, List.takeWhile_cons, List.takeWhile_cons, ih]

theorem dropWhile_append (h : Ends kind rest) (cs : List Char) :
    (cs ++ rest).dropWhile kind = cs.dropWhile kind ++ rest := by
  induction cs with
  | nil => exact h.dropWhile
  | cons c cs ih =>
    rw [List.cons_append, List.dropWhile_cons, List.dropWhile_cons, ih]
    split <;> rfl

end

namespace Decimal

theorem isDigit_toDigits {n : Nat} {c : Char} (h : c ∈ Nat.toDigits 10 n) : isDigit c = true :=
  Nat.isDigit_of_mem_toDigits (by decide) (by decide) h

theorem ofDigits_toDigits (n : Nat) : ofDigits (Nat.toDigits 10 n) = n := by
  have h := Nat.ofDigitChars_ten_toDigits (n := n)
  rwa [Nat.ofDigitChars_eq_foldl] at h

theorem ofDigits_padded (width : Nat) (cs : List Char) :
    ofDigits (List.replicate width '0' ++ cs) = ofDigits cs := by
  unfold ofDigits
  rw [List.foldl_append]
  congr 1
  induction width with
  | zero => rfl
  | succ width ih => exact ih

theorem head?_toDigits {n : Nat} (h : n ≠ 0) : (Nat.toDigits 10 n).head? ≠ some '0' := by
  induction n using Nat.strongRecOn with
  | ind n ih =>
    rw [Nat.toDigits_eq_if (by decide)]
    split
    · rename_i hlt
      have hdigits : ∀ d < 10, d ≠ 0 → [d.digitChar].head? ≠ some '0' := by decide
      exact hdigits n hlt h
    · rename_i hge
      have hdiv : n / 10 ≠ 0 := by omega
      have hhead := ih (n / 10) (by omega) hdiv
      obtain ⟨c, cs, hcs⟩ := List.exists_cons_of_ne_nil
        (Nat.toDigits_ne_nil (n := n / 10) (b := 10))
      rw [hcs] at hhead ⊢
      exact hhead

end Decimal

end Dialogue
