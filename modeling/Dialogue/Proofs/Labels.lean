import Dialogue.Ensemble

namespace Dialogue.Ensemble

theorem toList_label (index : Nat) (typeName : String) : (label index typeName).toList =
    "policy_".toList ++ (Nat.toDigits 10 index ++ '_' :: typeName.toList) := by
  unfold label
  rw [Nat.toString_eq_ofList_toDigits]
  simp only [String.toList_append, String.toList_ofList, List.append_assoc]
  rfl

/-- No digit is an underscore, so the index ends at the first one. -/
theorem takeWhile_label (index : Nat) (rest : List Char) :
    (Nat.toDigits 10 index ++ '_' :: rest).takeWhile (· != '_') = Nat.toDigits 10 index := by
  have hdigits : ∀ c ∈ Nat.toDigits 10 index, (c != '_') = true := by
    intro c hc
    rw [bne_iff_ne]
    rintro rfl
    exact Nat.underscore_not_in_toDigits hc
  rw [List.takeWhile_append_of_pos hdigits, List.takeWhile_cons_of_neg (by simp), List.append_nil]

theorem label_inj {i j : Nat} {type other : String} (h : label i type = label j other) :
    i = j ∧ type = other := by
  have hlist := congrArg String.toList h
  rw [toList_label, toList_label, List.append_cancel_left_eq] at hlist
  have hdigits := congrArg (List.takeWhile (· != '_')) hlist
  rw [takeWhile_label, takeWhile_label] at hdigits
  have hindex := congrArg (Nat.ofDigitChars 10 · 0) hdigits
  simp only [Nat.ofDigitChars_ten_toDigits] at hindex
  rw [hindex, List.append_cancel_left_eq, List.cons.injEq] at hlist
  exact ⟨hindex, String.toList_injective hlist.2⟩

end Dialogue.Ensemble
