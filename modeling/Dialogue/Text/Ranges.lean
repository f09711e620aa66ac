namespace Dialogue.Text

def isIncreasing : List (Nat × Nat) → Bool
  | r :: s :: rest => r.1 ≤ r.2 && r.2 < s.1 && isIncreasing (s :: rest)
  | [r] => r.1 ≤ r.2
  | [] => true

def inRanges : List (Nat × Nat) → Char → Bool
  | [], _ => false
  | r :: rest, c => r.1 ≤ c.toNat && (c.toNat ≤ r.2 || inRanges rest c)

theorem lt_of_isIncreasing {r s : Nat × Nat} {rest : List (Nat × Nat)}
    (h : isIncreasing (r :: rest)) (hs : s ∈ rest) : r.1 < s.1 := by
  induction rest generalizing r with
  | nil => simp at hs
  | cons t rest ih =>
    simp only [isIncreasing, Bool.and_eq_true, decide_eq_true_eq] at h
    rcases List.mem_cons.1 hs with rfl | hs
    · omega
    · have := ih h.2 hs
      omega

theorem isIncreasing_tail {r : Nat × Nat} {rest : List (Nat × Nat)}
    (h : isIncreasing (r :: rest)) : isIncreasing rest := by
  cases rest with
  | nil => rfl
  | cons s rest =>
    simp only [isIncreasing, Bool.and_eq_true] at h
    exact h.2

/-- No range behind one that starts after the character has to be looked at. -/
theorem inRanges_iff {ranges : List (Nat × Nat)} (h : isIncreasing ranges) {c : Char} :
    inRanges ranges c ↔ ∃ r ∈ ranges, r.1 ≤ c.toNat ∧ c.toNat ≤ r.2 := by
  induction ranges with
  | nil => simp [inRanges]
  | cons r rest ih =>
    have htail := ih (isIncreasing_tail h)
    simp only [inRanges, Bool.and_eq_true, Bool.or_eq_true, decide_eq_true_eq, htail,
      List.mem_cons, exists_eq_or_imp]
    constructor
    · rintro ⟨hfirst, hlast | hrest⟩
      · exact .inl ⟨hfirst, hlast⟩
      · exact .inr hrest
    · rintro (⟨hfirst, hlast⟩ | ⟨s, hs, hin⟩)
      · exact ⟨hfirst, .inl hlast⟩
      · have := lt_of_isIncreasing h hs
        exact ⟨by omega, .inr ⟨s, hs, hin⟩⟩

end Dialogue.Text
