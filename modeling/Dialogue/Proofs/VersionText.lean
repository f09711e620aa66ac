import Dialogue.Proofs.Digits
import Dialogue.Version
import Mathlib.Data.List.Basic

namespace Dialogue

namespace Version

def IsSuffixChar (c : Char) : Prop := c = '.' ∨ c = '+' ∨ isPartChar c = true

instance (c : Char) : Decidable (IsSuffixChar c) := inferInstanceAs (Decidable (_ ∨ _))

theorem exists_part_of_mem {cs : List Char} {c : Char} (hmem : c ∈ cs) (hdot : c ≠ '.') :
    ∃ part ∈ splitDots cs, c ∈ part := by
  induction cs with
  | nil => cases hmem
  | cons first cs ih =>
    rw [splitDots]
    cases hsplit : splitDots cs with
    | nil =>
      refine ⟨[first], List.mem_singleton_self _, ?_⟩
      rcases List.mem_cons.1 hmem with rfl | hmem
      · exact List.mem_singleton_self _
      · obtain ⟨part, hpart, _⟩ := ih hmem
        rw [hsplit] at hpart
        cases hpart
    | cons part parts =>
      dsimp only
      rcases List.mem_cons.1 hmem with rfl | hmem
      · rw [if_neg hdot]
        exact ⟨_, List.mem_cons_self, List.mem_cons_self⟩
      · obtain ⟨found, hfound, hc⟩ := ih hmem
        rw [hsplit] at hfound
        split
        · exact ⟨found, List.mem_cons_of_mem _ hfound, hc⟩
        · rcases List.mem_cons.1 hfound with rfl | hfound
          · exact ⟨_, List.mem_cons_self, List.mem_cons_of_mem _ hc⟩
          · exact ⟨found, List.mem_cons_of_mem _ hfound, hc⟩

theorem isSuffixChar_of_splitDots {cs : List Char}
    (h : ∀ part ∈ splitDots cs, isPart part = true) : ∀ c ∈ cs, IsSuffixChar c := by
  intro c hc
  by_cases hdot : c = '.'
  · exact .inl hdot
  · obtain ⟨part, hpart, hmem⟩ := exists_part_of_mem hc hdot
    have hchars := (Bool.and_eq_true_iff.1 (h part hpart)).2
    exact .inr (.inr (List.all_eq_true.1 hchars c hmem))

theorem of_readBuild? {cs : List Char} {build : List (List Char)}
    (h : readBuild? cs = some build) :
    (∀ c ∈ cs, IsSuffixChar c) ∧ ∀ c ∈ cs.head?, c = '+' := by
  unfold readBuild? at h
  split at h
  · exact ⟨List.forall_mem_nil _, fun _ hc => nomatch hc⟩
  next rest =>
    split at h
    next hall =>
      refine ⟨List.forall_mem_cons.2 ⟨.inr (.inl rfl), ?_⟩, fun _ hc => (Option.some.inj hc).symm⟩
      exact isSuffixChar_of_splitDots (List.all_eq_true.1 hall)
    next => cases h
  · cases h

theorem of_readPre? {cs rest : List Char} {pre : List (List Char)}
    (h : readPre? cs = some (pre, rest)) : ∃ front, cs = front ++ rest ∧
      (∀ c ∈ front, IsSuffixChar c) ∧ ∀ c ∈ front.head?, c = '-' := by
  unfold readPre? at h
  split at h
  next cs =>
    dsimp only at h
    split at h
    next hall =>
      cases h
      refine ⟨'-' :: cs.takeWhile (· != '+'), ?_, List.forall_mem_cons.2 ⟨.inr (.inr rfl), ?_⟩,
        fun _ hc => (Option.some.inj hc).symm⟩
      · rw [List.cons_append, List.takeWhile_append_dropWhile]
      · apply isSuffixChar_of_splitDots
        intro part hpart
        exact (Bool.and_eq_true_iff.1 (List.all_eq_true.1 hall part hpart)).1
    next => cases h
  · cases h
    exact ⟨[], rfl, List.forall_mem_nil _, fun _ hc => nomatch hc⟩

theorem readNumber?_zero {cs rest : List Char} {n : Nat}
    (h : readNumber? ('0' :: cs) = some (n, rest)) : rest = cs := by
  have hzero : Decimal.isDigit '0' = true := by decide
  unfold readNumber? at h
  rw [List.takeWhile_cons_of_pos hzero, List.dropWhile_cons_of_pos hzero] at h
  cases hdigits : cs.takeWhile Decimal.isDigit with
  | nil =>
    have hcs := List.takeWhile_append_dropWhile (p := Decimal.isDigit) (l := cs)
    rw [hdigits, List.nil_append] at hcs
    rw [hcs] at h
    simp only [Option.ite_none_left_eq_some, Option.some.injEq, Prod.mk.injEq] at h
    exact h.2.2.symm
  | cons digit digits =>
    rw [hdigits] at h
    simp at h

/-- Nothing but a pre-release or a build stands behind a last number that is zero. -/
theorem of_ofText?_append {text : String} {version : Version}
    (h : ofText? ("0.1.0" ++ text) = some version) :
    (∀ c ∈ text.toList, IsSuffixChar c) ∧ ∀ c ∈ text.toList.head?, c = '-' ∨ c = '+' := by
  have hmajor (cs : List Char) : readNumber? ('0' :: '.' :: cs) = some (0, '.' :: cs) := rfl
  have hminor (cs : List Char) : readNumber? ('1' :: '.' :: cs) = some (1, '.' :: cs) := rfl
  have htext : ("0.1.0" ++ text).toList = '0' :: '.' :: '1' :: '.' :: '0' :: text.toList := by simp
  unfold ofText? at h
  simp only [htext, hmajor, hminor, readDot?, Option.bind_eq_bind, Option.bind_some,
    Option.bind_eq_some_iff] at h
  obtain ⟨⟨_, cs⟩, hpatch, ⟨_, rest⟩, hpre, _, hbuild, _⟩ := h
  obtain rfl := readNumber?_zero hpatch
  obtain ⟨front, hfront, hprechars, hhyphen⟩ := of_readPre? hpre
  obtain ⟨hbuildchars, hplus⟩ := of_readBuild? hbuild
  dsimp only at hfront
  rw [hfront]
  constructor
  · intro c hc
    exact (List.mem_append.1 hc).elim (hprechars c) (hbuildchars c)
  · intro c hc
    cases front with
    | nil => exact .inr (hplus c hc)
    | cons first front => exact .inl (hhyphen c hc)

end Version

end Dialogue
