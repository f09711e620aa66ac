import Dialogue.Proofs.JsonNumbers

namespace Dialogue

/-- Has no control characters below U+0020, so no line breaks either. -/
def Printable (cs : List Char) : Prop :=
  ∀ c ∈ cs, 0x20 ≤ c.toNat

instance (cs : List Char) : Decidable (Printable cs) :=
  List.decidableBAll _ cs

namespace Printable

variable {cs ds : List Char} {c : Char}

@[simp] theorem nil : Printable [] :=
  List.forall_mem_nil _

@[simp] theorem cons_iff : Printable (c :: cs) ↔ 0x20 ≤ c.toNat ∧ Printable cs :=
  List.forall_mem_cons

@[simp] theorem append_iff : Printable (cs ++ ds) ↔ Printable cs ∧ Printable ds :=
  List.forall_mem_append

theorem mono (h : Printable cs) (hsub : ds ⊆ cs) : Printable ds :=
  fun c hc => h c (hsub hc)

theorem not_newline_mem (h : Printable cs) : '\n' ∉ cs :=
  fun hmem => absurd (h _ hmem) (by decide)

theorem toDigits (n : Nat) : Printable (Nat.toDigits 10 n) := by
  intro c hc
  have hdigit := Decimal.isDigit_toDigits hc
  simp only [Decimal.isDigit, Bool.and_eq_true, decide_eq_true_eq] at hdigit
  have hzero : '0'.toNat ≤ c.toNat := hdigit.1
  exact Nat.le_trans (by decide) hzero

theorem toString_nat (n : Nat) : Printable (toString n).toList := by
  show Printable (Nat.repr n).toList
  rw [Nat.repr_eq_ofList_toDigits, String.toList_ofList]
  exact toDigits n

theorem toString_int (n : Int) : Printable (toString n).toList := by
  cases n with
  | ofNat n =>
    show Printable (toString (n : Int)).toList
    rw [Json.toList_toString_natCast]
    exact toDigits n
  | negSucc n =>
    rw [Json.toList_toString_negSucc, cons_iff]
    exact ⟨by decide, toDigits _⟩

end Printable

namespace Decimal

theorem printable_zeros (n : Int) : Printable (zeros n).toList := by
  intro c hc
  rw [zeros, String.toList_ofList] at hc
  rw [List.eq_of_mem_replicate hc]
  decide

theorem printable_write {layout : Layout} (h : Printable layout.integral.toList) (d : Decimal) :
    Printable (write layout d).toList := by
  have hdigits := Printable.toDigits d.coefficient
  have htake (n : Nat) := hdigits.mono (List.take_subset n _)
  have hdrop (n : Nat) := hdigits.mono (List.drop_subset n _)
  unfold write
  dsimp only
  split
  · split
    · simp [hdigits, printable_zeros, h]
    · split
      · simp [htake, hdrop]
      · simp [hdigits, printable_zeros]
  · have hfraction : Printable (if (Nat.toDigits 10 d.coefficient).length = 1 then ""
        else "." ++ String.ofList ((Nat.toDigits 10 d.coefficient).drop 1)).toList := by
      split
      · exact Printable.nil
      · simp only [String.toList_append, Printable.append_iff, String.toList_ofList]
        exact ⟨by decide, hdrop 1⟩
    have hsign (e : Int) : Printable (if e < 0 then "-" else "+").toList := by
      split <;> decide
    simp only [String.toList_append, Printable.append_iff, String.toList_ofList]
    exact ⟨⟨⟨⟨htake 1, hfraction⟩, by decide⟩, hsign _⟩, Printable.toString_nat _⟩

theorem printable_writeFloat {layout : Layout} (h : Printable layout.integral.toList) (x : Float) :
    Printable (writeFloat layout x).toList := by
  unfold writeFloat
  dsimp only
  split
  · decide
  · have hsign : Printable (if isNegative x then "-" else "").toList := by
      split <;> decide
    split
    · simp [hsign]
    · simp [hsign, printable_write h]

end Decimal

namespace Json

theorem hexDigit_printable : ∀ n < 16, 0x20 ≤ (hexDigit n).toNat := by
  decide

theorem printable_escape (c : Char) : Printable (escape c) := by
  unfold escape
  -- Seven characters have escapes of their own.
  iterate 7
    split
    · decide
  split
  · rename_i hcontrol
    have hhigh := hexDigit_printable (c.toNat / 16) (by omega)
    have hlow := hexDigit_printable (c.toNat % 16) (by omega)
    simp [hhigh, hlow]
  · rename_i hcontrol
    simpa using hcontrol

theorem printable_renderString (s : String) : Printable (renderString s) := by
  have hescaped : Printable (s.toList.flatMap escape) := by
    intro c hc
    obtain ⟨d, -, hd⟩ := List.mem_flatMap.1 hc
    exact printable_escape d c hd
  simp [renderString, hescaped]

theorem printable_renderFloat (x : Float) : Printable (renderFloat x) := by
  unfold renderFloat
  split
  · exact Decimal.printable_writeFloat (by decide) x
  · decide

mutual

theorem printable_render : ∀ value, Printable (render value)
  | null | bool true | bool false | arr [] | obj [] => by
    simp [render]
  | int n => Printable.toString_int n
  | float x => printable_renderFloat x
  | str s => printable_renderString s
  | arr (item :: rest) => by
    rw [render]
    simp [printable_render item, printable_renderItems rest]
  | obj (member :: rest) => by
    rw [render]
    simp [printable_renderMember member, printable_renderMembers rest]

theorem printable_renderItems : ∀ items, Printable (renderItems items)
  | [] => by simp [renderItems]
  | item :: rest => by
    rw [renderItems]
    simp [printable_render item, printable_renderItems rest]

theorem printable_renderMember : ∀ member, Printable (renderMember member)
  | (name, value) => by
    rw [renderMember]
    simp [printable_renderString name, printable_render value]

theorem printable_renderMembers : ∀ members, Printable (renderMembers members)
  | [] => by simp [renderMembers]
  | member :: rest => by
    rw [renderMembers]
    simp [printable_renderMember member, printable_renderMembers rest]

end

theorem renderMembers_eq_append (members : List (String × Json)) :
    ∃ inner, renderMembers members = inner ++ ['\x7d'] := by
  induction members with
  | nil => exact ⟨[], rfl⟩
  | cons member rest ih =>
    obtain ⟨inner, hinner⟩ := ih
    refine ⟨',' :: (renderMember member ++ inner), ?_⟩
    rw [renderMembers, hinner, List.cons_append, List.append_assoc]

theorem render_obj (members : List (String × Json)) :
    ∃ inner, render (.obj members) = '\x7b' :: (inner ++ ['\x7d']) := by
  cases members with
  | nil => exact ⟨[], rfl⟩
  | cons member rest =>
    obtain ⟨inner, hinner⟩ := renderMembers_eq_append rest
    refine ⟨renderMember member ++ inner, ?_⟩
    rw [render, hinner, List.append_assoc]

end Json

end Dialogue
