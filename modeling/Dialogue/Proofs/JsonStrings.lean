import Dialogue.Json.Reader

namespace Dialogue.Json

theorem hexValue?_hexDigit : ∀ d < 16, hexValue? (hexDigit d) = some d := by
  decide

theorem readCodes_plain {c : Char} (hquote : c ≠ '"') (hbackslash : c ≠ '\\')
    (hcontrol : ¬ c.toNat < 0x20) (tail : List Char) : readCodes (c :: tail) =
      (readCodes tail).map fun (codes, rest) => (c.toNat :: codes, rest) := by
  simp [readCodes, hbackslash, hcontrol]

theorem readCodes_escape (c : Char) (tail : List Char) : readCodes (escape c ++ tail) =
    (readCodes tail).map fun (codes, rest) => (c.toNat :: codes, rest) := by
  unfold escape
  -- Seven characters have escapes of their own.
  iterate 7
    split
    · subst_vars
      rfl
  split
  · rename_i hcontrol
    have hhigh := hexValue?_hexDigit (c.toNat / 16) (by omega)
    have hlow := hexValue?_hexDigit (c.toNat % 16) (by omega)
    have hcode : hex4? '0' '0' (hexDigit (c.toNat / 16)) (hexDigit (c.toNat % 16)) =
        some c.toNat := by
      unfold hex4?
      rw [hhigh, hlow]
      show some (0 * 256 + c.toNat / 16 * 16 + c.toNat % 16) = _
      congr 1
      omega
    show readCodes ('\\' :: 'u' :: '0' :: '0' :: _ :: _ :: tail) = _
    rw [readCodes, hcode]
    rfl
  · rename_i hquote hbackslash _ _ _ _ _ hcontrol
    exact readCodes_plain hquote hbackslash hcontrol tail

theorem isSurrogate_toNat (c : Char) :
    isHighSurrogate c.toNat = false ∧ isLowSurrogate c.toNat = false := by
  have hvalid : c.toNat < 0xD800 ∨ 0xDFFF < c.toNat ∧ c.toNat < 0x110000 := c.valid
  simp only [isHighSurrogate, isLowSurrogate, Bool.and_eq_false_iff, decide_eq_false_iff_not]
  omega

theorem ofCodes?_cons (c : Char) (codes : List Nat) :
    ofCodes? (c.toNat :: codes) = (ofCodes? codes).map (c :: ·) := by
  obtain ⟨hhigh, hlow⟩ := isSurrogate_toNat c
  cases codes with
  | nil => simp [ofCodes?, hhigh, hlow]
  | cons low rest => simp [ofCodes?, hhigh, hlow]

theorem ofCodes?_map_toNat (cs : List Char) : ofCodes? (cs.map Char.toNat) = some cs := by
  induction cs with
  | nil => rfl
  | cons c cs ih => rw [List.map_cons, ofCodes?_cons, ih, Option.map_some]

theorem readCodes_flatMap (cs rest : List Char) : readCodes (cs.flatMap escape ++ '"' :: rest) =
    some (cs.map Char.toNat, rest) := by
  induction cs with
  | nil => rfl
  | cons c cs ih =>
    rw [List.flatMap_cons, List.append_assoc, readCodes_escape, ih]
    rfl

theorem readString_escaped (s : String) (rest : List Char) :
    readString (s.toList.flatMap escape ++ '"' :: rest) = some (some s, rest) := by
  unfold readString
  rw [readCodes_flatMap, Option.map_some]
  dsimp only
  rw [ofCodes?_map_toNat, Option.map_some, String.ofList_toList]

end Dialogue.Json
