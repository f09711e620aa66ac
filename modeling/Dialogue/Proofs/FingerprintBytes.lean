import Dialogue.Domain
import Mathlib.Algebra.Group.Nat.Defs
import Mathlib.Data.List.Basic
import Mathlib.Tactic.SplitIfs

/-!
What can be read back from the bytes of a fingerprint. A text behind its length can be cut off its
bytes if it is shorter than 2⁴⁰ bytes: a length takes eight bytes, the last three of which are then
zeros, and no title that the fingerprints use goes on with zeros there.
-/
namespace Dialogue

namespace Domain

/-! ### Texts -/

theorem toList_loop (b : ByteArray) (i : Nat) (r : List UInt8) :
    ByteArray.toList.loop b i r = r.reverse ++ b.data.toList.drop i := by
  fun_induction ByteArray.toList.loop b i r with
  | case1 i r h ih =>
    have hi : i < b.data.toList.length := by simpa using h
    rw [ih, List.drop_eq_getElem_cons hi]
    simp [ByteArray.get!, h]
  | case2 i r h =>
    have hi : b.data.toList.length ≤ i := by simpa using h
    rw [List.drop_eq_nil_of_le hi, List.append_nil]

theorem bytes_eq (s : String) : bytes s = s.toByteArray.data.toList := by
  simp [bytes, ByteArray.toList, toList_loop]

theorem bytes_ofList (cs : List Char) :
    bytes (String.ofList cs) = cs.flatMap String.utf8EncodeChar := by
  simp [bytes_eq, List.utf8Encode]

theorem bytes_empty : bytes "" = [] := by
  simp [bytes_eq]

theorem bytes_append (s t : String) : bytes (s ++ t) = bytes s ++ bytes t := by
  simp [bytes_eq]

theorem length_bytes (s : String) : (bytes s).length = s.utf8ByteSize := by
  rw [bytes_eq, ← String.size_toByteArray]
  rfl

theorem bytes_inj {s t : String} (h : bytes s = bytes t) : s = t := by
  rw [bytes_eq, bytes_eq] at h
  exact String.toByteArray_inj.1 (ByteArray.ext (Array.toList_inj.1 h))

theorem exists_of_bytes_append {s t : String} {rest : List UInt8} (h : bytes s ++ rest = bytes t) :
    ∃ u, t = s ++ u ∧ rest = bytes u := by
  have harray : s.toList.utf8Encode ++ rest.toByteArray = t.toList.utf8Encode := by
    rw [bytes_eq, bytes_eq] at h
    apply ByteArray.ext
    apply Array.toList_inj.1
    simpa using h
  obtain ⟨cs, hcs⟩ := List.isPrefix_of_utf8Encode_append_eq_utf8Encode _ harray
  have ht : t = s ++ String.ofList cs := by
    rw [← String.toList_inj, String.toList_append, String.toList_ofList, hcs]
  refine ⟨String.ofList cs, ht, ?_⟩
  rw [ht, bytes_append] at h
  exact List.append_cancel_left h

theorem eq_nul_of_zero_mem {c : Char} (h : 0 ∈ String.utf8EncodeChar c) : c = '\x00' := by
  have hnul : c.val.toNat = 0 := by
    simp only [String.utf8EncodeChar] at h
    split_ifs at h
    all_goals
      simp only [List.mem_cons, List.not_mem_nil, ← UInt8.toNat_inj, UInt8.toNat_ofNat',
        UInt8.toNat_zero, or_false] at h
      omega
  exact Char.ext (UInt32.toNat_inj.1 hnul)

theorem nul_mem_of_zero_mem {s : String} (h : 0 ∈ bytes s) : '\x00' ∈ s.toList := by
  rw [← String.ofList_toList (s := s), bytes_ofList, List.mem_flatMap] at h
  obtain ⟨c, hc, hzero⟩ := h
  rwa [← eq_nul_of_zero_mem hzero]

/-! ### Texts behind their length -/

/-- The texts that the lengths of the fingerprints are read back for. -/
def Short (s : String) : Prop := s.utf8ByteSize < 0x10000000000

instance (s : String) : Decidable (Short s) := inferInstanceAs (Decidable (_ < _))

theorem length_numberBytes (count n : Nat) : (numberBytes count n).length = count := by
  induction count generalizing n with
  | zero => rfl
  | succ count ih => rw [numberBytes, List.length_cons, ih]

theorem getElem?_numberBytes {count i : Nat} (n : Nat) (h : i < count) :
    (numberBytes count n)[i]? = some (UInt8.ofNat (n / 256 ^ i)) := by
  induction count generalizing n i with
  | zero => cases h
  | succ count ih =>
    cases i with
    | zero => simp [numberBytes]
    | succ i =>
      rw [numberBytes, List.getElem?_cons_succ, ih _ (by omega), Nat.div_div_eq_div_mul,
        Nat.pow_succ']

theorem numberBytes_inj {count m n : Nat} (hm : m < 256 ^ count) (hn : n < 256 ^ count)
    (h : numberBytes count m = numberBytes count n) : m = n := by
  induction count generalizing m n with
  | zero => omega
  | succ count ih =>
    obtain ⟨hlow, hhigh⟩ := List.cons.inj h
    have hlow : m % 256 = n % 256 := by simpa using congrArg UInt8.toNat hlow
    have hhigh : m / 256 = n / 256 := by
      apply ih _ _ hhigh
      all_goals
        apply Nat.div_lt_of_lt_mul
        rwa [← Nat.pow_succ']
    omega

theorem getElem?_measuredBytes {s : String} (h : Short s) (rest : List UInt8) {i : Nat}
    (hi : 5 ≤ i ∧ i < 8) : (measuredBytes s ++ rest)[i]? = some 0 := by
  have hsize : s.utf8ByteSize / 256 ^ i = 0 := by
    apply Nat.div_eq_of_lt
    calc s.utf8ByteSize < 256 ^ 5 := by simpa [Short] using h
      _ ≤ 256 ^ i := Nat.pow_le_pow_right (by decide) hi.1
  rw [measuredBytes, List.append_assoc,
    List.getElem?_append_left (by rw [length_numberBytes]; exact hi.2),
    getElem?_numberBytes _ hi.2, hsize]
  rfl

theorem measuredBytes_append_inj {s t : String} {rest rest' : List UInt8} (hs : Short s)
    (ht : Short t) (h : measuredBytes s ++ rest = measuredBytes t ++ rest') :
    s = t ∧ rest = rest' := by
  simp only [measuredBytes, List.append_assoc] at h
  obtain ⟨hsize, h⟩ := List.append_inj h (by simp only [length_numberBytes])
  unfold Short at hs ht
  have hsize := numberBytes_inj (by omega) (by omega) hsize
  obtain ⟨hbytes, hrest⟩ := List.append_inj h (by rw [length_bytes, length_bytes, hsize])
  exact ⟨bytes_inj hbytes, hrest⟩

/-! ### Lists of texts behind their lengths -/

/-- The bytes do not start with the length of a short text. -/
def Titled (rest : List UInt8) : Prop := ∃ i, (5 ≤ i ∧ i < 8) ∧ rest[i]? ≠ some 0

theorem titled_append {title rest : List UInt8} {b : UInt8} (h : title[5]? = some b) (hb : b ≠ 0) :
    Titled (title ++ rest) := by
  refine ⟨5, by decide, ?_⟩
  rw [List.getElem?_append_left (List.getElem?_eq_some_iff.1 h).1, h]
  exact fun hzero => hb (Option.some.inj hzero)

/-- Where the same bytes are two lists of texts with something after them, one of the lists starts
with the other, and the rest of it is read from what is after that. -/
theorem exists_extra {xs ys : List String} {rest rest' : List UInt8} (hxs : ∀ x ∈ xs, Short x)
    (hys : ∀ y ∈ ys, Short y)
    (h : xs.flatMap measuredBytes ++ rest = ys.flatMap measuredBytes ++ rest') :
    (∃ extra, ys = xs ++ extra ∧ rest = extra.flatMap measuredBytes ++ rest') ∨
      ∃ extra, xs = ys ++ extra ∧ rest' = extra.flatMap measuredBytes ++ rest := by
  induction xs generalizing ys with
  | nil => exact .inl ⟨ys, rfl, h⟩
  | cons x xs ih =>
    cases ys with
    | nil => exact .inr ⟨x :: xs, rfl, h.symm⟩
    | cons y ys =>
      simp only [List.flatMap_cons, List.append_assoc] at h
      rw [List.forall_mem_cons] at hxs hys
      obtain ⟨rfl, htail⟩ := measuredBytes_append_inj hxs.1 hys.1 h
      obtain ⟨extra, rfl, hrest⟩ | ⟨extra, rfl, hrest⟩ := ih hxs.2 hys.2 htail
      · exact .inl ⟨extra, rfl, hrest⟩
      · exact .inr ⟨extra, rfl, hrest⟩

theorem extra_eq_nil {extra : List String} {rest rest' : List UInt8} (htitle : Titled rest)
    (hextra : ∀ x ∈ extra, Short x) (h : rest = extra.flatMap measuredBytes ++ rest') :
    extra = [] := by
  cases extra with
  | nil => rfl
  | cons x extra =>
    obtain ⟨i, hi, hzero⟩ := htitle
    rw [h, List.flatMap_cons, List.append_assoc] at hzero
    exact absurd (getElem?_measuredBytes (hextra x List.mem_cons_self) _ hi) hzero

theorem flatMap_measuredBytes_inj {xs ys : List String} {rest rest' : List UInt8}
    (hxs : ∀ x ∈ xs, Short x) (hys : ∀ y ∈ ys, Short y) (htitle : Titled rest)
    (htitle' : Titled rest')
    (h : xs.flatMap measuredBytes ++ rest = ys.flatMap measuredBytes ++ rest') :
    xs = ys ∧ rest = rest' := by
  obtain ⟨extra, rfl, hrest⟩ | ⟨extra, rfl, hrest⟩ := exists_extra hxs hys h
  · obtain rfl := extra_eq_nil htitle (fun x hx => hys x (List.mem_append_right _ hx)) hrest
    exact ⟨(List.append_nil _).symm, hrest⟩
  · obtain rfl := extra_eq_nil htitle' (fun x hx => hxs x (List.mem_append_right _ hx)) hrest
    exact ⟨List.append_nil _, hrest.symm⟩

end Domain

namespace Blake3

/-- Two byte strings that do not collide. Texts are mapped to hashes of fixed length, so no hash
keeps all of them apart, and this is assumed of the byte strings that are compared. -/
def Separates (a b : List UInt8) : Prop := hash a = hash b → a = b

theorem hexDigit_inj {m n : Nat} (hm : m < 16) (hn : n < 16) (h : hexDigit m = hexDigit n) :
    m = n := by
  have hdigits : ∀ m : Fin 16, ∀ n : Fin 16, hexDigit m = hexDigit n → m = n := by decide
  exact congrArg Fin.val (hdigits ⟨m, hm⟩ ⟨n, hn⟩ h)

theorem hex_inj {a b : List UInt8} (h : hex a = hex b) : a = b := by
  unfold hex at h
  rw [String.ofList_inj] at h
  induction a generalizing b with
  | nil =>
    cases b with
    | nil => rfl
    | cons y b => cases h
  | cons x a ih =>
    cases b with
    | nil => cases h
    | cons y b =>
      simp only [List.flatMap_cons, List.cons_append, List.nil_append, List.cons.injEq] at h
      obtain ⟨hhigh, hlow, hrest⟩ := h
      have hx := x.toNat_lt
      have hy := y.toNat_lt
      have hhigh := hexDigit_inj (by omega) (by omega) hhigh
      have hlow := hexDigit_inj (by omega) (by omega) hlow
      have hxy : x = y := UInt8.toNat_inj.1 (by omega)
      rw [hxy, ih hrest]

theorem hexHash_eq_iff {a b : List UInt8} (h : Separates a b) : hexHash a = hexHash b ↔ a = b := by
  constructor
  · intro heq
    exact h (hex_inj heq)
  · rintro rfl
    rfl

end Blake3

end Dialogue
