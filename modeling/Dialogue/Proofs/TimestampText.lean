import Dialogue.Proofs.Digits
import Dialogue.Timestamp

namespace Dialogue.Timestamp

/-- The clock and the calendar can show the time. -/
structure Valid (time : Timestamp) : Prop where
  isDate : isDate time.year time.month time.day = true
  isTime : isTime time.hour time.minute time.second = true
  nanosecond_lt : time.nanosecond < 1000000000

theorem isBlank_of_isDigit {c : Char} (h : Decimal.isDigit c = true) : Text.isBlank c = false := by
  have hcode : 48 ≤ c.toNat ∧ c.toNat ≤ 57 := by
    simp only [Decimal.isDigit, Bool.and_eq_true, decide_eq_true_eq] at h
    exact h
  simp only [Text.isBlank, Bool.or_eq_false_iff, Bool.and_eq_false_iff, decide_eq_false_iff_not,
    beq_eq_false_iff_ne]
  omega

theorem skipBlanks_of_ends {cs : List Char} (h : Ends Text.isBlank cs) : skipBlanks cs = cs :=
  h.dropWhile

/-! ### Numbers -/

theorem isDigit_padded {width n : Nat} {c : Char} (h : c ∈ padded width n) :
    Decimal.isDigit c = true := by
  rcases List.mem_append.1 h with h | h
  · rw [List.eq_of_mem_replicate h]
    rfl
  · exact Decimal.isDigit_toDigits h

theorem ofDigits_padded (width n : Nat) : Decimal.ofDigits (padded width n) = n := by
  unfold padded
  rw [Decimal.ofDigits_padded, Decimal.ofDigits_toDigits]

theorem padded_ne_nil (width n : Nat) : padded width n ≠ [] := by
  unfold padded
  exact List.append_ne_nil_of_right_ne_nil _ Nat.toDigits_ne_nil

theorem length_padded {width n : Nat} (hwidth : width ≠ 0) (h : n < Nat.pow 10 width) :
    (padded width n).length = width := by
  have hdigits := (Nat.length_toDigits_le_iff (b := 10) (by decide) (Nat.pos_of_ne_zero hwidth)).2 h
  unfold padded
  rw [List.length_append, List.length_replicate]
  omega

theorem ends_isBlank_padded (width n : Nat) (rest : List Char) :
    Ends Text.isBlank (padded width n ++ rest) := by
  obtain ⟨c, cs, hcs⟩ := List.exists_cons_of_ne_nil (padded_ne_nil width n)
  rw [hcs]
  have hmem : c ∈ padded width n := by
    rw [hcs]
    exact List.mem_cons_self
  exact ends_cons (isBlank_of_isDigit (isDigit_padded hmem)) _

theorem readNumber?_padded (width : Nat) {n : Nat} (hwidth : width ≠ 0) (h : n < Nat.pow 10 width)
    (rest : List Char) : readNumber? width (padded width n ++ rest) = some (n, rest) := by
  have hlength := length_padded hwidth h
  have hall : ∀ c ∈ padded width n, Decimal.isDigit c = true := fun c hc => isDigit_padded hc
  have hdigits : ((padded width n ++ rest).take width).takeWhile Decimal.isDigit =
      padded width n := by
    rw [List.take_left' hlength]
    have hrun := takeWhile_run hall (ends_nil _)
    rwa [List.append_nil] at hrun
  unfold readNumber?
  rw [skipBlanks_of_ends (ends_isBlank_padded width n rest)]
  dsimp only
  rw [hdigits, if_neg, List.drop_left, ofDigits_padded]
  rw [List.isEmpty_iff]
  exact padded_ne_nil width n

theorem readDigits?_padded (width n : Nat) {rest : List Char} (h : Ends Decimal.isDigit rest) :
    readDigits? (padded width n ++ rest) = some (n, rest) := by
  have hdigits : ∀ c ∈ padded width n, Decimal.isDigit c = true := fun c hc => isDigit_padded hc
  unfold readDigits?
  dsimp only
  rw [takeWhile_run hdigits h, dropWhile_run hdigits h, ofDigits_padded, if_neg]
  rw [List.isEmpty_iff]
  exact padded_ne_nil width n

theorem readMark?_cons {mark : Char} (h : Text.isBlank mark = false) (rest : List Char) :
    readMark? mark (mark :: rest) = some rest := by
  unfold readMark?
  rw [skipBlanks_of_ends (ends_cons h rest)]
  exact if_pos rfl

/-! ### Parts -/

theorem readYear?_writeYear (year : Int) {rest : List Char} (h : Ends Decimal.isDigit rest) :
    readYear? (writeYear year ++ rest) = some (year, rest) := by
  unfold writeYear readYear?
  by_cases hyear : 0 ≤ year ∧ year ≤ 9999
  · have hlt : year.toNat < 10000 := by omega
    have hnumber := readNumber?_padded 4 (by decide) hlt rest
    have hvalue : (year.toNat : Int) = year := Int.toNat_of_nonneg hyear.1
    rw [if_pos hyear, skipBlanks_of_ends (ends_isBlank_padded 4 year.toNat rest)]
    obtain ⟨c, cs, hcs⟩ := List.exists_cons_of_ne_nil (padded_ne_nil 4 year.toNat)
    have hdigit : Decimal.isDigit c = true := isDigit_padded (by
      rw [hcs]
      exact List.mem_cons_self)
    rw [hcs] at hnumber ⊢
    split
    -- No digit is a sign.
    · rename_i heq
      cases heq
      cases hdigit
    · rename_i heq
      cases heq
      cases hdigit
    · rw [hnumber, Option.map_some]
      dsimp only
      rw [hvalue]
  · rw [if_neg hyear]
    by_cases hneg : year < 0
    · rw [if_pos hneg, List.cons_append, skipBlanks_of_ends (ends_cons rfl _)]
      show (readDigits? _).map _ = _
      rw [readDigits?_padded 4 year.natAbs h, Option.map_some]
      have hvalue : -(year.natAbs : Int) = year := by omega
      dsimp only
      rw [hvalue]
    · rw [if_neg hneg, List.cons_append, skipBlanks_of_ends (ends_cons rfl _)]
      show (readDigits? _).map _ = _
      rw [readDigits?_padded 4 year.natAbs h, Option.map_some]
      have hvalue : (year.natAbs : Int) = year := by omega
      dsimp only
      rw [hvalue]

theorem readFraction?_padded (width : Nat) {n : Nat} (hwidth : width ≠ 0) (hnine : width ≤ 9)
    (h : n < Nat.pow 10 width) {rest : List Char} (hrest : Ends Decimal.isDigit rest) :
    readFraction? ('.' :: (padded width n ++ rest)) = some (n * Nat.pow 10 (9 - width), rest) := by
  have hdigits : ∀ c ∈ padded width n, Decimal.isDigit c = true := fun c hc => isDigit_padded hc
  have hlength := length_padded hwidth h
  rw [readFraction?]
  dsimp only
  rw [takeWhile_run hdigits hrest, dropWhile_run hdigits hrest,
    List.take_of_length_le (by omega), ofDigits_padded, hlength, if_neg]
  rw [List.isEmpty_iff]
  exact padded_ne_nil width n

theorem readFraction?_writeFraction {nanosecond : Nat} (h : nanosecond < 1000000000)
    {rest : List Char} (hrest : Ends Decimal.isDigit rest) (hdot : rest.head? ≠ some '.') :
    readFraction? (writeFraction nanosecond ++ rest) = some (nanosecond, rest) := by
  unfold writeFraction
  split
  · rename_i hzero
    rw [List.nil_append, hzero]
    unfold readFraction?
    split
    · exact absurd rfl hdot
    · rfl
  · split
    · have hlt : nanosecond / 1000000 < 1000 := by omega
      rw [List.cons_append, readFraction?_padded 3 (by decide) (by decide) hlt hrest]
      have hvalue : nanosecond / 1000000 * 1000000 = nanosecond := by omega
      exact congrArg (fun value => some (value, rest)) hvalue
    · split
      · have hlt : nanosecond / 1000 < 1000000 := by omega
        rw [List.cons_append, readFraction?_padded 6 (by decide) (by decide) hlt hrest]
        have hvalue : nanosecond / 1000 * 1000 = nanosecond := by omega
        exact congrArg (fun value => some (value, rest)) hvalue
      · rw [List.cons_append, readFraction?_padded 9 (by decide) (by decide) h hrest]
        exact congrArg (fun value => some (value, rest)) (Nat.mul_one nanosecond)

theorem atMinute_self {time : Timestamp} (h : time.Valid) :
    time.atMinute (60 * time.hour + time.minute) = time := by
  have htime := h.isTime
  simp only [isTime, Bool.and_eq_true, decide_eq_true_eq] at htime
  unfold atMinute
  rw [if_neg (by omega), if_neg (by omega)]
  have hhour : ((60 * (time.hour : Int) + time.minute) % 1440).toNat / 60 = time.hour := by omega
  have hminute : ((60 * (time.hour : Int) + time.minute) % 1440).toNat % 60 = time.minute := by
    omega
  dsimp only
  rw [hhour, hminute]

theorem ofLocal?_zero {time : Timestamp} (h : time.Valid) : ofLocal? time 0 = some time := by
  have hyear : isYear time.year = true := by
    have hdate := h.isDate
    simp only [isDate, Bool.and_eq_true] at hdate
    exact hdate.1.1.1.1
  unfold ofLocal?
  rw [Int.sub_zero, atMinute_self h]
  dsimp only
  rw [hyear]
  rfl

/-- A time that can be shown reads back from its text. -/
theorem ofText?_toText {time : Timestamp} (h : time.Valid) : ofText? time.toText = some time := by
  have hdate := h.isDate
  have htime := h.isTime
  simp only [isDate, Bool.and_eq_true, decide_eq_true_eq] at hdate
  simp only [isTime, Bool.and_eq_true, decide_eq_true_eq] at htime
  have hdays : daysInMonth time.year time.month < 100 := by
    unfold daysInMonth
    split
    · split <;> decide
    · split <;> decide
  have hmonth : time.month < 100 := by omega
  have hday : time.day < 100 := by omega
  have hhour : time.hour < 100 := by omega
  have hminute : time.minute < 100 := by omega
  have hsecond : time.second < 100 := by omega
  have hdash : ∀ rest, readMark? '-' ('-' :: rest) = some rest := readMark?_cons rfl
  have hcolon : ∀ rest, readMark? ':' (':' :: rest) = some rest := readMark?_cons rfl
  unfold ofText? toText
  simp only [String.toList_ofList, List.append_assoc, List.cons_append, Option.bind_eq_bind]
  rw [readYear?_writeYear time.year (ends_cons rfl _), Option.bind_some, hdash, Option.bind_some,
    readNumber?_padded 2 (by decide) hmonth, Option.bind_some, hdash, Option.bind_some,
    readNumber?_padded 2 (by decide) hday, Option.bind_some]
  show (readNumber? 2 (padded 2 time.hour ++ _)).bind _ = _
  rw [readNumber?_padded 2 (by decide) hhour, Option.bind_some, hcolon, Option.bind_some,
    readNumber?_padded 2 (by decide) hminute, Option.bind_some, hcolon, Option.bind_some,
    readNumber?_padded 2 (by decide) hsecond, Option.bind_some]
  have hoffset : readOffset? ['Z'] = some (0, []) := rfl
  rw [readFraction?_writeFraction h.nanosecond_lt (ends_cons rfl _) (by decide), Option.bind_some,
    hoffset, Option.bind_some, h.isDate, h.isTime]
  exact ofLocal?_zero h

end Dialogue.Timestamp
