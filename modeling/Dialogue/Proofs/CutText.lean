import Dialogue.Proofs.JsonText
import Mathlib.Data.List.TakeWhile

/-!
Texts that were cut off. A reader closes every bracket that it opens, and in the text of an object the
first bracket is closed by the last character; so no part of that text from the beginning on reads.
-/
namespace Dialogue.Json

/-! ### Brackets -/

inductive Side where
  | outside
  | inString
  | behindBackslash

/-- A spot in a text: whether it is in a string, and how many brackets are open there. -/
structure Spot where
  side : Side
  level : Nat

def outside (level : Nat) : Spot := ⟨.outside, level⟩
def inString (level : Nat) : Spot := ⟨.inString, level⟩

def isPlain (c : Char) : Bool :=
  c != '"' && c != '[' && c != ']' && c != '\x7b' && c != '\x7d'

def Spot.next : Spot → Char → Spot
  | ⟨.outside, level⟩, c =>
    if c = '"' then inString level
    else if c = '[' || c = '\x7b' then outside (level + 1)
    else if c = ']' || c = '\x7d' then outside (level - 1)
    else outside level
  | ⟨.inString, level⟩, c =>
    if c = '"' then outside level else if c = '\\' then ⟨.behindBackslash, level⟩ else inString level
  | ⟨.behindBackslash, level⟩, _ => inString level

/-- Characters lead from one spot to another, and nowhere between are fewer brackets open than a
bound. -/
inductive Trail (bound : Nat) : Spot → List Char → Spot → Prop where
  | nil {spot : Spot} (h : bound ≤ spot.level) : Trail bound spot [] spot
  | cons {spot stop : Spot} {c : Char} {cs : List Char} (h : bound ≤ spot.level)
    (hrest : Trail bound (spot.next c) cs stop) : Trail bound spot (c :: cs) stop

section

variable {bound level : Nat} {start middle stop : Spot} {cs more : List Char} {c : Char}

theorem Trail.le_start (h : Trail bound start cs stop) : bound ≤ start.level := by
  cases h <;> assumption

theorem Trail.step (h : bound ≤ start.level) (hnext : start.next c = middle)
    (hrest : Trail bound middle cs stop) : Trail bound start (c :: cs) stop :=
  .cons h (hnext ▸ hrest)

theorem Trail.append (h : Trail bound start cs middle) (hmore : Trail bound middle more stop) :
    Trail bound start (cs ++ more) stop := by
  induction h with
  | nil => exact hmore
  | cons h _ ih => exact .cons h (ih hmore)

theorem Trail.mono {lower : Nat} (h : Trail bound start cs stop) (hle : lower ≤ bound) :
    Trail lower start cs stop := by
  induction h with
  | nil h => exact .nil (Nat.le_trans hle h)
  | cons h _ ih => exact .cons (Nat.le_trans hle h) ih

theorem Trail.unique {other : Nat} {last : Spot} (h : Trail bound start cs stop)
    (hother : Trail other start cs last) : stop = last := by
  induction h with
  | nil => cases hother; rfl
  | cons _ _ ih => cases hother with | cons _ hrest => exact ih hrest

theorem Trail.of_append (h : Trail bound start (cs ++ more) stop) :
    ∃ middle, Trail bound start cs middle ∧ bound ≤ middle.level := by
  induction cs generalizing start with
  | nil => exact ⟨start, .nil h.le_start, h.le_start⟩
  | cons c cs ih =>
    cases h with
    | cons hle hrest =>
      obtain ⟨middle, hmiddle, hlevel⟩ := ih hrest
      exact ⟨middle, .cons hle hmiddle, hlevel⟩

theorem trail_plain (hle : bound ≤ level) (h : ∀ c ∈ cs, isPlain c = true) :
    Trail bound (outside level) cs (outside level) := by
  induction cs with
  | nil => exact .nil hle
  | cons c cs ih =>
    rw [List.forall_mem_cons] at h
    have hnext : (outside level).next c = outside level := by
      have hc := h.1
      simp only [isPlain, Bool.and_eq_true, bne_iff_ne] at hc
      simp [outside, Spot.next, hc]
    exact .step hle hnext (ih h.2)

end

/-! ### Reading -/

def Spans (start : Spot) (cs rest : List Char) (stop : Spot) : Prop :=
  ∃ used, cs = used ++ rest ∧ Trail 0 start used stop

section

variable {level : Nat} {start middle stop : Spot} {cs rest tail : List Char} {c : Char}

theorem Spans.refl (start : Spot) (cs : List Char) : Spans start cs cs start :=
  ⟨[], rfl, .nil start.level.zero_le⟩

theorem Spans.trans (h : Spans start cs rest middle) (hrest : Spans middle rest tail stop) :
    Spans start cs tail stop := by
  obtain ⟨used, rfl, hused⟩ := h
  obtain ⟨more, rfl, hmore⟩ := hrest
  exact ⟨used ++ more, (List.append_assoc used more tail).symm, hused.append hmore⟩

theorem Spans.cons (hnext : start.next c = middle) (h : Spans middle cs rest stop) :
    Spans start (c :: cs) rest stop := by
  obtain ⟨used, rfl, hused⟩ := h
  exact ⟨c :: used, rfl, .step start.level.zero_le hnext hused⟩

theorem spans_plain (used : List Char) (h : used.all isPlain = true) :
    Spans (outside level) (used ++ rest) rest (outside level) :=
  ⟨used, rfl, trail_plain level.zero_le (List.all_eq_true.1 h)⟩

def Avoids (kind : Char → Bool) : Prop :=
  ∀ c, isPlain c = false → kind c = false

theorem isPlain_of_avoids {kind : Char → Bool} (hkind : Avoids kind) (h : kind c = true) :
    isPlain c = true := by
  cases hplain : isPlain c with
  | true => rfl
  | false =>
    rw [hkind c hplain] at h
    cases h

theorem eq_of_not_isPlain (h : isPlain c = false) :
    c = '"' ∨ c = '[' ∨ c = ']' ∨ c = '\x7b' ∨ c = '\x7d' := by
  simp only [isPlain, bne, Bool.and_eq_false_iff, Bool.not_eq_false', beq_iff_eq] at h
  simpa only [or_assoc] using h

theorem avoids_isSpace : Avoids isSpace := by
  intro c hc
  rcases eq_of_not_isPlain hc with rfl | rfl | rfl | rfl | rfl <;> rfl

theorem avoids_isDigit : Avoids Decimal.isDigit := by
  intro c hc
  rcases eq_of_not_isPlain hc with rfl | rfl | rfl | rfl | rfl <;> rfl

theorem spans_dropWhile {kind : Char → Bool} (hkind : Avoids kind) (cs : List Char) :
    Spans (outside level) cs (cs.dropWhile kind) (outside level) := by
  refine ⟨cs.takeWhile kind, List.takeWhile_append_dropWhile.symm, trail_plain level.zero_le ?_⟩
  exact fun c hc => isPlain_of_avoids hkind (List.mem_takeWhile_imp hc)

theorem spans_skipSpace (cs : List Char) :
    Spans (outside level) cs (skipSpace cs) (outside level) :=
  spans_dropWhile avoids_isSpace cs

theorem spans_readFraction? {fraction : Option (List Char)}
    (h : readFraction? cs = some (fraction, rest)) :
    Spans (outside level) cs rest (outside level) := by
  unfold readFraction? at h
  split at h
  · dsimp only at h
    split at h
    · cases h
    · cases h
      exact Spans.cons rfl (spans_dropWhile avoids_isDigit _)
  · cases h
    exact Spans.refl _ _

theorem spans_splitSign (cs : List Char) :
    Spans (outside level) cs (splitSign cs).2 (outside level) := by
  unfold splitSign
  split
  · exact Spans.cons rfl (Spans.refl _ _)
  · exact Spans.cons rfl (Spans.refl _ _)
  · exact Spans.refl _ _

theorem spans_readExponent? {exponent : Option Int}
    (h : readExponent? cs = some (exponent, rest)) :
    Spans (outside level) cs rest (outside level) := by
  cases cs with
  | nil =>
    cases h
    exact Spans.refl _ _
  | cons mark cs =>
    rw [readExponent?_cons] at h
    dsimp only at h
    split at h
    · rename_i hmark
      split at h
      · cases h
      · cases h
        have hnext : (outside level).next mark = outside level := by
          rw [Bool.or_eq_true, decide_eq_true_eq, decide_eq_true_eq] at hmark
          rcases hmark with rfl | rfl <;> rfl
        exact .cons hnext ((spans_splitSign cs).trans (spans_dropWhile avoids_isDigit _))
    · cases h
      exact Spans.refl _ _

theorem spans_readMagnitude? {negative : Bool} {value : Json}
    (h : readMagnitude? negative cs = some (value, rest)) :
    Spans (outside level) cs rest (outside level) := by
  unfold readMagnitude? at h
  dsimp only at h
  split at h
  · cases h
  · obtain ⟨⟨fraction, behindFraction⟩, hfraction, h⟩ := Option.bind_eq_some_iff.1 h
    obtain ⟨⟨exponent, behindExponent⟩, hexponent, h⟩ := Option.bind_eq_some_iff.1 h
    have hend : behindExponent = rest := by
      dsimp only at h
      split at h <;> cases h <;> rfl
    subst hend
    exact ((spans_dropWhile avoids_isDigit cs).trans (spans_readFraction? hfraction)).trans
      (spans_readExponent? hexponent)

theorem spans_readNumber? {value : Json} (h : readNumber? cs = some (value, rest)) :
    Spans (outside level) cs rest (outside level) := by
  unfold readNumber? at h
  split at h
  · exact Spans.cons rfl (spans_readMagnitude? h)
  · exact spans_readMagnitude? h

theorem next_inString (hquote : c ≠ '"') (hbackslash : c ≠ '\\') :
    (inString level).next c = inString level := by
  simp [inString, Spot.next, hquote, hbackslash]

theorem next_of_hexValue? {digit : Nat} (h : hexValue? c = some digit) :
    (inString level).next c = inString level := by
  apply next_inString
  · rintro rfl
    cases h
  · rintro rfl
    cases h

theorem spans_hex4? {a b c d : Char} {n : Nat} (h : hex4? a b c d = some n)
    (hrest : Spans (inString level) cs rest stop) :
    Spans (inString level) (a :: b :: c :: d :: cs) rest stop := by
  unfold hex4? at h
  obtain ⟨_, ha, h⟩ := Option.bind_eq_some_iff.1 h
  obtain ⟨_, hb, h⟩ := Option.bind_eq_some_iff.1 h
  obtain ⟨_, hc, h⟩ := Option.bind_eq_some_iff.1 h
  obtain ⟨_, hd, h⟩ := Option.bind_eq_some_iff.1 h
  refine Spans.cons (next_of_hexValue? ha) (Spans.cons (next_of_hexValue? hb) ?_)
  exact Spans.cons (next_of_hexValue? hc) (Spans.cons (next_of_hexValue? hd) hrest)

theorem spans_readCodes {codes : List Nat} (h : readCodes cs = some (codes, rest)) :
    Spans (inString level) cs rest (outside level) := by
  fun_induction readCodes cs generalizing codes with
  | case1 => cases h
  | case2 =>
    cases h
    exact Spans.cons rfl (Spans.refl _ _)
  | case3 a b c d cs ih =>
    obtain ⟨n, hn, h⟩ := Option.bind_eq_some_iff.1 h
    obtain ⟨⟨more, _⟩, hmore, hpair⟩ := Option.map_eq_some_iff.1 h
    cases hpair
    exact Spans.cons rfl (Spans.cons rfl (spans_hex4? hn (ih hmore)))
  | case4 c cs _ ih =>
    obtain ⟨e, he, h⟩ := Option.bind_eq_some_iff.1 h
    obtain ⟨⟨more, _⟩, hmore, hpair⟩ := Option.map_eq_some_iff.1 h
    cases hpair
    exact Spans.cons rfl (Spans.cons rfl (ih hmore))
  | case5 => cases h
  | case6 c cs hquote _ _ hplain ih =>
    obtain ⟨⟨more, _⟩, hmore, hpair⟩ := Option.map_eq_some_iff.1 h
    cases hpair
    simp only [Bool.or_eq_true, decide_eq_true_eq, not_or] at hplain
    exact Spans.cons (next_inString hquote hplain.1) (ih hmore)

theorem spans_readString {text : Option String} (h : readString cs = some (text, rest)) :
    Spans (inString level) cs rest (outside level) := by
  unfold readString at h
  obtain ⟨⟨codes, _⟩, hcodes, hpair⟩ := Option.map_eq_some_iff.1 h
  cases hpair
  exact spans_readCodes hcodes

theorem Spans.skip (h : Spans (outside level) (skipSpace cs) rest stop) :
    Spans (outside level) cs rest stop :=
  (spans_skipSpace cs).trans h

theorem Spans.behind_skip (h : Spans start cs rest (outside level))
    (htail : Spans (outside level) (skipSpace rest) tail stop) : Spans start cs tail stop :=
  h.trans htail.skip

/-- Values close what they open; items and members close the bracket before them, too. -/
structure Closes (fuel : Nat) : Prop where
  value : ∀ {depth level : Nat} {cs rest : List Char} {value : Json},
    readValue fuel depth cs = some (value, rest) → Spans (outside level) cs rest (outside level)
  items : ∀ {depth level : Nat} {cs rest : List Char} {items : List Json},
    readItems fuel depth cs = some (items, rest) → Spans (outside (level + 1)) cs rest (outside level)
  members : ∀ {depth level : Nat} {cs rest : List Char} {members : List (Option String × Json)},
    readMembers fuel depth cs = some (members, rest) →
      Spans (outside (level + 1)) cs rest (outside level)

theorem Closes.readValue {fuel depth : Nat} {value : Json} (hcloses : Closes fuel)
    (h : readValue (fuel + 1) depth cs = some (value, rest)) :
    Spans (outside level) cs rest (outside level) := by
  rw [Json.readValue] at h
  apply Spans.skip
  split at h
  case h_1 heq =>
    cases h
    rw [heq]
    exact spans_plain "null".toList rfl
  case h_2 heq =>
    cases h
    rw [heq]
    exact spans_plain "true".toList rfl
  case h_3 heq =>
    cases h
    rw [heq]
    exact spans_plain "false".toList rfl
  case h_4 heq =>
    obtain ⟨⟨text, _⟩, htext, hpair⟩ := Option.map_eq_some_iff.1 h
    cases hpair
    rw [heq]
    exact .cons rfl (spans_readString htext)
  case h_5 heq =>
    rw [heq]
    refine .cons rfl (Spans.skip ?_)
    split at h
    · rename_i hclose
      cases h
      rw [hclose]
      exact .cons rfl (Spans.refl _ _)
    · obtain ⟨⟨items, _⟩, hitems, hpair⟩ := Option.map_eq_some_iff.1 h
      cases hpair
      exact hcloses.items hitems
  case h_6 heq =>
    rw [heq]
    refine .cons rfl (Spans.skip ?_)
    split at h
    · rename_i hclose
      cases h
      rw [hclose]
      exact .cons rfl (Spans.refl _ _)
    · obtain ⟨⟨entries, _⟩, hentries, hpair⟩ := Option.map_eq_some_iff.1 h
      cases hpair
      exact hcloses.members hentries
  case h_7 => exact spans_readNumber? h

theorem Closes.readItems {fuel depth : Nat} {items : List Json} (hcloses : Closes fuel)
    (h : readItems (fuel + 1) depth cs = some (items, rest)) :
    Spans (outside (level + 1)) cs rest (outside level) := by
  rw [Json.readItems] at h
  obtain ⟨⟨item, behind⟩, hitem, h⟩ := Option.bind_eq_some_iff.1 h
  refine (hcloses.value hitem).behind_skip ?_
  dsimp only at h
  split at h
  · rename_i hclose
    cases h
    rw [hclose]
    exact .cons rfl (Spans.refl _ _)
  · rename_i hcomma
    obtain ⟨⟨others, _⟩, hothers, hpair⟩ := Option.bind_eq_some_iff.1 h
    cases hpair
    rw [hcomma]
    exact .cons rfl (hcloses.items hothers)
  · cases h

theorem Closes.readMembers {fuel depth : Nat} {members : List (Option String × Json)}
    (hcloses : Closes fuel) (h : readMembers (fuel + 1) depth cs = some (members, rest)) :
    Spans (outside (level + 1)) cs rest (outside level) := by
  rw [Json.readMembers] at h
  apply Spans.skip
  split at h
  · rename_i hquote
    obtain ⟨⟨name, behindName⟩, hname, h⟩ := Option.bind_eq_some_iff.1 h
    rw [hquote]
    refine .cons rfl ((spans_readString hname).behind_skip ?_)
    dsimp only at h
    split at h
    · rename_i hcolon
      obtain ⟨⟨value, behind⟩, hvalue, h⟩ := Option.bind_eq_some_iff.1 h
      rw [hcolon]
      refine .cons rfl ((hcloses.value hvalue).behind_skip ?_)
      dsimp only at h
      split at h
      · rename_i hclose
        cases h
        rw [hclose]
        exact .cons rfl (Spans.refl _ _)
      · rename_i hcomma
        obtain ⟨⟨others, _⟩, hothers, hpair⟩ := Option.bind_eq_some_iff.1 h
        cases hpair
        rw [hcomma]
        exact .cons rfl (hcloses.members hothers)
      · cases h
    · cases h
  · cases h

theorem closes (fuel : Nat) : Closes fuel := by
  induction fuel with
  | zero =>
    refine ⟨?_, ?_, ?_⟩
    · intro depth level cs rest value h
      rw [Json.readValue] at h
      cases h
    · intro depth level cs rest items h
      rw [Json.readItems] at h
      cases h
    · intro depth level cs rest members h
      rw [Json.readMembers] at h
      cases h
  | succ fuel ih => exact ⟨ih.readValue, ih.readItems, ih.readMembers⟩

/-- A text that reads closes all that it opens. -/
theorem trail_of_read? {text : String} {value : Json} (h : read? text = some value) :
    Trail 0 (outside 0) text.toList (outside 0) := by
  unfold read? at h
  dsimp only at h
  split at h
  · rename_i rest hvalue
    split at h
    · rename_i hend
      rw [List.isEmpty_iff] at hend
      obtain ⟨used, hused, htrail⟩ := ((closes _).value hvalue).trans (spans_skipSpace rest)
      rw [hend, List.append_nil] at hused
      rwa [hused]
    · cases h
  · cases h

end

/-! ### Writing -/

section

variable {bound level : Nat} {cs : List Char}

/-- What is written between brackets of a level opens and closes brackets inside of it only. -/
def Inside (cs : List Char) : Prop :=
  ∀ level, Trail level (outside level) cs (outside level)

theorem inside_nil : Inside [] := fun level => .nil level.le_refl

theorem inside_plain (h : ∀ c ∈ cs, isPlain c = true) : Inside cs :=
  fun level => trail_plain level.le_refl h

theorem inside_word (h : cs.all isPlain = true) : Inside cs :=
  inside_plain (List.all_eq_true.1 h)

theorem Inside.append {more : List Char} (h : Inside cs) (hmore : Inside more) :
    Inside (cs ++ more) :=
  fun level => (h level).append (hmore level)

theorem Inside.cons {c : Char} (hc : isPlain c = true) (h : Inside cs) : Inside (c :: cs) := by
  have hfirst : Inside [c] := inside_plain (by simpa using hc)
  exact hfirst.append h

theorem Inside.wrap {opening closing : Char}
    (hopening : ∀ level, (outside level).next opening = outside (level + 1))
    (hclosing : ∀ level, (outside (level + 1)).next closing = outside level) (h : Inside cs) :
    Inside (opening :: (cs ++ [closing])) := by
  intro level
  have hclose := Trail.step level.le_succ (hclosing level) (.nil level.le_refl)
  exact .step level.le_refl (hopening level) (((h (level + 1)).mono level.le_succ).append hclose)

theorem trail_escape (c : Char) :
    Trail level (inString level) (escape c) (inString level) := by
  have hpair (d : Char) : Trail level (inString level) ['\\', d] (inString level) :=
    .cons level.le_refl (.cons level.le_refl (.nil level.le_refl))
  unfold escape
  iterate 7
    split
    · exact hpair _
  split
  · rename_i hcontrol
    have hdigit (n : Nat) (h : n < 16) : (inString level).next (hexDigit n) = inString level :=
      next_of_hexValue? (hexValue?_hexDigit n h)
    have hdigits : Trail level (inString level)
        [hexDigit (c.toNat / 16), hexDigit (c.toNat % 16)] (inString level) :=
      .step level.le_refl (hdigit _ (by omega))
        (.step level.le_refl (hdigit _ (by omega)) (.nil level.le_refl))
    exact (hpair 'u').append (.cons level.le_refl (.cons level.le_refl hdigits))
  · rename_i hquote hbackslash _ _ _ _ _ _
    exact .step level.le_refl (next_inString hquote hbackslash) (.nil level.le_refl)

theorem inside_renderString (s : String) : Inside (renderString s) := by
  intro level
  have hbody : ∀ cs : List Char,
      Trail level (inString level) (cs.flatMap escape) (inString level) := by
    intro cs
    induction cs with
    | nil => exact .nil level.le_refl
    | cons c cs ih => exact (trail_escape c).append ih
  exact .cons level.le_refl ((hbody s.toList).append (.cons level.le_refl (.nil level.le_refl)))

theorem inside_toDigits (n : Nat) : Inside (Nat.toDigits 10 n) :=
  inside_plain fun _ hc => isPlain_of_avoids avoids_isDigit (Decimal.isDigit_toDigits hc)

theorem inside_int (n : Int) : Inside (toString n).toList := by
  cases n with
  | ofNat n =>
    rw [Int.ofNat_eq_natCast, toList_toString_natCast]
    exact inside_toDigits n
  | negSucc n =>
    rw [toList_toString_negSucc]
    exact .cons rfl (inside_toDigits (n + 1))

theorem inside_text {first second : String} (hfirst : Inside first.toList)
    (hsecond : Inside second.toList) : Inside (first ++ second).toList := by
  rw [String.toList_append]
  exact hfirst.append hsecond

theorem inside_zeros (n : Int) : Inside (Decimal.zeros n).toList := by
  unfold Decimal.zeros
  rw [String.toList_ofList]
  refine inside_plain fun c hc => ?_
  rw [List.eq_of_mem_replicate hc]
  rfl

theorem inside_decimal {layout : Decimal.Layout} (hlayout : Inside layout.integral.toList)
    (d : Decimal) : Inside (Decimal.write layout d).toList := by
  have hdigits {cs : List Char} (hcs : ∀ c ∈ cs, c ∈ Nat.toDigits 10 d.coefficient) :
      Inside (String.ofList cs).toList := by
    rw [String.toList_ofList]
    exact inside_plain fun c hc =>
      isPlain_of_avoids avoids_isDigit (Decimal.isDigit_toDigits (hcs c hc))
  unfold Decimal.write
  dsimp only
  split
  · split
    · exact inside_text (inside_text (hdigits fun _ => id) (inside_zeros _)) hlayout
    · split
      · exact inside_text (inside_text (hdigits fun _ => List.mem_of_mem_take) (inside_word rfl))
          (hdigits fun _ => List.mem_of_mem_drop)
      · exact inside_text (inside_text (inside_word rfl) (inside_zeros _)) (hdigits fun _ => id)
  · have hexponent (n : Nat) : Inside (toString n).toList := inside_int n
    refine inside_text (inside_text (inside_text (inside_text
      (hdigits fun _ => List.mem_of_mem_take) ?_) (inside_word rfl)) ?_) (hexponent _)
    · split
      · exact inside_word rfl
      · exact inside_text (inside_word rfl) (hdigits fun _ => List.mem_of_mem_drop)
    · split <;> exact inside_word rfl

theorem inside_float (x : Float) : Inside (renderFloat x) := by
  unfold renderFloat
  split
  · have hsign : Inside (if Decimal.isNegative x then "-" else "").toList := by
      split <;> exact inside_word rfl
    unfold Decimal.writeFloat
    dsimp only
    split
    · exact inside_word rfl
    · split
      · exact inside_text hsign (inside_word rfl)
      · exact inside_text hsign (inside_decimal (inside_word rfl) _)
  · exact inside_word rfl

end

section

variable (spacing : Spacing)

theorem inside_gap (level : Nat) : Inside (spacing.gap level) :=
  inside_plain fun c hc => isPlain_of_avoids avoids_isSpace (spacing.isSpace_gap level c hc)

mutual

theorem inside_write (level : Nat) : ∀ value, Inside (write spacing level value)
  | null | bool true | bool false => by
    simp only [write]
    exact inside_word rfl
  | int n => by
    simp only [write, render]
    exact inside_int n
  | float x => by
    simp only [write, render]
    exact inside_float x
  | str s => by
    simp only [write, render]
    exact inside_renderString s
  | arr [] => by
    simp only [write]
    exact Inside.wrap (fun _ => rfl) (fun _ => rfl) inside_nil
  | arr (item :: rest) => by
    obtain ⟨inner, hinner, hinside⟩ := inside_writeItems level rest
    rw [write, hinner, ← List.append_assoc, ← List.append_assoc]
    exact Inside.wrap (fun _ => rfl) (fun _ => rfl)
      (((inside_gap spacing _).append (inside_write _ item)).append hinside)
  | obj members => by
    obtain ⟨inner, hinner, hinside⟩ := exists_inside_obj level members
    rw [hinner]
    exact hinside.wrap (fun _ => rfl) fun _ => rfl

theorem exists_inside_obj (level : Nat) : ∀ members, ∃ inner,
    write spacing level (.obj members) = '\x7b' :: (inner ++ ['\x7d']) ∧ Inside inner
  | [] => ⟨[], by simp only [write, List.nil_append], inside_nil⟩
  | member :: rest => by
    obtain ⟨inner, hinner, hinside⟩ := inside_writeMembers level rest
    refine ⟨spacing.gap (level + 1) ++ (writeMember spacing (level + 1) member ++ inner), ?_, ?_⟩
    · rw [write, hinner]
      simp
    · exact (inside_gap spacing _).append ((inside_writeMember _ member).append hinside)

theorem inside_writeItems (level : Nat) : ∀ items, ∃ inner,
    writeItems spacing level items = inner ++ [']'] ∧ Inside inner
  | [] => ⟨_, rfl, inside_gap spacing level⟩
  | item :: rest => by
    obtain ⟨inner, hinner, hinside⟩ := inside_writeItems level rest
    refine ⟨',' :: (spacing.gap (level + 1) ++ (write spacing (level + 1) item ++ inner)), ?_, ?_⟩
    · rw [writeItems, hinner]
      simp
    · exact .cons rfl ((inside_gap spacing _).append ((inside_write _ item).append hinside))

theorem inside_writeMember (level : Nat) : ∀ member, Inside (writeMember spacing level member)
  | (name, value) => by
    rw [writeMember]
    have hblanks : Inside spacing.behindColon := inside_plain fun c hc =>
      isPlain_of_avoids avoids_isSpace (spacing.isSpace_behindColon c hc)
    exact (inside_renderString name).append (.cons rfl (hblanks.append (inside_write level value)))

theorem inside_writeMembers (level : Nat) : ∀ members, ∃ inner,
    writeMembers spacing level members = inner ++ ['\x7d'] ∧ Inside inner
  | [] => ⟨_, rfl, inside_gap spacing level⟩
  | member :: rest => by
    obtain ⟨inner, hinner, hinside⟩ := inside_writeMembers level rest
    refine ⟨',' :: (spacing.gap (level + 1) ++ (writeMember spacing (level + 1) member ++ inner)),
      ?_, ?_⟩
    · rw [writeMembers, hinner]
      simp
    · exact .cons rfl ((inside_gap spacing _).append
        ((inside_writeMember _ member).append hinside))

end

end

/-! ### What is left of a text -/

theorem read?_empty : read? "" = none := by
  have hnone : readValue 2 maxDepth [] = none := by
    rw [Json.readValue]
    rfl
  unfold read?
  rw [String.toList_empty]
  dsimp only [List.length_nil]
  rw [hnone]

/-- The text of an object that was cut off does not read, wherever it was cut off. -/
theorem read?_of_cut {members : List (String × Json)} {left : String}
    (hleft : left.toList <+: (obj members).pretty.toList) (hpart : left ≠ (obj members).pretty) :
    read? left = none := by
  obtain ⟨inner, hwritten, hinside⟩ := exists_inside_obj .lines 0 members
  have htext : (obj members).pretty.toList = '\x7b' :: (inner ++ ['\x7d']) := by
    unfold pretty
    rw [String.toList_ofList, ← write_lines, hwritten]
  cases hread : read? left with
  | none => rfl
  | some value =>
    exfalso
    have htrail := trail_of_read? hread
    cases hcs : left.toList with
    | nil =>
      rw [String.toList_eq_nil_iff] at hcs
      rw [hcs, read?_empty] at hread
      cases hread
    | cons c cs =>
      rw [hcs, htext, List.cons_prefix_cons, List.prefix_concat_iff] at hleft
      rw [hcs] at htrail
      obtain ⟨rfl, hwhole | ⟨rest, rfl⟩⟩ := hleft
      · apply hpart
        rw [← String.toList_inj, hcs, htext, hwhole]
      -- Behind the first bracket there is always one open, and a text that reads leaves none.
      · obtain ⟨spot, hspot, hlevel⟩ := (hinside 1).of_append
        cases htrail with
        | cons _ hrest =>
          cases hspot.unique hrest
          exact absurd hlevel (by decide)

end Dialogue.Json
