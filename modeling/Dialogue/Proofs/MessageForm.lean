import Dialogue.Interpreter
import Dialogue.Proofs.Digits
import Dialogue.Proofs.UnsignedFloats
import Mathlib.Data.List.TakeWhile

/-!
The form of a message that names its intent, and what is understood of a text by its form. Two
kinds of messages are understood otherwise: a payload with a line feed makes the message free text,
and a name of blanks is trimmed to the empty name.
-/
namespace Dialogue.Interpreter

def InBraces (cs : List Char) : Prop :=
  ∃ inner, cs = '\x7b' :: (inner ++ ['\x7d'])

namespace Written

def tail (parts : Written) : List Char :=
  (parts.confidence.map ('@' :: ·)).getD [] ++ parts.payload.getD []

def text (parts : Written) : List Char :=
  '/' :: (parts.name ++ parts.tail)

/-- The parts are of the kinds that they have to be of. The name may still be blank or empty. -/
structure WellFormed (parts : Written) : Prop where
  name : '\x7b' ∉ parts.name ∧ '@' ∉ parts.name
  confidence : ∀ cs ∈ parts.confidence, cs ≠ [] ∧ ∀ c ∈ cs, Decimal.isDigit c = true ∨ c = '.'
  payload : ∀ cs ∈ parts.payload, InBraces cs

def IsBlank (parts : Written) : Prop :=
  ∀ c ∈ parts.name, Text.isBlank c = true

def OneLine (parts : Written) : Prop :=
  ∀ cs ∈ parts.payload, '\n' ∉ cs

end Written

/-! ### The parts of a text -/

section

variable {cs name : List Char} {parts : Written}

theorem forall_isNameChar_iff : (∀ c ∈ name, isNameChar c = true) ↔ '\x7b' ∉ name ∧ '@' ∉ name := by
  simp only [isNameChar, Bool.and_eq_true, bne_iff_ne]
  constructor
  · intro h
    exact ⟨fun hmem => (h _ hmem).1 rfl, fun hmem => (h _ hmem).2 rfl⟩
  · rintro ⟨hbrace, hat⟩ c hc
    exact ⟨fun heq => hbrace (heq ▸ hc), fun heq => hat (heq ▸ hc)⟩

theorem isNumberChar_iff {c : Char} :
    isNumberChar c = true ↔ Decimal.isDigit c = true ∨ c = '.' := by
  simp [isNumberChar]

theorem inBraces_iff : InBraces cs ↔
    cs.head? = some '\x7b' ∧ cs.getLast? = some '\x7d' ∧ 2 ≤ cs.length := by
  constructor
  · rintro ⟨inner, rfl⟩
    refine ⟨rfl, ?_, by simp⟩
    rw [← List.cons_append, List.getLast?_concat]
  · rintro ⟨hhead, hlast, hlength⟩
    obtain ⟨rest, rfl⟩ := List.head?_eq_some_iff.1 hhead
    have hrest : rest ≠ [] := by
      rintro rfl
      simp at hlength
    rw [List.getLast?_cons_of_ne_nil hrest] at hlast
    obtain ⟨inner, rfl⟩ := List.getLast?_eq_some_iff.1 hlast
    exact ⟨inner, rfl⟩

theorem readPayload?_eq_some_iff {payload : Option (List Char)} :
    readPayload? cs = some payload ↔
      cs = payload.getD [] ∧ ∀ written ∈ payload, InBraces written ∧ '\n' ∉ written := by
  cases cs with
  | nil =>
    cases payload with
    | none => simp [readPayload?]
    | some written =>
      refine iff_of_false (by simp [readPayload?]) ?_
      rintro ⟨hnil, hwritten⟩
      obtain ⟨inner, hinner⟩ := (hwritten written rfl).1
      rw [hinner] at hnil
      cases hnil
  | cons c cs =>
    have hread : readPayload? (c :: cs) = some payload ↔
        (InBraces (c :: cs) ∧ '\n' ∉ c :: cs) ∧ some (c :: cs) = payload := by
      simp only [readPayload?, inBraces_iff, Option.ite_none_right_eq_some, Option.some.injEq,
        Bool.and_eq_true, beq_iff_eq, decide_eq_true_eq, Bool.not_eq_true', List.contains_eq_mem,
        decide_eq_false_iff_not, and_assoc]
    rw [hread]
    constructor
    · rintro ⟨hwritten, rfl⟩
      exact ⟨rfl, fun written hmem => Option.mem_some.1 hmem ▸ hwritten⟩
    · rintro ⟨hcs, hwritten⟩
      cases payload with
      | none => cases hcs
      | some written =>
        obtain rfl : c :: cs = written := hcs
        exact ⟨hwritten _ rfl, rfl⟩

theorem ends_payload {kind : Char → Bool} (hkind : kind '\x7b' = false)
    (h : ∀ written ∈ parts.payload, InBraces written) : Ends kind (parts.payload.getD []) := by
  cases hpayload : parts.payload with
  | none => exact ends_nil kind
  | some written =>
    obtain ⟨inner, rfl⟩ := h written hpayload
    exact ends_cons hkind _

theorem Written.WellFormed.ends_tail (h : parts.WellFormed) : Ends isNameChar parts.tail := by
  unfold Written.tail
  cases hconfidence : parts.confidence with
  | none => exact ends_payload (by decide) h.payload
  | some number => exact ends_cons (by decide) _

theorem Written.WellFormed.isNameChar (h : parts.WellFormed) :
    ∀ c ∈ parts.name, isNameChar c = true :=
  forall_isNameChar_iff.2 h.name

theorem readTail?_at_eq_some_iff (hname : '\x7b' ∉ name ∧ '@' ∉ name) :
    readTail? name ('@' :: cs) = some parts ↔
      parts.name = name ∧ '@' :: cs = parts.tail ∧ parts.WellFormed ∧ parts.OneLine := by
  simp only [readTail?, Option.ite_none_left_eq_some, Option.map_eq_some_iff,
    readPayload?_eq_some_iff]
  constructor
  · rintro ⟨hnumber, payload, ⟨hcs, hpayload⟩, rfl⟩
    refine ⟨rfl, ?_, ⟨hname, ?_, fun cs hmem => (hpayload cs hmem).1⟩,
      fun cs hmem => (hpayload cs hmem).2⟩
    · show '@' :: cs = '@' :: (_ ++ payload.getD [])
      rw [← hcs, List.takeWhile_append_dropWhile]
    · rintro number ⟨⟩
      exact ⟨by simpa using hnumber, fun c hc => isNumberChar_iff.1 (List.mem_takeWhile_imp hc)⟩
  · rintro ⟨rfl, hcs, hformed, hline⟩
    obtain ⟨name, confidence, payload⟩ := parts
    have hat : Ends (· == '@') (payload.getD []) := ends_payload rfl hformed.payload
    cases confidence with
    | none =>
      -- without a number the text would begin with the payload
      exact absurd (hat '@' (congrArg List.head? hcs).symm) (by decide)
    | some number =>
      obtain rfl : cs = number ++ payload.getD [] := (List.cons.inj hcs).2
      obtain ⟨hne, hdigits⟩ := hformed.confidence number rfl
      have hends : Ends isNumberChar (payload.getD []) :=
        ends_payload (by decide) hformed.payload
      have hrun : ∀ c ∈ number, isNumberChar c = true :=
        fun c hc => isNumberChar_iff.2 (hdigits c hc)
      rw [takeWhile_run hrun hends, dropWhile_run hrun hends]
      exact ⟨by simpa using hne, payload, ⟨rfl, fun cs hmem => ⟨hformed.payload cs hmem,
        hline cs hmem⟩⟩, rfl⟩

theorem readTail?_eq_some_iff (hname : '\x7b' ∉ name ∧ '@' ∉ name) :
    readTail? name cs = some parts ↔
      parts.name = name ∧ cs = parts.tail ∧ parts.WellFormed ∧ parts.OneLine := by
  unfold readTail?
  split
  · exact readTail?_at_eq_some_iff hname
  · rename_i hrest
    simp only [Option.map_eq_some_iff, readPayload?_eq_some_iff]
    constructor
    · rintro ⟨payload, ⟨hcs, hpayload⟩, rfl⟩
      exact ⟨rfl, hcs, ⟨hname, nofun, fun cs hmem => (hpayload cs hmem).1⟩,
        fun cs hmem => (hpayload cs hmem).2⟩
    · rintro ⟨rfl, hcs, hformed, hline⟩
      obtain ⟨name, confidence, payload⟩ := parts
      cases confidence with
      | none =>
        exact ⟨payload, ⟨hcs, fun cs hmem => ⟨hformed.payload cs hmem, hline cs hmem⟩⟩, rfl⟩
      | some number => exact absurd hcs (hrest (number ++ payload.getD []))

theorem readWritten?_eq_some_iff : readWritten? cs = some parts ↔
    cs = parts.text ∧ parts.WellFormed ∧ parts.OneLine ∧ parts.name ≠ [] := by
  unfold readWritten?
  split
  · rename_i rest
    have hname := forall_isNameChar_iff.1 fun c (hc : c ∈ rest.takeWhile isNameChar) =>
      List.mem_takeWhile_imp hc
    simp only [Option.ite_none_left_eq_some, readTail?_eq_some_iff hname, List.isEmpty_iff]
    constructor
    · rintro ⟨hne, hparts, hdrop, hformed, hline⟩
      refine ⟨?_, hformed, hline, hparts ▸ hne⟩
      rw [Written.text, ← hdrop, hparts, List.takeWhile_append_dropWhile]
    · rintro ⟨hcs, hformed, hline, hne⟩
      obtain rfl : rest = parts.name ++ parts.tail := (List.cons.inj hcs).2
      rw [takeWhile_run hformed.isNameChar hformed.ends_tail,
        dropWhile_run hformed.isNameChar hformed.ends_tail]
      exact ⟨hne, rfl, rfl, hformed, hline⟩
  · rename_i hcs
    exact iff_of_false nofun fun h => hcs _ h.1

theorem getD_nil_inj {first second : Option (List Char)} (hfirst : [] ∉ first)
    (hsecond : [] ∉ second) (h : first.getD [] = second.getD []) : first = second := by
  cases first with
  | none =>
    cases second with
    | none => rfl
    | some cs => exact absurd (congrArg some h.symm) hsecond
  | some cs =>
    cases second with
    | none => exact absurd (congrArg some h) hfirst
    | some cs' => exact congrArg some h

namespace Written

theorem WellFormed.mem_number (h : parts.WellFormed) :
    ∀ c ∈ (parts.confidence.map ('@' :: ·)).getD [], (c == '@' || isNumberChar c) = true := by
  intro c hc
  cases hconfidence : parts.confidence with
  | none =>
    rw [hconfidence] at hc
    cases hc
  | some number =>
    rw [hconfidence] at hc
    rcases List.mem_cons.1 hc with rfl | hc
    · rfl
    · rw [isNumberChar_iff.2 ((h.confidence number hconfidence).2 c hc), Bool.or_true]

theorem WellFormed.text_inj {other : Written} (h : parts.WellFormed) (h' : other.WellFormed)
    (heq : parts.text = other.text) : parts = other := by
  obtain ⟨hname, htail⟩ := run_append_inj h.isNameChar h'.isNameChar h.ends_tail h'.ends_tail
    (List.cons.inj heq).2
  obtain ⟨hnumber, hpayload⟩ := run_append_inj h.mem_number h'.mem_number
    (ends_payload (by decide) h.payload) (ends_payload (by decide) h'.payload) htail
  have hconfidence : parts.confidence = other.confidence :=
    Option.map_injective (fun _ _ h => (List.cons.inj h).2)
      (getD_nil_inj (by simp) (by simp) hnumber)
  have hne {parts : Written} (h : parts.WellFormed) : [] ∉ parts.payload := by
    intro hnil
    obtain ⟨inner, hinner⟩ := h.payload [] hnil
    cases hinner
  have hpayload := getD_nil_inj (hne h) (hne h') hpayload
  cases parts
  cases other
  obtain rfl := hname
  obtain rfl := hconfidence
  obtain rfl := hpayload
  rfl

end Written

end

/-! ### What is understood -/

/-- The confidence that is written: a number moved to the nearer end of the range from 0 to 1, or 1
where no number is written. -/
inductive Weighs : Option (List Char) → Float → Prop
  | absent : Weighs none 1.0
  | unreadable (number : List Char) : Decimal.readFloat? number = none → Weighs (some number) 1.0
  | read (number : List Char) (x : Float) : Decimal.readFloat? number = some x →
      Weighs (some number) (clamp x)

structure Names (parts : Written) (parse : Parse) (confidence : Float) : Prop where
  weighs : Weighs parts.confidence confidence
  unit : 0.0 ≤ confidence ∧ confidence ≤ 1.0
  intent : parse.intent = some ⟨String.ofList (Text.trimChars parts.name), confidence⟩
  ranking : parse.ranking = [⟨String.ofList (Text.trimChars parts.name), confidence⟩]

structure IsForm (text : String) (parts : Written) : Prop where
  text_eq : Text.trimChars text.toList = parts.text
  wellFormed : parts.WellFormed

/-- What is to be understood of a text, by its form. -/
structure Understands (text : String) (parse : Parse) : Prop where
  text_eq : parse.text = text
  intent : parse.intent ≠ none ↔ ∃ parts, IsForm text parts ∧ ¬ parts.IsBlank
  names : ∀ parts, IsForm text parts → ¬ parts.IsBlank →
    (∃ confidence, Names parts parse confidence) ∧ Text.trimChars parts.name ≠ []
  nothing : parse.intent = none → parse.entities = [] ∧ parse.ranking = []

/-- The message is of the form, but its payload has a line feed. -/
def Broken (text : String) : Prop :=
  ∃ parts, IsForm text parts ∧ ¬ parts.IsBlank ∧ ¬ parts.OneLine

/-- The message has blanks for a name, and nothing else is wrong with it. -/
def Nameless (text : String) : Prop :=
  ∃ parts, IsForm text parts ∧ parts.name ≠ [] ∧ parts.IsBlank ∧ parts.OneLine

section

variable {text : String} {parts : Written}

theorem clamp_eq_min {x : Float} (h : 0.0 ≤ x) : clamp x = min x 1.0 := by
  have hnumber := (FloatOrder.isNaN_of_le h).2
  have hzero : (0.0 : Float).isNaN = false := by decide +kernel
  have hone : (1.0 : Float).isNaN = false := by decide +kernel
  rw [clamp, if_neg ((FloatOrder.not_lt hnumber hzero).2 h)]
  show _ = if x ≤ 1.0 then x else 1.0
  by_cases hle : x ≤ 1.0
  · rw [if_pos hle, if_neg ((FloatOrder.not_lt hone hnumber).2 hle)]
  · rw [if_neg hle, if_pos ((FloatOrder.not_le hnumber hone).1 hle)]

theorem clamp_unit {x : Float} (h : 0.0 ≤ x) : 0.0 ≤ clamp x ∧ clamp x ≤ 1.0 := by
  rw [clamp_eq_min h]
  show 0.0 ≤ (if x ≤ 1.0 then x else 1.0) ∧ (if x ≤ 1.0 then x else 1.0) ≤ 1.0
  split
  · rename_i hle
    exact ⟨h, hle⟩
  · decide +kernel

theorem weighs_confidenceOf (number : Option (List Char)) :
    Weighs number (confidenceOf number) := by
  cases number with
  | none => exact .absent
  | some number =>
    rw [confidenceOf, Option.bind_some]
    cases hread : Decimal.readFloat? number with
    | none => exact .unreadable number hread
    | some x => exact .read number x hread

theorem Written.WellFormed.confidence_unit (h : parts.WellFormed) :
    0.0 ≤ confidenceOf parts.confidence ∧ confidenceOf parts.confidence ≤ 1.0 := by
  have hone : (0.0 : Float) ≤ 1.0 ∧ (1.0 : Float) ≤ 1.0 := by decide +kernel
  cases hnumber : parts.confidence with
  | none => exact hone
  | some number =>
    rw [confidenceOf, Option.bind_some]
    cases hread : Decimal.readFloat? number with
    | none => exact hone
    | some x =>
      exact clamp_unit (Decimal.nonneg_of_readFloat? (h.confidence number hnumber).2 hread)

theorem parseMessage_isForm (h : IsForm text parts) (hline : parts.OneLine)
    (hname : parts.name ≠ []) : (parseMessage text).text = text ∧
      Names parts (parseMessage text) (confidenceOf parts.confidence) := by
  have hread : readWritten? (Text.trimChars text.toList) = some parts :=
    readWritten?_eq_some_iff.2 ⟨h.text_eq, h.wellFormed, hline, hname⟩
  rw [parseMessage, hread]
  exact ⟨rfl, weighs_confidenceOf _, h.wellFormed.confidence_unit, rfl, rfl⟩

theorem parseMessage_not_isForm
    (h : ¬ ∃ parts, IsForm text parts ∧ parts.OneLine ∧ parts.name ≠ []) :
    parseMessage text = .ofText text := by
  rw [parseMessage]
  cases hread : readWritten? (Text.trimChars text.toList) with
  | none => rfl
  | some parts =>
    obtain ⟨htext, hformed, hline, hname⟩ := readWritten?_eq_some_iff.1 hread
    exact absurd ⟨parts, ⟨htext, hformed⟩, hline, hname⟩ h

theorem IsForm.unique {other : Written} (h : IsForm text parts) (h' : IsForm text other) :
    parts = other :=
  h.wellFormed.text_inj h'.wellFormed (h.text_eq.symm.trans h'.text_eq)

theorem parseMessage_broken (h : Broken text) : parseMessage text = .ofText text := by
  obtain ⟨parts, hform, -, hbroken⟩ := h
  refine parseMessage_not_isForm ?_
  rintro ⟨other, hother, hline, -⟩
  exact hbroken (hform.unique hother ▸ hline)

theorem not_understands_broken (h : Broken text) : ¬ Understands text (parseMessage text) := by
  intro hunderstands
  have hintent : (parseMessage text).intent = none := by rw [parseMessage_broken h]; rfl
  obtain ⟨parts, hform, hblank, -⟩ := h
  exact hunderstands.intent.2 ⟨parts, hform, hblank⟩ hintent

theorem parseMessage_nameless (h : Nameless text) :
    ∃ confidence, (parseMessage text).intent = some ⟨"", confidence⟩ := by
  obtain ⟨parts, hform, hname, hblank, hline⟩ := h
  have hintent := (parseMessage_isForm hform hline hname).2.intent
  rw [(Text.trimChars_eq_nil_iff _).2 hblank] at hintent
  exact ⟨_, hintent⟩

theorem not_understands_nameless (h : Nameless text) : ¬ Understands text (parseMessage text) := by
  intro hunderstands
  obtain ⟨confidence, hintent⟩ := parseMessage_nameless h
  obtain ⟨parts, hform, -, hblank, -⟩ := h
  obtain ⟨other, hother, hnot⟩ := hunderstands.intent.1 (by simp [hintent])
  exact hnot (hform.unique hother ▸ hblank)

theorem understands_parseMessage (hbroken : ¬ Broken text) (hnameless : ¬ Nameless text) :
    Understands text (parseMessage text) := by
  have hname {parts : Written} (hblank : ¬ parts.IsBlank) : parts.name ≠ [] := by
    intro hnil
    exact hblank fun c hc => absurd (hnil ▸ hc) List.not_mem_nil
  by_cases h : ∃ parts, IsForm text parts ∧ parts.OneLine ∧ parts.name ≠ []
  · obtain ⟨parts, hform, hline, hne⟩ := h
    have hblank : ¬ parts.IsBlank := fun hblank => hnameless ⟨parts, hform, hne, hblank, hline⟩
    obtain ⟨htext, hnames⟩ := parseMessage_isForm hform hline hne
    have hintent : (parseMessage text).intent ≠ none := by simp [hnames.intent]
    refine ⟨htext, iff_of_true hintent ⟨parts, hform, hblank⟩, ?_, fun h => absurd h hintent⟩
    intro other hother hnot
    obtain rfl := hform.unique hother
    exact ⟨⟨_, hnames⟩, fun hnil => hnot ((Text.trimChars_eq_nil_iff _).1 hnil)⟩
  · have hnone {parts : Written} (hform : IsForm text parts) : parts.IsBlank := by
      by_contra hblank
      have hline : parts.OneLine := by
        by_contra hline
        exact hbroken ⟨parts, hform, hblank, hline⟩
      exact h ⟨parts, hform, hline, hname hblank⟩
    rw [parseMessage_not_isForm h]
    refine ⟨rfl, iff_of_false (not_not_intro rfl) ?_, ?_, fun _ => ⟨rfl, rfl⟩⟩
    · rintro ⟨parts, hform, hblank⟩
      exact hblank (hnone hform)
    · intro parts hform hblank
      exact absurd (hnone hform) hblank

end

/-- Exactly what the form asks for is understood of a text, unless the payload has a line feed,
which makes the message free text, or the name is blank, which makes it the empty name. -/
theorem understands_iff (text : String) :
    (Understands text (parseMessage text) ↔ ¬ Broken text ∧ ¬ Nameless text) ∧
      (Broken text → parseMessage text = .ofText text) ∧
      (Nameless text → ∃ confidence, (parseMessage text).intent = some ⟨"", confidence⟩) :=
  ⟨⟨fun h => ⟨fun hbroken => not_understands_broken hbroken h,
      fun hnameless => not_understands_nameless hnameless h⟩,
    fun h => understands_parseMessage h.1 h.2⟩, parseMessage_broken, parseMessage_nameless⟩

def inSeveralLines : String :=
  "/inform\x7b\n  \"city\": \"Berlin\"\n\x7d"

theorem broken_inSeveralLines : Broken inSeveralLines := by
  refine ⟨⟨"inform".toList, none, some (inSeveralLines.toList.drop 7)⟩,
    ⟨by decide +kernel, by decide +kernel, nofun, ?_⟩, ?_, ?_⟩
  · rintro cs ⟨⟩
    exact inBraces_iff.2 (by decide +kernel)
  · exact fun hblank => absurd (List.all_eq_true.2 hblank) (by decide +kernel)
  · unfold Written.OneLine
    decide +kernel

/-- The message names an intent and has a payload, and is free text. -/
theorem not_understands_inSeveralLines :
    ¬ Understands inSeveralLines (parseMessage inSeveralLines) :=
  not_understands_broken broken_inSeveralLines

example : Nameless "/ \x7b\x7d" := by
  refine ⟨⟨[' '], none, some ['\x7b', '\x7d']⟩,
    ⟨by decide +kernel, by decide, nofun, ?_⟩, by decide, ?_, ?_⟩
  · rintro cs ⟨⟩
    exact ⟨[], rfl⟩
  · exact List.all_eq_true.1 (by decide)
  · unfold Written.OneLine
    decide

end Dialogue.Interpreter
