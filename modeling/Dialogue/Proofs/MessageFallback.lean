import Dialogue.Proofs.OneHot
import Dialogue.Proofs.ParsedTurns

/-!
Of a message that was understood before only the best intent is left. So two intents that lie too
close together go unnoticed in it.
-/
namespace Dialogue.FallbackPolicy

variable {policy : FallbackPolicy} {config : FallbackConfig} {tracker : Tracker} {domain : Domain}
  {interpreter : Interpreter} {parse message : Parse}

/-! ### Reasons -/

/-- There is no intent, or too little confidence in it. -/
def Doubtful (config : FallbackConfig) (parse : Parse) : Prop :=
  parse.intent = none ∨
    ∃ intent, parse.intent = some intent ∧ intent.confidence < config.nluThreshold

/-- The two best intents lie too close together. -/
def Ambiguous (config : FallbackConfig) (parse : Parse) : Prop :=
  ∃ first second rest, parse.ranking = first :: second :: rest ∧
    first.confidence - second.confidence < config.ambiguityThreshold

theorem not_ambiguous_of_length (h : parse.ranking.length ≤ 1) : ¬ Ambiguous config parse := by
  rintro ⟨first, second, rest, hranking, _⟩
  rw [hranking] at h
  simp at h

theorem isSome_reason?_iff :
    (reason? config parse).isSome = true ↔ Doubtful config parse ∨ Ambiguous config parse := by
  unfold reason? Doubtful Ambiguous
  cases parse.intent with
  | none => simp
  | some intent =>
    by_cases hweak : intent.confidence < config.nluThreshold
    · simp [hweak]
    · rcases parse.ranking with _ | ⟨first, _ | ⟨second, rest⟩⟩
      · simp [hweak]
      · simp [hweak]
      · by_cases hclose : first.confidence - second.confidence < config.ambiguityThreshold
        · simp [hweak, hclose]
        · simp [hweak, hclose]

/-! ### Reactions -/

def FallsBack (policy : FallbackPolicy) (tracker : Tracker) (domain : Domain)
    (interpreter : Interpreter) : Prop :=
  ∃ prediction index, policy.predict tracker domain interpreter = .ok prediction ∧
    domain.index? policy.config.action = some index ∧
    prediction.scores = Prediction.oneHot domain.size index 1.0 ∧
    prediction.priority = policy.priority

def Abstains (policy : FallbackPolicy) (tracker : Tracker) (domain : Domain)
    (interpreter : Interpreter) : Prop :=
  policy.predict tracker domain interpreter = .ok (.abstain policy.priority)

theorem Abstains.not_fallsBack (h : policy.Abstains tracker domain interpreter) :
    ¬ policy.FallsBack tracker domain interpreter :=
  Prediction.not_chooses_abstain h

/-- The policy falls back under a condition, and abstains otherwise. -/
structure Reacts (policy : FallbackPolicy) (tracker : Tracker) (domain : Domain)
    (interpreter : Interpreter) (condition : Prop) : Prop where
  fallsBack_iff : policy.FallsBack tracker domain interpreter ↔ condition
  abstains_iff : policy.Abstains tracker domain interpreter ↔ ¬ condition

theorem Reacts.iff_iff {condition other : Prop}
    (h : policy.Reacts tracker domain interpreter condition) :
    policy.Reacts tracker domain interpreter other ↔ (condition ↔ other) := by
  constructor
  · exact fun hother => h.fallsBack_iff.symm.trans hother.fallsBack_iff
  · intro hiff
    exact ⟨h.fallsBack_iff.trans hiff, h.abstains_iff.trans (not_congr hiff)⟩

theorem reacts_of_latestMessage (hknown : domain.hasAction policy.config.action = true)
    (hlisten : tracker.latestAction = some listenAction)
    (hmessage : tracker.latestMessage = some message) :
    policy.Reacts tracker domain interpreter
      (Doubtful policy.config (understood interpreter message) ∨
        Ambiguous policy.config (understood interpreter message)) := by
  rw [← isSome_reason?_iff]
  have hjudged : (tracker.latestMessage.bind fun m =>
      reason? policy.config (understood interpreter m)) =
        reason? policy.config (understood interpreter message) := by
    rw [hmessage]
    rfl
  cases hreason : reason? policy.config (understood interpreter message) with
  | none =>
    have habstains : policy.Abstains tracker domain interpreter := by
      unfold Abstains predict
      rw [if_pos hlisten, hjudged, hreason]
    exact ⟨iff_of_false habstains.not_fallsBack (by simp), iff_of_true habstains (by simp)⟩
  | some reason =>
    have hfallsBack : policy.FallsBack tracker domain interpreter := by
      obtain ⟨index, hindex⟩ := Domain.hasAction_iff.1 hknown
      unfold FallsBack predict
      rw [if_pos hlisten, hjudged, hreason, Prediction.ofAction_eq_ok_iff.2 ⟨index, hindex, rfl⟩]
      exact ⟨_, index, rfl, hindex, rfl, rfl⟩
    exact ⟨iff_of_true hfallsBack rfl,
      iff_of_false (fun habstains => habstains.not_fallsBack hfallsBack) (by simp)⟩

/-! ### What is left of a message -/

theorem latestAction_record_ofParse (tracker : Tracker) (parse : Parse) :
    (tracker.record (.ofParse parse)).latestAction = tracker.latestAction := by
  unfold Tracker.latestAction
  rw [Tracker.situation_record]
  rfl

/-- Of the ranking the best intent is left, if there is one at all. -/
def kept (parse : Parse) : Parse := { parse with ranking := parse.intent.toList }

theorem latestMessage_record_ofParse (tracker : Tracker) (parse : Parse) :
    (tracker.record (.ofParse parse)).latestMessage = some (kept parse) := by
  unfold Tracker.latestMessage
  rw [Tracker.situation_record]
  rfl

/-- What is left is never ambiguous, and as doubtful as the message was. -/
theorem reasons_kept {text : String} (h : (interpreter.parse text).text = text) :
    Doubtful config (understood interpreter (kept (interpreter.parse text))) ∨
        Ambiguous config (understood interpreter (kept (interpreter.parse text))) ↔
      Doubtful config (interpreter.parse text) := by
  cases hintent : (interpreter.parse text).intent with
  | none =>
    -- Without an intent the message is doubtful, whether it is understood again or not.
    refine iff_of_true (Or.inl (Or.inl ?_)) (Or.inl hintent)
    unfold understood kept
    split
    · rw [h, hintent]
    · exact hintent
  | some intent =>
    have hsame : understood interpreter (kept (interpreter.parse text)) =
        kept (interpreter.parse text) := by
      simp [understood, kept, hintent]
    have hlength : (kept (interpreter.parse text)).ranking.length ≤ 1 := by
      simp [kept, hintent]
    rw [hsame]
    exact or_iff_left (not_ambiguous_of_length hlength)

/-- A message that was understood before makes the policy fall back for want of a confident intent
only. So the whole of what was understood counts unless the intents are ambiguous and there is no
other reason. A message that the policy has to understand itself is judged as a whole. -/
theorem reacts_ofParse_iff (hkeeps : ∀ text, (interpreter.parse text).text = text)
    (hknown : domain.hasAction policy.config.action = true)
    (hlisten : tracker.latestAction = some listenAction) (text : String) :
    policy.Reacts (tracker.record (.ofParse (interpreter.parse text))) domain interpreter
        (Doubtful policy.config (interpreter.parse text)) ∧
      (policy.Reacts (tracker.record (.ofParse (interpreter.parse text))) domain interpreter
          (Doubtful policy.config (interpreter.parse text) ∨
            Ambiguous policy.config (interpreter.parse text)) ↔
        ¬ (Ambiguous policy.config (interpreter.parse text) ∧
          ¬ Doubtful policy.config (interpreter.parse text))) ∧
      (text ≠ "" →
        policy.Reacts (tracker.record (.utteredText text)) domain interpreter
          (Doubtful policy.config (interpreter.parse text) ∨
            Ambiguous policy.config (interpreter.parse text))) := by
  have hbefore : policy.Reacts (tracker.record (.ofParse (interpreter.parse text))) domain
      interpreter (Doubtful policy.config (interpreter.parse text)) := by
    refine (Reacts.iff_iff (reacts_of_latestMessage hknown ?_
      (latestMessage_record_ofParse tracker _))).2 (reasons_kept (hkeeps text))
    rw [latestAction_record_ofParse, hlisten]
  refine ⟨hbefore, ?_, ?_⟩
  · rw [hbefore.iff_iff, iff_self_or, not_and_not_right]
  · intro htext
    have hunderstood : understood interpreter (.ofText text) = interpreter.parse text := by
      simp [understood, Parse.ofText, htext]
    rw [← hunderstood]
    apply reacts_of_latestMessage hknown
    · exact (latestAction_record_ofParse tracker (.ofText text)).trans hlisten
    · exact latestMessage_record_ofParse tracker (.ofText text)

def undecided : Interpreter :=
  .withKnown ((∅ : SortedMap Parse).insert "hm"
    ⟨"hm", some ⟨"affirm", 0.5⟩, [], [⟨"affirm", 0.5⟩, ⟨"deny", 0.45⟩]⟩) .ofMessages

theorem text_parse_undecided (text : String) : (undecided.parse text).text = text := by
  have hknown : undecided.parse text = if text = "hm" then
      ⟨"hm", some ⟨"affirm", 0.5⟩, [], [⟨"affirm", 0.5⟩, ⟨"deny", 0.45⟩]⟩
      else Interpreter.ofMessages.parse text := by
    unfold undecided Interpreter.withKnown
    dsimp only
    rw [SortedMap.get?_insert, SortedMap.get?_empty]
    by_cases h : text = "hm" <;> simp [h]
  rw [hknown]
  split
  · rename_i h
    exact h.symm
  · exact Event.text_parse_ofMessages text

def listening : Tracker := .ofEvents "user" [.executed listenAction]

theorem ambiguous_undecided : Ambiguous {} (undecided.parse "hm") := by
  refine ⟨⟨"affirm", 0.5⟩, ⟨"deny", 0.45⟩, [], rfl, ?_⟩
  decide +kernel

theorem reacts_undecided :
    (∀ text, (undecided.parse text).text = text) ∧
      Domain.empty.hasAction FallbackPolicy.default.config.action = true ∧
      listening.latestAction = some listenAction ∧
      FallbackPolicy.default.Reacts (listening.record (.ofParse (undecided.parse "hm"))) .empty
        undecided (Doubtful {} (undecided.parse "hm")) ∧
      FallbackPolicy.default.Reacts (listening.record (.utteredText "hm")) .empty undecided
        (Doubtful {} (undecided.parse "hm") ∨ Ambiguous {} (undecided.parse "hm")) := by
  have hknown : Domain.empty.hasAction FallbackPolicy.default.config.action = true := by
    decide +kernel
  have hlisten : listening.latestAction = some listenAction := rfl
  obtain ⟨hbefore, -, htext⟩ := reacts_ofParse_iff text_parse_undecided hknown hlisten "hm"
  exact ⟨text_parse_undecided, hknown, hlisten, hbefore, htext (by decide)⟩

/-- Two intents lie too close together, and the policy abstains. -/
theorem not_reacts_undecided :
    (∀ text, (undecided.parse text).text = text) ∧
      FallbackPolicy.default.config.check.isOk = true ∧
      Domain.empty.hasAction FallbackPolicy.default.config.action = true ∧
      listening.latestAction = some listenAction ∧
      ¬ FallbackPolicy.default.Reacts (listening.record (.ofParse (undecided.parse "hm"))) .empty
        undecided (Doubtful {} (undecided.parse "hm") ∨ Ambiguous {} (undecided.parse "hm")) := by
  refine ⟨text_parse_undecided, by decide +kernel, by decide +kernel, rfl, fun hreacts => ?_⟩
  have habstains : FallbackPolicy.default.Abstains
      (listening.record (.ofParse (undecided.parse "hm"))) .empty undecided := by
    rfl
  exact hreacts.abstains_iff.1 habstains (Or.inr ambiguous_undecided)

end Dialogue.FallbackPolicy
