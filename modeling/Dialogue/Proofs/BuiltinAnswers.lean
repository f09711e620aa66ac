import Dialogue.Policy.Builtin
import Dialogue.Proofs.RuleChoice

namespace Dialogue

open Prediction

variable {domain : Domain} {tracker : Tracker} {interpreter : Interpreter}

namespace Memory

variable {action : String} {index turns : Nat} {priority : Int32}

theorem predictRecalled_of_index (h : domain.index? action = some index) :
    predictRecalled domain priority (some (action, turns)) =
      { scores := oneHot domain.size index 1.0, policyName := none, priority
        diagnostics := (∅ : SortedMap Json).insert "memorized_turns" (.ofNat turns) } := by
  rw [predictRecalled, ofAction_eq_ok_iff.2 ⟨index, h, rfl⟩]
  rfl

theorem predictRecalled_of_unknown (h : domain.hasAction action ≠ true) :
    predictRecalled domain priority (some (action, turns)) = .abstain priority := by
  rw [predictRecalled]
  cases hprediction : ofAction domain action 1.0 with
  | error error => rfl
  | ok prediction =>
    obtain ⟨index, hindex, _⟩ := ofAction_eq_ok_iff.1 hprediction
    exact absurd (Domain.hasAction_iff.2 ⟨index, hindex⟩) h

theorem plain_predictRecalled (domain : Domain) (priority : Int32)
    (recalled : Option (String × Nat)) : (predictRecalled domain priority recalled).Plain domain := by
  cases recalled with
  | none => exact plain_abstain domain priority
  | some found =>
    obtain ⟨action, turns⟩ := found
    by_cases hknown : domain.hasAction action = true
    · obtain ⟨index, hindex⟩ := Domain.hasAction_iff.1 hknown
      rw [predictRecalled_of_index hindex]
      exact Or.inr ⟨index, Domain.index?_lt hindex, rfl⟩
    · rw [predictRecalled_of_unknown hknown]
      exact plain_abstain domain priority

end Memory

theorem RulePolicy.plain_predict (policy : RulePolicy) (tracker : Tracker) (domain : Domain)
    (interpreter : Interpreter) : (policy.predict tracker domain interpreter).Plain domain := by
  cases hchoose : policy.choose (tracker.history domain interpreter).states with
  | none =>
    rw [predict_of_none hchoose]
    exact plain_abstain domain policy.priority
  | some rule =>
    by_cases hknown : domain.hasAction rule.action = true
    · obtain ⟨index, hindex, hscores⟩ := (predictsBy_of_known hchoose hknown).action
      exact Or.inr ⟨index, Domain.index?_lt hindex, hscores⟩
    · rw [predict_of_unknown hchoose hknown]
      exact plain_abstain domain policy.priority

theorem UnexpectedIntentPolicy.exists_predict (policy : UnexpectedIntentPolicy) (tracker : Tracker)
    (domain : Domain) (interpreter : Interpreter) :
    ∃ answer, policy.predict tracker domain interpreter = .ok answer ∧ answer.Plain domain := by
  have hdefault : unlikelyIntentAction ∈ defaultActions := by decide
  obtain ⟨prediction, hprediction⟩ := exists_ofAction (domain.hasAction_of_default hdefault) 1.0
  have hplain := plain_ofAction hprediction
  unfold UnexpectedIntentPolicy.predict
  cases latestTurn tracker interpreter with
  | none => exact ⟨_, rfl, plain_abstain domain policy.priority⟩
  | some turn =>
    by_cases hunlikely : policy.isUnlikely turn.1 turn.2 = true
    · simp only [hunlikely, if_true, hprediction]
      exact ⟨_, rfl, hplain⟩
    · simp only [hunlikely]
      exact ⟨_, rfl, plain_abstain domain policy.priority⟩

theorem FallbackPolicy.exists_predict {policy : FallbackPolicy}
    (h : domain.hasAction policy.config.action = true) (tracker : Tracker)
    (interpreter : Interpreter) :
    ∃ answer, policy.predict tracker domain interpreter = .ok answer ∧ answer.Plain domain := by
  obtain ⟨prediction, hprediction⟩ := exists_ofAction h 1.0
  have hplain := plain_ofAction hprediction
  unfold FallbackPolicy.predict
  by_cases hlisten : tracker.latestAction = some listenAction
  · rw [if_pos hlisten]
    cases tracker.latestMessage.bind fun m =>
        reason? policy.config (understood interpreter m) with
    | none => exact ⟨_, rfl, plain_abstain domain policy.priority⟩
    | some reason =>
      rw [hprediction]
      exact ⟨_, rfl, hplain⟩
  · rw [if_neg hlisten]
    exact ⟨_, rfl, plain_abstain domain policy.priority⟩

namespace BuiltinPolicy

/-- Every policy answers, if the domain has the action of the fallback it offers. -/
theorem exists_predict {policy : BuiltinPolicy}
    (h : ∀ fallback, (Policy.capabilities policy).fallback = some fallback →
      domain.hasAction fallback.action = true) (tracker : Tracker) (interpreter : Interpreter) :
    ∃ answer, Policy.predict policy tracker domain interpreter = .ok answer ∧
      answer.Plain domain := by
  cases policy with
  | memoization policy => exact ⟨_, rfl, Memory.plain_predictRecalled domain _ _⟩
  | augmentedMemoization policy => exact ⟨_, rfl, Memory.plain_predictRecalled domain _ _⟩
  | rule policy => exact ⟨_, rfl, policy.plain_predict tracker domain interpreter⟩
  | unexpectedIntent policy =>
    obtain ⟨answer, hanswer, hplain⟩ := policy.exists_predict tracker domain interpreter
    exact ⟨answer, congrArg (Except.mapError _) hanswer, hplain⟩
  | fallback policy =>
    obtain ⟨answer, hanswer, hplain⟩ :=
      FallbackPolicy.exists_predict (h _ rfl) tracker interpreter
    exact ⟨answer, congrArg (Except.mapError _) hanswer, hplain⟩

end BuiltinPolicy

end Dialogue
