import Dialogue.Proofs.Rejection

/-!
Answers that find the unlikely intent again cannot win, and the fallback that may take the winner's
place has an action of its own.
-/
namespace Dialogue

namespace Prediction

variable {prediction : Prediction} {index : Nat}

def Avoids (prediction : Prediction) (index : Nat) : Prop :=
  prediction.isAbstention = true ∨ prediction.bestIndex ≠ some index

theorem Avoids.congr {p q : Prediction} (hscores : p.scores = q.scores) :
    p.Avoids index ↔ q.Avoids index := by
  unfold Avoids isAbstention bestIndex
  rw [hscores]

theorem Excludes.avoids (h : prediction.Excludes index) : prediction.Avoids index :=
  h.imp_right And.right

theorem avoids_oneHot {size i : Nat} (hindex : index < size) (hi : i < size) (hne : index ≠ i)
    (hscores : prediction.scores = oneHot size i 1.0) : prediction.Avoids index :=
  ((excludes_oneHot_iff hindex hi hscores).2 hne).avoids

end Prediction

namespace Ensemble

variable {π : Type} [Policy π] {ensemble : Ensemble π} {tracker : Tracker} {domain : Domain}
  {interpreter : Interpreter} {index : Nat}

theorem suppressedAction_of_latest (hlatest : tracker.latestAction = some unlikelyIntentAction)
    (hindex : domain.index? unlikelyIntentAction = some index) :
    suppressedAction tracker domain = some index := by
  unfold suppressedAction
  rw [if_pos hlatest, hindex]

theorem avoids_result {decision : Decision}
    (h : ∀ winner, decision.winner = some winner → winner.Avoids index) :
    (markFeaturization tracker decision.result).Avoids index := by
  have hscores := scores_result tracker decision
  cases hwinner : decision.winner with
  | none =>
    rw [hwinner] at hscores
    left
    unfold Prediction.isAbstention
    rw [hscores]
    rfl
  | some winner =>
    rw [hwinner] at hscores
    exact (Prediction.Avoids.congr hscores).2 (h winner hwinner)

theorem avoids_contest {answers : List Prediction}
    (hsuppressed : suppressedAction tracker domain = some index) {winner : Prediction}
    (hwinner : (ensemble.contest tracker domain answers).winner = some winner) :
    winner.Avoids index := by
  obtain ⟨i, hleads⟩ := Prediction.pick_eq_some_iff.1 hwinner
  exact Or.inr (hleads.eligible.not_suppressed index hsuppressed)

theorem isSome_contest {answers : List Prediction} {policy : π} {answer : Prediction}
    (hanswers : ensemble.outcomes tracker domain interpreter = answers.map .ok)
    (hpolicy : policy ∈ ensemble.policies)
    (hanswer : Policy.predict policy tracker domain interpreter = .ok answer)
    (heligible : (silence tracker domain answer).Eligible (suppressedAction tracker domain)) :
    (ensemble.contest tracker domain answers).winner.isSome = true := by
  obtain ⟨i, hi⟩ := List.getElem?_of_mem hpolicy
  have hgiven := (getElem?_answers hanswers).2 ⟨policy, hi, hanswer⟩
  have hentry : (ensemble.contestants tracker domain answers)[i]? = some (silence tracker domain
      (signed (label i (Policy.typeName policy), policy) answer)) :=
    getElem?_contestants.2 ⟨policy, answer, hi, hgiven, rfl⟩
  refine Prediction.isSome_pick_iff.2 ⟨_, List.mem_of_getElem? hentry, ?_⟩
  exact (Prediction.Eligible.congr (scores_silence_signed _)).2 heligible

theorem result_ne_abstention {decision : Decision} {winner : Prediction}
    (hwinner : decision.winner = some winner) (hscores : winner.scores ≠ []) :
    (markFeaturization tracker decision.result).isAbstention = false := by
  unfold Prediction.isAbstention
  rw [scores_result, hwinner]
  exact List.isEmpty_eq_false_iff.2 hscores

/-- After the unlikely intent the result is not the unlikely intent again, unless a policy has made
it its fallback. Without any fallback the result says something if some answer can win that does not
repeat the unlikely intent. -/
theorem unlikelyIntent_not_repeated
    (hlatest : tracker.latestAction = some unlikelyIntentAction)
    (hoffers : ∀ policy ∈ ensemble.policies, ∀ fallback,
      (Policy.capabilities policy).fallback = some fallback →
        fallback.action ≠ unlikelyIntentAction)
    {result : Prediction} (h : ensemble.predict tracker domain interpreter = .ok result) :
    ∃ index, domain.index? unlikelyIntentAction = some index ∧ result.Avoids index ∧
      ((∀ policy ∈ ensemble.policies, (Policy.capabilities policy).fallback = none) →
        ∀ policy ∈ ensemble.policies, ∀ answer,
          Policy.predict policy tracker domain interpreter = .ok answer →
          (silence tracker domain answer).Eligible (some index) → result.isAbstention = false) := by
  have hdefault : unlikelyIntentAction ∈ defaultActions := by decide
  obtain ⟨index, hindex⟩ := Domain.hasAction_iff.1 (domain.hasAction_of_default hdefault)
  have hsuppressed := suppressedAction_of_latest hlatest hindex
  obtain ⟨answers, chosen, hanswers, _, hchosen, rfl⟩ := predict_eq_ok_iff.1 h
  refine ⟨index, hindex, avoids_result fun winner hwinner => ?_, ?_⟩
  · rcases applyFallback_eq_ok_iff.1 hchosen with
      ⟨labelled, fallback, at', hsub, hat, rfl⟩ | ⟨_, rfl⟩
    · cases hwinner
      obtain ⟨i, policy, hpolicy, _, hfallback⟩ := fallback?_mem hsub.1
      have hother := hoffers policy (List.mem_of_getElem? hpolicy) fallback hfallback
      have hne : index ≠ at' := fun heq => hother ((Domain.eq_iff_index_eq hat hindex).2 heq.symm)
      exact Prediction.avoids_oneHot (Domain.index?_lt hindex) (Domain.index?_lt hat) hne rfl
    · exact avoids_contest hsuppressed hwinner
  · intro hunoffered policy hpolicy answer hanswer heligible
    unfold applyFallback at hchosen
    rw [fallback?_of_unoffered hunoffered] at hchosen
    cases hchosen
    rw [← hsuppressed] at heligible
    obtain ⟨winner, hwinner⟩ := Option.isSome_iff_exists.1
      (isSome_contest hanswers hpolicy hanswer heligible)
    obtain ⟨i, hleads⟩ := Prediction.pick_eq_some_iff.1 hwinner
    exact result_ne_abstention hwinner hleads.eligible.scores_ne_nil

/-- Two policies of high priority find the unlikely intent, one of them with a score that is no
number; a third one has something else to say. -/
def insistent : Ensemble Steady where
  policies := [
    { name := "Detector", priority := 5,
      answer := { scores := Prediction.oneHot 11 9 1.0, policyName := none, priority := 5 } },
    { name := "Alarm", priority := 9,
      answer := { scores := (Prediction.oneHot 11 9 1.0).set 0 (0.0 / 0.0), policyName := none,
                  priority := 9, isNoUser := true } },
    { name := "Speaker", priority := 1,
      answer := { scores := Prediction.oneHot 11 1 0.4, policyName := none, priority := 1 } }]

def surprised : Tracker :=
  .ofEvents "user" [.executed listenAction, .uttered "hi" "greet", .executed unlikelyIntentAction]

theorem not_repeated_insistent :
    surprised.latestAction = some unlikelyIntentAction ∧
      (∀ policy ∈ insistent.policies, (Policy.capabilities policy).fallback = none) ∧
      ∃ result, insistent.predict surprised .empty .ofMessages = .ok result ∧
        result.Avoids 9 ∧ result.isAbstention = false := by
  have hunoffered : ∀ policy ∈ insistent.policies, (Policy.capabilities policy).fallback = none := by
    simp [insistent, Policy.capabilities]
  have hok : (insistent.predict surprised .empty .ofMessages).isOk = true := by decide +kernel
  obtain ⟨result, hresult⟩ := exists_of_isOk hok
  have hothers : ∀ policy ∈ insistent.policies, ∀ fallback,
      (Policy.capabilities policy).fallback = some fallback →
        fallback.action ≠ unlikelyIntentAction := by
    intro policy hpolicy fallback hfallback
    cases (hunoffered policy hpolicy).symm.trans hfallback
  obtain ⟨index, hindex, havoids, hspeaks⟩ := unlikelyIntent_not_repeated rfl hothers hresult
  have hnine : Domain.empty.index? unlikelyIntentAction = some 9 := by decide +kernel
  cases hnine.symm.trans hindex
  refine ⟨rfl, hunoffered, result, hresult, havoids, ?_⟩
  exact hspeaks hunoffered _ (List.mem_of_getElem? (i := 2) rfl) _ rfl
    (Prediction.canWin_iff.1 (by decide +kernel))

end Ensemble

end Dialogue
