import Dialogue.Proofs.Assembly
import Dialogue.Proofs.BuiltinAnswers

/-!
Every answer loses its score for an action that has just refused to run, but the fallback is put in
place after that.
-/
namespace Dialogue

namespace Tracker

variable {tracker : Tracker} {action : String}

/-- The latest attempt to run an action was the one at which this action refused. -/
def Rejects (tracker : Tracker) (action : String) : Prop :=
  ∃ before policy confidence after,
    tracker.events = before ++ .actionRejected action policy confidence :: after ∧
      ∀ event ∈ after, attempt? event = none

theorem attempt?_eq_some_iff {event : Event} : attempt? event = some (some action) ↔
    ∃ policy confidence, event = .actionRejected action policy confidence := by
  constructor
  · intro h
    cases event with
    | actionRejected name policy confidence =>
      cases h
      exact ⟨policy, confidence, rfl⟩
    | _ => cases h
  · rintro ⟨policy, confidence, rfl⟩
    rfl

theorem rejectedAction_eq_some_iff : tracker.rejectedAction = some action ↔
    tracker.Rejects action := by
  unfold rejectedAction Rejects
  rw [Option.join_eq_some_iff, List.findSome?_eq_some_iff]
  simp only [attempt?_eq_some_iff]
  constructor
  · rintro ⟨after, _, before, hevents, ⟨policy, confidence, rfl⟩, hafter⟩
    refine ⟨before.reverse, policy, confidence, after.reverse, ?_, ?_⟩
    · rw [← List.reverse_reverse tracker.events, hevents]
      simp
    · intro event hevent
      exact hafter event (List.mem_reverse.1 hevent)
  · rintro ⟨before, policy, confidence, after, hevents, hafter⟩
    refine ⟨after.reverse, _, before.reverse, ?_, ⟨policy, confidence, rfl⟩, ?_⟩
    · rw [hevents]
      simp
    · intro event hevent
      exact hafter event (List.mem_reverse.1 hevent)

end Tracker

namespace Prediction

/-- The action at an index has no chance, and another one is the best, if any is. -/
def Excludes (prediction : Prediction) (index : Nat) : Prop :=
  prediction.isAbstention = true ∨
    prediction.scores[index]? = some 0.0 ∧ prediction.bestIndex ≠ some index

theorem Excludes.congr {p q : Prediction} {index : Nat} (hscores : p.scores = q.scores) :
    p.Excludes index ↔ q.Excludes index := by
  unfold Excludes isAbstention bestIndex
  rw [hscores]

theorem excludes_of_eligible {prediction : Prediction} {suppressed : Option Nat} {index : Nat}
    (hnum : prediction.Numeric) (heligible : prediction.Eligible suppressed)
    (hzero : prediction.scores[index]? = some 0.0) : prediction.Excludes index :=
  Or.inr ⟨hzero, prediction.bestIndex_ne_of_zero hnum hzero
    (prediction.maxConfidence_mem heligible.confident) heligible.confident⟩

theorem one_ne_zero : (1.0 : Float) ≠ 0.0 := by
  intro h
  have hlt : (0.0 : Float) < 1.0 := by decide
  rw [h] at hlt
  exact FloatOrder.lt_irrefl _ hlt

theorem excludes_oneHot_iff {prediction : Prediction} {size i index : Nat} (hi : i < size)
    (hindex : index < size) (hscores : prediction.scores = oneHot size index 1.0) :
    prediction.Excludes i ↔ i ≠ index := by
  constructor
  · rintro (habstention | ⟨hzero, _⟩) rfl
    · unfold isAbstention at habstention
      rw [hscores, List.isEmpty_iff_length_eq_zero, length_oneHot] at habstention
      omega
    · rw [hscores, getElem?_oneHot 1.0 hi, Option.some.injEq] at hzero
      exact one_ne_zero hzero
  · intro hne
    have hzero : prediction.scores[i]? = some 0.0 := by
      rw [hscores, getElem?_oneHot_ne 1.0 hi hne]
    have hone : (1.0 : Float) ∈ prediction.scores := by
      rw [hscores]
      exact List.mem_of_getElem? (getElem?_oneHot 1.0 hindex)
    exact Or.inr ⟨hzero, prediction.bestIndex_ne_of_zero (numeric_of_oneHot hscores) hzero hone
      (by decide)⟩

end Prediction

namespace Ensemble

variable {π : Type} [Policy π] {ensemble : Ensemble π} {tracker : Tracker} {domain : Domain}
  {interpreter : Interpreter}

theorem numeric_silence {answer : Prediction} (h : answer.Numeric) :
    (silence tracker domain answer).Numeric := by
  unfold silence
  cases tracker.rejectedAction.bind domain.index? with
  | none => exact h
  | some index =>
    intro score hscore
    rcases List.mem_or_eq_of_mem_set hscore with hmem | rfl
    · exact h score hmem
    · decide

theorem scores_result (tracker : Tracker) (decision : Decision) :
    (markFeaturization tracker decision.result).scores =
      (decision.winner.map (·.scores)).getD [] := by
  rw [markFeaturization_eq]
  cases hwinner : decision.winner with
  | none => rw [Decision.result_of_none hwinner]; rfl
  | some winner => rw [Decision.result_of_some hwinner]; rfl

theorem excludes_contestant {answers : List Prediction} {action : String} {i index : Nat}
    {suppressed : Option Nat} {winner : Prediction}
    (hnum : ∀ answer ∈ answers, answer.Numeric) (hfits : ∀ answer ∈ answers, Fits domain answer)
    (hrejects : tracker.Rejects action) (hindex : domain.index? action = some index)
    (hleads : Prediction.Leads suppressed (ensemble.contestants tracker domain answers) i winner) :
    winner.Excludes index := by
  obtain ⟨policy, answer, _, hanswer, rfl⟩ := getElem?_contestants.1 hleads.at_index
  have hmem := List.mem_of_getElem? hanswer
  have hlength := length_scores_of_eligible (hfits answer hmem) hleads.eligible
  have hbind : tracker.rejectedAction.bind domain.index? = some index := by
    rw [Tracker.rejectedAction_eq_some_iff.2 hrejects, Option.bind_some, hindex]
  have hsigned : (signed (label i (Policy.typeName policy), policy) answer).Numeric :=
    hnum answer hmem
  apply Prediction.excludes_of_eligible (numeric_silence hsigned) hleads.eligible
  have hlt := Domain.index?_lt hindex
  rw [length_scores_silence] at hlength
  rw [← hlength] at hlt
  rw [getElem?_scores_silence, if_pos hbind, List.getElem?_eq_getElem hlt]
  rfl

/-- The fallback takes the place of the winner although its action is the one given. -/
def Insists (ensemble : Ensemble π) (tracker : Tracker) (domain : Domain)
    (interpreter : Interpreter) (action : String) : Prop :=
  ∃ decision labelled fallback, ensemble.round tracker domain interpreter = .ok decision ∧
    ensemble.Substitutes tracker domain decision.winner labelled fallback ∧
    fallback.action = action

theorem insists_iff {decision : Decision} {labelled : String × π} {fallback : Fallback}
    {action : String} (hround : ensemble.round tracker domain interpreter = .ok decision)
    (hsub : ensemble.Substitutes tracker domain decision.winner labelled fallback) :
    ensemble.Insists tracker domain interpreter action ↔ fallback.action = action := by
  unfold Insists
  rw [hround]
  constructor
  · rintro ⟨_, _, _, _, hother, haction⟩
    cases hsub.1.symm.trans hother.1
    exact haction
  · exact fun haction => ⟨decision, labelled, fallback, rfl, hsub, haction⟩

theorem not_insists {decision : Decision}
    (hround : ensemble.round tracker domain interpreter = .ok decision)
    (hstays : ∀ labelled fallback,
      ¬ ensemble.Substitutes tracker domain decision.winner labelled fallback) (action : String) :
    ¬ ensemble.Insists tracker domain interpreter action := by
  rintro ⟨_, labelled, fallback, hother, hsub, _⟩
  cases hround.symm.trans hother
  exact hstays labelled fallback hsub

theorem numeric_of_outcomes {answers : List Prediction}
    (hnum : ∀ policy ∈ ensemble.policies, ∀ answer,
      Policy.predict policy tracker domain interpreter = .ok answer → answer.Numeric)
    (hanswers : ensemble.outcomes tracker domain interpreter = answers.map .ok) :
    ∀ answer ∈ answers, answer.Numeric := by
  intro answer hmem
  have hok : Except.ok answer ∈ ensemble.outcomes tracker domain interpreter := by
    rw [hanswers]
    exact List.mem_map_of_mem hmem
  obtain ⟨policy, hpolicy, hanswer⟩ := List.mem_map.1 hok
  exact hnum policy hpolicy answer hanswer

theorem excludes_contest {answers : List Prediction} {action : String} {index : Nat}
    (hnum : ∀ answer ∈ answers, answer.Numeric) (hfits : ∀ answer ∈ answers, Fits domain answer)
    (hrejects : tracker.Rejects action) (hindex : domain.index? action = some index) :
    (markFeaturization tracker (ensemble.contest tracker domain answers).result).Excludes
      index := by
  have hscores := scores_result tracker (ensemble.contest tracker domain answers)
  cases hwinner : (ensemble.contest tracker domain answers).winner with
  | none =>
    rw [hwinner] at hscores
    left
    unfold Prediction.isAbstention
    rw [hscores]
    rfl
  | some winner =>
    rw [hwinner] at hscores
    obtain ⟨i, hleads⟩ := Prediction.pick_eq_some_iff.1 hwinner
    rw [Prediction.Excludes.congr hscores]
    exact excludes_contestant hnum hfits hrejects hindex hleads

/-- A rejected action is excluded from the result, unless a fallback insists on it: then it is the
one action of the result. -/
theorem excludes_rejected_iff {action : String} {index : Nat} {result : Prediction}
    (hnum : ∀ policy ∈ ensemble.policies, ∀ answer,
      Policy.predict policy tracker domain interpreter = .ok answer → answer.Numeric)
    (hrejects : tracker.Rejects action) (hindex : domain.index? action = some index)
    (h : ensemble.predict tracker domain interpreter = .ok result) :
    (result.Excludes index ↔ ¬ ensemble.Insists tracker domain interpreter action) ∧
      (ensemble.Insists tracker domain interpreter action →
        result.scores = Prediction.oneHot domain.size index 1.0) := by
  obtain ⟨answers, chosen, hanswers, hfits, hchosen, rfl⟩ := predict_eq_ok_iff.1 h
  have hround : ensemble.round tracker domain interpreter =
      .ok (ensemble.contest tracker domain answers) :=
    round_eq_ok_iff.2 ⟨answers, hanswers, hfits, rfl⟩
  have hscores := scores_result tracker chosen
  rcases applyFallback_eq_ok_iff.1 hchosen with
    ⟨labelled, fallback, at', hsub, hat, rfl⟩ | ⟨hstays, rfl⟩
  · change _ = Prediction.oneHot domain.size at' 1.0 at hscores
    have hlt := Domain.index?_lt hindex
    -- The scores are built anew here, so that nothing is left of the exclusion before.
    rw [insists_iff hround hsub, Domain.eq_iff_index_eq hat hindex]
    constructor
    · rw [Prediction.excludes_oneHot_iff hlt (Domain.index?_lt hat) hscores, ne_comm]
    · rintro rfl
      exact hscores
  · have hinsists := not_insists hround hstays action
    have hnumeric := numeric_of_outcomes hnum hanswers
    exact ⟨iff_of_true (excludes_contest hnumeric hfits hrejects hindex) hinsists,
      fun h => absurd h hinsists⟩

def restartRefused : Tracker :=
  .ofEvents "user" [.executed listenAction, .uttered "hi" "greet", .rejected "action_restart"]

theorem excludes_rejected_duo :
    ∃ result, duo.predict restartRefused .empty .ofMessages = .ok result ∧
      (result.Excludes 1 ↔ ¬ duo.Insists restartRefused .empty .ofMessages "action_restart") ∧
      (duo.Insists restartRefused .empty .ofMessages "action_restart" →
        result.scores = Prediction.oneHot Domain.empty.size 1 1.0) := by
  have hok : (duo.predict restartRefused .empty .ofMessages).isOk = true := by decide +kernel
  obtain ⟨result, hresult⟩ := exists_of_isOk hok
  have hrejects : restartRefused.Rejects "action_restart" :=
    ⟨[.executed listenAction, .uttered "hi" "greet"], none, none, [], rfl, by simp⟩
  have hindex : Domain.empty.index? "action_restart" = some 1 := by decide +kernel
  refine ⟨result, hresult, excludes_rejected_iff ?_ hrejects hindex hresult⟩
  intro policy hpolicy answer hanswer
  rcases List.mem_cons.1 hpolicy with rfl | hpolicy
  · cases hanswer
    exact Prediction.numeric_of_oneHot rfl
  · cases List.mem_singleton.1 hpolicy
    cases hanswer
    exact (Prediction.plain_abstain .empty 3).numeric

def fallbackRefused : Tracker :=
  .ofEvents "user" [.executed listenAction, .utteredText "what is that", .rejected fallbackAction]

def fallbackOnly : Ensemble BuiltinPolicy where
  policies := [.fallback .default]

set_option maxRecDepth 4000 in
theorem predict_fallbackOnly :
    ∃ result, fallbackOnly.predict fallbackRefused .empty .ofMessages = .ok result ∧
      result.scores = Prediction.oneHot 11 3 1.0 :=
  ⟨_, rfl, rfl⟩

/-- A fallback that refuses to run is predicted again at once. -/
theorem not_excludes_fallbackRefused :
    fallbackRefused.Rejects fallbackAction ∧ Domain.empty.index? fallbackAction = some 3 ∧
      (∀ policy ∈ fallbackOnly.policies, ∀ answer,
        Policy.predict policy fallbackRefused .empty .ofMessages = .ok answer → answer.Numeric) ∧
      ∃ result, fallbackOnly.predict fallbackRefused .empty .ofMessages = .ok result ∧
        ¬ result.Excludes 3 := by
  have hindex : Domain.empty.index? fallbackAction = some 3 := by decide +kernel
  refine ⟨?_, hindex, ?_, ?_⟩
  · exact ⟨[.executed listenAction, .utteredText "what is that"], none, none, [], rfl, by simp⟩
  · intro policy hpolicy answer hanswer
    have hoffer : ∀ fallback, (Policy.capabilities policy).fallback = some fallback →
        Domain.empty.hasAction fallback.action = true := by
      rw [List.mem_singleton.1 hpolicy]
      intro fallback hfallback
      cases hfallback
      exact Domain.hasAction_iff.2 ⟨3, hindex⟩
    obtain ⟨plain, hok, hplain⟩ :=
      BuiltinPolicy.exists_predict hoffer fallbackRefused .ofMessages
    cases hok.symm.trans hanswer
    exact hplain.numeric
  · obtain ⟨result, hresult, hscores⟩ := predict_fallbackOnly
    refine ⟨result, hresult, fun h => ?_⟩
    exact (Prediction.excludes_oneHot_iff (by decide) (by decide) hscores).1 h rfl

end Ensemble

end Dialogue
