import Dialogue.Proofs.Assembly
import Dialogue.Proofs.Labels

/-!
What an ensemble with a fallback promises: there is always a prediction, and it is the fallback's own
unless it is confident enough and does not listen twice in a row. The first policy that offers a
fallback is the one that counts.
-/
namespace Dialogue.Ensemble

variable {π : Type} [Policy π] {ensemble : Ensemble π} {tracker : Tracker} {domain : Domain}
  {interpreter : Interpreter} {index : Nat} {policy : π} {fallback : Fallback}

structure OffersFirst (ensemble : Ensemble π) (index : Nat) (policy : π) (fallback : Fallback) :
    Prop where
  at_index : ensemble.policies[index]? = some policy
  offers : (Policy.capabilities policy).fallback = some fallback
  first : ∀ i < index, ∀ other, ensemble.policies[i]? = some other →
    (Policy.capabilities other).fallback = none

theorem OffersFirst.fallback?_eq (h : ensemble.OffersFirst index policy fallback) :
    ensemble.fallback? = some ((label index (Policy.typeName policy), policy), fallback) := by
  have hat : ensemble.labelled[index]? = some (label index (Policy.typeName policy), policy) := by
    rw [getElem?_labelled, h.at_index]
    rfl
  obtain ⟨hlt, hget⟩ := List.getElem?_eq_some_iff.1 hat
  unfold fallback?
  rw [List.findSome?_eq_some_iff]
  refine ⟨ensemble.labelled.take index, (label index (Policy.typeName policy), policy),
    ensemble.labelled.drop (index + 1), ?_, ?_, ?_⟩
  · rw [← hget, List.getElem_cons_drop, List.take_append_drop]
  · rw [h.offers]
    rfl
  · intro other hother
    obtain ⟨i, hi⟩ := List.getElem?_of_mem hother
    rw [List.getElem?_take] at hi
    split at hi
    · rename_i hlt'
      rw [getElem?_labelled] at hi
      obtain ⟨found, hfound, rfl⟩ := Option.map_eq_some_iff.1 hi
      rw [h.first i hlt' found hfound]
      rfl
    · cases hi

/-- A listen right after a listen. -/
def RepeatsListen (tracker : Tracker) (domain : Domain) (prediction : Prediction) : Prop :=
  tracker.latestAction = some listenAction ∧ prediction.bestIndex = domain.index? listenAction

/-- A prediction that need not give way to a fallback on account of what it predicts. -/
structure Holds (tracker : Tracker) (domain : Domain) (fallback : Fallback)
    (prediction : Prediction) : Prop where
  confident : fallback.threshold ≤ prediction.maxConfidence
  moves : ¬ RepeatsListen tracker domain prediction

theorem Holds.congr {p q : Prediction} (h : Holds tracker domain fallback p)
    (hscores : p.scores = q.scores) : Holds tracker domain fallback q := by
  obtain ⟨hconfident, hmoves⟩ := h
  unfold Prediction.maxConfidence at hconfident
  unfold RepeatsListen Prediction.bestIndex at hmoves
  rw [hscores] at hconfident hmoves
  exact ⟨hconfident, hmoves⟩

theorem givesWay_eq_true_iff {label : String} {winner : Prediction} :
    givesWay tracker domain label fallback (some winner) = true ↔
      winner.policyName ≠ some label ∧
        (RepeatsListen tracker domain winner ∨ winner.maxConfidence < fallback.threshold) := by
  have hknown : domain.hasAction listenAction = true := domain.hasAction_of_default (by decide)
  obtain ⟨at', hat⟩ := Domain.hasAction_iff.1 hknown
  have hlisten : (winner.bestIndex.isSome && winner.bestIndex == domain.index? listenAction) = true ↔
      winner.bestIndex = domain.index? listenAction := by
    rw [hat, Bool.and_eq_true, beq_iff_eq]
    constructor
    · exact fun h => h.2
    · intro h
      rw [h]
      exact ⟨rfl, rfl⟩
  unfold givesWay RepeatsListen
  dsimp only
  rw [Bool.and_eq_true, bne_iff_ne, Bool.or_eq_true, Bool.and_assoc, Bool.and_eq_true, beq_iff_eq,
    hlisten, decide_eq_true_iff]

theorem givesWay_eq_false_iff (hnumber : fallback.threshold.isNaN = false) {label : String}
    {winner : Prediction} : givesWay tracker domain label fallback (some winner) = false ↔
      winner.policyName = some label ∨ Holds tracker domain fallback winner := by
  rw [← Bool.not_eq_true, givesWay_eq_true_iff, not_and_or, not_not, not_or,
    FloatOrder.not_lt winner.isNaN_maxConfidence hnumber]
  refine or_congr_right ⟨?_, ?_⟩
  · rintro ⟨hmoves, hconfident⟩
    exact ⟨hconfident, hmoves⟩
  · rintro ⟨hconfident, hmoves⟩
    exact ⟨hmoves, hconfident⟩

theorem substitutes_iff (h : ensemble.OffersFirst index policy fallback) {winner : Option Prediction}
    {labelled : String × π} {other : Fallback} :
    ensemble.Substitutes tracker domain winner labelled other ↔
      (label index (Policy.typeName policy), policy) = labelled ∧ fallback = other ∧
        givesWay tracker domain labelled.1 other winner = true := by
  unfold Substitutes
  rw [h.fallback?_eq, Option.some.injEq, Prod.mk.injEq, and_assoc]

theorem predict_of_round {decision : Decision}
    (h : ensemble.round tracker domain interpreter = .ok decision) :
    ensemble.predict tracker domain interpreter =
      (ensemble.applyFallback tracker domain decision).map fun chosen =>
        markFeaturization tracker chosen.result := by
  unfold predict
  rw [h]
  show ensemble.applyFallback tracker domain decision >>= _ = _
  cases ensemble.applyFallback tracker domain decision with
  | error error => rfl
  | ok chosen => rfl

theorem substitute_of_unknown (h : domain.hasAction fallback.action = false)
    (labelled : String × π) : substitute domain labelled fallback =
      .error (.domain (.actionNotFound fallback.action)) := by
  have hnone : domain.index? fallback.action = none := by
    rw [Domain.index?_eq_none_iff]
    unfold Domain.hasAction at h
    rwa [List.contains_eq_mem, decide_eq_false_iff_not] at h
  unfold substitute Prediction.ofAction Domain.index
  rw [hnone]
  rfl

theorem winner_of_round {decision : Decision} {winner : Prediction}
    (hround : ensemble.round tracker domain interpreter = .ok decision)
    (hwinner : decision.winner = some winner) :
    (∃ i other answer, ensemble.policies[i]? = some other ∧
      Policy.predict other tracker domain interpreter = .ok answer ∧
      winner = silence tracker domain (signed (label i (Policy.typeName other), other) answer)) ∧
      winner.Eligible (suppressedAction tracker domain) := by
  obtain ⟨answers, hanswers, _, rfl⟩ := round_eq_ok_iff.1 hround
  obtain ⟨i, hleads⟩ := Prediction.pick_eq_some_iff.1 hwinner
  obtain ⟨other, answer, hother, hanswer, rfl⟩ := getElem?_contestants.1 hleads.at_index
  obtain ⟨asked, hasked, hpredict⟩ := (getElem?_answers hanswers).1 hanswer
  cases hasked.symm.trans hother
  exact ⟨⟨i, other, answer, hother, hpredict, rfl⟩, hleads.eligible⟩

theorem markFeaturization_result {decision : Decision} {winner : Prediction}
    (h : decision.winner = some winner) : markFeaturization tracker decision.result =
      { winner with
        events := (markFeaturization tracker decision.result).events, optionalEvents := [] } := by
  rw [markFeaturization_eq, Decision.result_of_some h]

/-- A winner stays beside a fallback if it is of the same policy, or holds by itself. -/
def Prevails (tracker : Tracker) (domain : Domain) (label : String) (fallback : Fallback)
    (winner : Prediction) : Prop :=
  winner.policyName = some label ∨ Holds tracker domain fallback winner

/-- What becomes of a decision beside the fallback that a policy offers. -/
structure Settles (ensemble : Ensemble π) (tracker : Tracker) (domain : Domain)
    (interpreter : Interpreter) (labelled : String × π) (fallback : Fallback)
    (decision : Decision) : Prop where
  /-- A winner that prevails is the result, apart from the events. -/
  kept : ∀ winner, decision.winner = some winner →
    Prevails tracker domain labelled.1 fallback winner →
    ∃ result, ensemble.predict tracker domain interpreter = .ok result ∧
      result = { winner with events := result.events, optionalEvents := [] }
  /-- Else the result is the fallback's action and no other. -/
  replaced : (∀ winner, decision.winner = some winner →
      ¬ Prevails tracker domain labelled.1 fallback winner) →
    ∀ at', domain.index? fallback.action = some at' →
    ∃ result, ensemble.predict tracker domain interpreter = .ok result ∧
      result.scores = Prediction.oneHot domain.size at' 1.0 ∧
      result.priority = Policy.priority labelled.2 ∧ result.policyName = some labelled.1
  /-- It is an error exactly if the domain lacks the action. -/
  refused : (∀ winner, decision.winner = some winner →
      ¬ Prevails tracker domain labelled.1 fallback winner) →
    (ensemble.predict tracker domain interpreter =
      .error (.domain (.actionNotFound fallback.action)) ↔
      domain.hasAction fallback.action = false)
  /-- Nobody else's prediction carries the label. -/
  own : ∀ winner, decision.winner = some winner → winner.policyName = some labelled.1 →
    ∃ answer, Policy.predict labelled.2 tracker domain interpreter = .ok answer ∧
      winner = silence tracker domain (signed labelled answer)

section

variable {decision : Decision} (h : ensemble.OffersFirst index policy fallback)
  (hnumber : fallback.threshold.isNaN = false)
  (hround : ensemble.round tracker domain interpreter = .ok decision)
include h hnumber hround

theorem predict_of_prevails {winner : Prediction} (hwinner : decision.winner = some winner)
    (hprevails : Prevails tracker domain (label index (Policy.typeName policy)) fallback winner) :
    ensemble.predict tracker domain interpreter =
      .ok (markFeaturization tracker decision.result) := by
  rw [predict_of_round hround, applyFallback_of_stays]
  · rfl
  · intro labelled other hsub
    obtain ⟨rfl, rfl, hgives⟩ := (substitutes_iff h).1 hsub
    rw [hwinner, (givesWay_eq_false_iff hnumber).2 hprevails] at hgives
    cases hgives

theorem predict_of_falls (hfalls : ∀ winner, decision.winner = some winner →
      ¬ Prevails tracker domain (label index (Policy.typeName policy)) fallback winner) :
    ensemble.predict tracker domain interpreter =
      (substitute domain (label index (Policy.typeName policy), policy) fallback).map fun winner =>
        markFeaturization tracker { decision with winner := some winner }.result := by
  have hsub : ensemble.Substitutes tracker domain decision.winner
      (label index (Policy.typeName policy), policy) fallback := by
    refine (substitutes_iff h).2 ⟨rfl, rfl, ?_⟩
    cases hwinner : decision.winner with
    | none => rfl
    | some winner =>
      rw [← Bool.not_eq_false, givesWay_eq_false_iff hnumber]
      exact hfalls winner hwinner
  rw [predict_of_round hround, applyFallback_of_substitutes hsub]
  cases substitute domain (label index (Policy.typeName policy), policy) fallback with
  | error error => rfl
  | ok winner => rfl

omit hnumber in
theorem eq_of_policyName {winner : Prediction} (hwinner : decision.winner = some winner)
    (hown : winner.policyName = some (label index (Policy.typeName policy))) :
    ∃ answer, Policy.predict policy tracker domain interpreter = .ok answer ∧
      winner = silence tracker domain
        (signed (label index (Policy.typeName policy), policy) answer) := by
  obtain ⟨⟨i, other, answer, hother, hanswer, rfl⟩, -⟩ := winner_of_round hround hwinner
  rw [silence_eq] at hown
  obtain ⟨rfl, -⟩ := label_inj (Option.some.inj hown)
  cases h.at_index.symm.trans hother
  exact ⟨answer, hanswer, rfl⟩

theorem settles : ensemble.Settles tracker domain interpreter
    (label index (Policy.typeName policy), policy) fallback decision where
  kept winner hwinner hprevails :=
    ⟨_, predict_of_prevails h hnumber hround hwinner hprevails, markFeaturization_result hwinner⟩
  replaced hfalls at' hat := by
    rw [predict_of_falls h hnumber hround hfalls, substitute_eq_ok_iff.2 ⟨at', hat, rfl⟩]
    refine ⟨_, rfl, ?_⟩
    dsimp only
    rw [markFeaturization_result rfl]
    exact ⟨rfl, rfl, rfl⟩
  refused hfalls := by
    rw [predict_of_falls h hnumber hround hfalls]
    constructor
    · intro herror
      rw [← Bool.not_eq_true]
      intro haction
      obtain ⟨at', hat⟩ := Domain.hasAction_iff.1 haction
      rw [substitute_eq_ok_iff.2 ⟨at', hat, rfl⟩] at herror
      cases herror
    · intro haction
      rw [substitute_of_unknown haction]
      rfl
  own _ hwinner hown := eq_of_policyName h hround hwinner hown

end

theorem prevails_of_predict (h : ensemble.OffersFirst index policy fallback)
    (hnumber : fallback.threshold.isNaN = false) {result : Prediction}
    (hresult : ensemble.predict tracker domain interpreter = .ok result) :
    result.isAbstention = false ∧
      Prevails tracker domain (label index (Policy.typeName policy)) fallback result := by
  obtain ⟨decision, hround, -⟩ := bind_eq_ok_iff.1 hresult
  by_cases hprevails : ∃ winner, decision.winner = some winner ∧
      Prevails tracker domain (label index (Policy.typeName policy)) fallback winner
  · obtain ⟨winner, hwinner, hprevails⟩ := hprevails
    obtain ⟨_, heligible⟩ := winner_of_round hround hwinner
    rw [predict_of_prevails h hnumber hround hwinner hprevails] at hresult
    cases hresult
    rw [markFeaturization_result hwinner]
    refine ⟨List.isEmpty_eq_false_iff.2 heligible.scores_ne_nil, ?_⟩
    rcases hprevails with hown | hholds
    · exact Or.inl hown
    · exact Or.inr (hholds.congr rfl)
  · have hfalls := fun winner hwinner hprevailing => hprevails ⟨winner, hwinner, hprevailing⟩
    rw [predict_of_falls h hnumber hround hfalls, map_eq_ok_iff] at hresult
    obtain ⟨winner, hwinner, rfl⟩ := hresult
    obtain ⟨at', hat, rfl⟩ := substitute_eq_ok_iff.1 hwinner
    rw [markFeaturization_result rfl]
    refine ⟨?_, Or.inl rfl⟩
    show (Prediction.oneHot domain.size at' 1.0).isEmpty = false
    rw [List.isEmpty_eq_false_iff, ← List.length_pos_iff, Prediction.length_oneHot]
    exact Nat.zero_lt_of_lt (Domain.index?_lt hat)

/-- With a fallback there is always a prediction: the fallback's own, or one that is confident and
does not repeat a listen. A winner that is one of these is the result, and any other gives way to the
fallback's action. -/
theorem fallback_guarantee (h : ensemble.OffersFirst index policy fallback)
    (hnumber : fallback.threshold.isNaN = false) (tracker : Tracker) (domain : Domain)
    (interpreter : Interpreter) :
    (∀ result, ensemble.predict tracker domain interpreter = .ok result →
      result.isAbstention = false ∧
        Prevails tracker domain (label index (Policy.typeName policy)) fallback result) ∧
    ∀ decision, ensemble.round tracker domain interpreter = .ok decision →
      ensemble.Settles tracker domain interpreter (label index (Policy.typeName policy), policy)
        fallback decision :=
  ⟨fun _ hresult => prevails_of_predict h hnumber hresult,
    fun _ hround => settles h hnumber hround⟩

def guard (name action : String) (threshold : Float) : Steady where
  name := name
  priority := 4
  answer := .abstain 4
  fallback := some ⟨action, threshold⟩

def hesitant : Ensemble Steady where
  policies := [
    { name := "Speaker", priority := 1,
      answer := { scores := Prediction.oneHot 11 1 0.2, policyName := none, priority := 1 } },
    guard "Guard" fallbackAction 0.3, guard "Reserve" "action_back" 0.9]

theorem guaranteed_hesitant :
    hesitant.OffersFirst 1 (guard "Guard" fallbackAction 0.3) ⟨fallbackAction, 0.3⟩ ∧
    (0.3 : Float).isNaN = false ∧
    ∃ result, hesitant.predict spokenTo .empty .ofMessages = .ok result ∧
      result.isAbstention = false ∧
      Prevails spokenTo .empty "policy_1_Guard" ⟨fallbackAction, 0.3⟩ result := by
  have hoffers : hesitant.OffersFirst 1 (guard "Guard" fallbackAction 0.3) ⟨fallbackAction, 0.3⟩ := by
    refine ⟨rfl, rfl, fun i hi other hother => ?_⟩
    obtain rfl := Nat.lt_one_iff.1 hi
    cases hother
    rfl
  have hnumber : (0.3 : Float).isNaN = false := by decide +kernel
  have hok : (hesitant.predict spokenTo .empty .ofMessages).isOk = true := by decide +kernel
  obtain ⟨result, hresult⟩ := exists_of_isOk hok
  exact ⟨hoffers, hnumber, result, hresult,
    (fallback_guarantee hoffers hnumber spokenTo .empty .ofMessages).1 result hresult⟩

example : (hesitant.predict spokenTo .empty .ofMessages).toOption.map (·.policyName) =
    some (some "policy_1_Guard") := by
  decide +kernel

end Dialogue.Ensemble

