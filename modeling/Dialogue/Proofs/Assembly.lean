import Dialogue.Ensemble.Decision
import Dialogue.Proofs.FanOut
import Dialogue.Proofs.OneHot
import Dialogue.Proofs.Ranking

/-!
Each stage of a round succeeds under one condition and does one thing to the answers, so what the
result owes to which policy can be read off the stages.
-/
namespace Dialogue

namespace Decision

variable {decision : Decision}

theorem result_of_none (h : decision.winner = none) :
    decision.result = { Prediction.abstain 0 with events := decision.events } := by
  unfold result
  rw [h]

theorem result_of_some {winner : Prediction} (h : decision.winner = some winner) :
    decision.result = { winner with
      events := decision.events ++ winner.optionalEvents, optionalEvents := [] } := by
  unfold result
  rw [h]

end Decision

structure Steady where
  name : String
  priority : Int32
  answer : Prediction
  fallback : Option Fallback := none

instance : Policy Steady where
  typeName := Steady.name
  modulePath _ := "steady"
  priority := Steady.priority
  capabilities policy := { fallback := policy.fallback }
  train policy _ _ _ := .ok (policy, [])
  predict policy _ _ _ := .ok policy.answer
  state _ := none

namespace Ensemble

variable {π : Type} [Policy π] {ensemble : Ensemble π} {tracker : Tracker} {domain : Domain}
  {interpreter : Interpreter} {labelled : String × π} {fallback : Fallback}

theorem getElem?_labelled (ensemble : Ensemble π) (index : Nat) :
    ensemble.labelled[index]? = ensemble.policies[index]?.map fun policy =>
      (label index (Policy.typeName policy), policy) := by
  unfold labelled
  rw [List.getElem?_map, List.getElem?_zipIdx, Option.map_map, Nat.zero_add]
  rfl

theorem length_labelled (ensemble : Ensemble π) :
    ensemble.labelled.length = ensemble.policies.length := by
  unfold labelled
  rw [List.length_map, List.length_zipIdx]

/-! ### The round -/

/-- An answer has no scores at all or one for each action. -/
def Fits (domain : Domain) (answer : Prediction) : Prop :=
  answer.scores = [] ∨ answer.scores.length = domain.size

def signed (labelled : String × π) (answer : Prediction) : Prediction :=
  { answer with policyName := some labelled.1, priority := Policy.priority labelled.2 }

def silence (tracker : Tracker) (domain : Domain) (answer : Prediction) : Prediction :=
  match tracker.rejectedAction.bind domain.index? with
  | some index => withoutAction index answer
  | none => answer

theorem stamp_eq_ok_iff {answer stamped : Prediction} : stamp domain labelled answer = .ok stamped ↔
    Fits domain answer ∧ stamped = signed labelled answer := by
  unfold stamp Fits Prediction.isAbstention
  by_cases hfits : answer.scores = [] ∨ answer.scores.length = domain.size
  · rw [if_neg, Except.ok.injEq, eq_comm]
    · exact ⟨fun h => ⟨hfits, h⟩, fun h => h.2⟩
    · simpa [imp_iff_or_not, or_comm] using hfits
  · rw [if_pos (by simpa [imp_iff_or_not, or_comm] using hfits)]
    constructor
    · intro h
      cases h
    · exact fun h => absurd h.1 hfits

theorem excludeRejected_eq_map (tracker : Tracker) (domain : Domain)
    (predictions : List Prediction) : excludeRejected tracker domain predictions =
      predictions.map (silence tracker domain) := by
  unfold excludeRejected silence
  cases tracker.rejectedAction.bind domain.index? with
  | none => exact (List.map_id' predictions).symm
  | some index => rfl

def contestants (ensemble : Ensemble π) (tracker : Tracker) (domain : Domain)
    (answers : List Prediction) : List Prediction :=
  (ensemble.labelled.zip answers).map fun (labelled, answer) =>
    silence tracker domain (signed labelled answer)

def contest (ensemble : Ensemble π) (tracker : Tracker) (domain : Domain)
    (answers : List Prediction) : Decision :=
  .ofPredictions (suppressedAction tracker domain) (ensemble.contestants tracker domain answers)

theorem getElem?_contestants {answers : List Prediction} {index : Nat} {entry : Prediction} :
    (ensemble.contestants tracker domain answers)[index]? = some entry ↔
      ∃ policy answer, ensemble.policies[index]? = some policy ∧ answers[index]? = some answer ∧
        entry = silence tracker domain
          (signed (label index (Policy.typeName policy), policy) answer) := by
  unfold contestants
  rw [List.getElem?_map, Option.map_eq_some_iff]
  constructor
  · rintro ⟨⟨labelled, answer⟩, hzip, hentry⟩
    rw [List.getElem?_zip_eq_some, getElem?_labelled] at hzip
    obtain ⟨policy, hpolicy, hlabel⟩ := Option.map_eq_some_iff.1 hzip.1
    cases hlabel
    exact ⟨policy, answer, hpolicy, hzip.2, hentry.symm⟩
  · rintro ⟨policy, answer, hpolicy, hanswer, hentry⟩
    refine ⟨((label index (Policy.typeName policy), policy), answer), ?_, hentry.symm⟩
    rw [List.getElem?_zip_eq_some, getElem?_labelled, hpolicy]
    exact ⟨rfl, hanswer⟩

theorem silence_eq (tracker : Tracker) (domain : Domain) (answer : Prediction) :
    silence tracker domain answer =
      { answer with scores := (silence tracker domain answer).scores } := by
  unfold silence
  cases tracker.rejectedAction.bind domain.index? with
  | none => rfl
  | some index => rfl

theorem events_silence (tracker : Tracker) (domain : Domain) (answer : Prediction) :
    (silence tracker domain answer).events = answer.events := by
  rw [silence_eq]

theorem length_scores_silence (tracker : Tracker) (domain : Domain) (answer : Prediction) :
    (silence tracker domain answer).scores.length = answer.scores.length := by
  unfold silence
  cases tracker.rejectedAction.bind domain.index? with
  | none => rfl
  | some index => exact List.length_set

theorem getElem?_scores_silence (tracker : Tracker) (domain : Domain) (answer : Prediction)
    (i : Nat) : (silence tracker domain answer).scores[i]? =
      if tracker.rejectedAction.bind domain.index? = some i then
        answer.scores[i]?.map fun _ => 0.0
      else answer.scores[i]? := by
  unfold silence
  cases tracker.rejectedAction.bind domain.index? with
  | none => rw [if_neg (by simp)]
  | some index =>
    show (answer.scores.set index 0.0)[i]? = _
    rw [List.getElem?_set']
    simp only [Option.some.injEq]
    rfl

theorem scores_silence_signed (answer : Prediction) :
    (silence tracker domain (signed labelled answer)).scores =
      (silence tracker domain answer).scores := by
  unfold silence
  cases tracker.rejectedAction.bind domain.index? with
  | none => rfl
  | some index => rfl

theorem map_snd_zip_labelled {answers : List Prediction}
    (h : ensemble.outcomes tracker domain interpreter = answers.map .ok) :
    (ensemble.labelled.zip answers).map Prod.snd = answers := by
  apply List.map_snd_zip
  have hlength := congrArg List.length h
  unfold outcomes at hlength
  rw [List.length_map, List.length_map] at hlength
  rw [length_labelled, hlength]

theorem getElem?_answers {answers : List Prediction}
    (h : ensemble.outcomes tracker domain interpreter = answers.map .ok) {index : Nat}
    {answer : Prediction} : answers[index]? = some answer ↔
      ∃ policy, ensemble.policies[index]? = some policy ∧
        Policy.predict policy tracker domain interpreter = .ok answer := by
  have hindex := congrArg (·[index]?) h
  unfold outcomes at hindex
  rw [List.getElem?_map, List.getElem?_map] at hindex
  constructor
  · intro hanswer
    rw [hanswer] at hindex
    exact Option.map_eq_some_iff.1 hindex
  · rintro ⟨policy, hpolicy, hanswer⟩
    rw [hpolicy, Option.map_some, hanswer] at hindex
    obtain ⟨other, hother, heq⟩ := Option.map_eq_some_iff.1 hindex.symm
    cases heq
    exact hother

theorem events_contest {answers : List Prediction}
    (h : ensemble.outcomes tracker domain interpreter = answers.map .ok) :
    (ensemble.contest tracker domain answers).events = answers.flatMap (·.events) := by
  show (ensemble.contestants tracker domain answers).flatMap (·.events) = _
  unfold contestants
  rw [List.flatMap_map]
  simp only [events_silence]
  conv_rhs => rw [← map_snd_zip_labelled h, List.flatMap_map]
  rfl

theorem stampAll_eq_ok_iff {answers stamped : List Prediction}
    (h : ensemble.outcomes tracker domain interpreter = answers.map .ok) :
    ensemble.stampAll domain answers = .ok stamped ↔ (∀ answer ∈ answers, Fits domain answer) ∧
      stamped = (ensemble.labelled.zip answers).map fun (labelled, answer) =>
        signed labelled answer := by
  unfold stampAll
  refine (mapM_eq_ok_iff_forall (p := fun pair => Fits domain pair.2)
    (g := fun pair => signed pair.1 pair.2) fun _ _ => stamp_eq_ok_iff).trans ?_
  rw [← List.forall_mem_map (f := Prod.snd) (P := Fits domain), map_snd_zip_labelled h]

theorem round_eq_ok_iff {decision : Decision} :
    ensemble.round tracker domain interpreter = .ok decision ↔
      ∃ answers, ensemble.outcomes tracker domain interpreter = answers.map .ok ∧
        (∀ answer ∈ answers, Fits domain answer) ∧
        decision = ensemble.contest tracker domain answers := by
  unfold round contest contestants
  simp only [bind_eq_ok_iff, ask_eq_ok_iff, excludeRejected_eq_map]
  constructor
  · rintro ⟨answers, hanswers, stamped, hstamped, h⟩
    obtain ⟨hfits, rfl⟩ := (stampAll_eq_ok_iff hanswers).1 hstamped
    cases h
    rw [List.map_map]
    exact ⟨answers, hanswers, hfits, rfl⟩
  · rintro ⟨answers, hanswers, hfits, rfl⟩
    refine ⟨answers, hanswers, _, (stampAll_eq_ok_iff hanswers).2 ⟨hfits, rfl⟩, ?_⟩
    rw [List.map_map]
    rfl

/-! ### The fallback -/

/-- The winner of a round, if there is one, gives way to the fallback that a policy offers. -/
def Substitutes (ensemble : Ensemble π) (tracker : Tracker) (domain : Domain)
    (winner : Option Prediction) (labelled : String × π) (fallback : Fallback) : Prop :=
  ensemble.fallback? = some (labelled, fallback) ∧
    givesWay tracker domain labelled.1 fallback winner = true

def standIn (domain : Domain) (labelled : String × π) (index : Nat) : Prediction :=
  signed labelled { scores := Prediction.oneHot domain.size index 1.0, policyName := none,
                    priority := Prediction.defaultPriority }

theorem fallback?_mem (h : ensemble.fallback? = some (labelled, fallback)) :
    ∃ index policy, ensemble.policies[index]? = some policy ∧
      labelled = (label index (Policy.typeName policy), policy) ∧
      (Policy.capabilities policy).fallback = some fallback := by
  obtain ⟨offering, hmem, hoffer⟩ := List.exists_of_findSome?_eq_some h
  obtain ⟨offered, hcapability, hpair⟩ := Option.map_eq_some_iff.1 hoffer
  cases hpair
  obtain ⟨index, hindex⟩ := List.getElem?_of_mem hmem
  rw [getElem?_labelled] at hindex
  obtain ⟨policy, hpolicy, hlabelled⟩ := Option.map_eq_some_iff.1 hindex
  cases hlabelled
  exact ⟨index, policy, hpolicy, rfl, hcapability⟩

theorem substitute_eq_ok_iff {winner : Prediction} :
    substitute domain labelled fallback = .ok winner ↔
      ∃ index, domain.index? fallback.action = some index ∧
        winner = standIn domain labelled index := by
  unfold substitute
  cases haction : Prediction.ofAction domain fallback.action 1.0 with
  | error error =>
    constructor
    · intro h
      cases h
    · rintro ⟨index, hindex, _⟩
      rw [Prediction.ofAction_eq_ok_iff.2 ⟨index, hindex, rfl⟩] at haction
      cases haction
  | ok prediction =>
    obtain ⟨index, hindex, rfl⟩ := Prediction.ofAction_eq_ok_iff.1 haction
    constructor
    · intro h
      cases h
      exact ⟨index, hindex, rfl⟩
    · rintro ⟨other, hother, rfl⟩
      rw [hindex] at hother
      cases hother
      rfl

theorem applyFallback_of_substitutes {decision : Decision}
    (h : ensemble.Substitutes tracker domain decision.winner labelled fallback) :
    ensemble.applyFallback tracker domain decision =
      (substitute domain labelled fallback).map fun winner =>
        { decision with winner := some winner } := by
  unfold applyFallback
  rw [h.1]
  exact if_pos h.2

theorem applyFallback_of_stays {decision : Decision} (h : ∀ labelled fallback,
    ¬ ensemble.Substitutes tracker domain decision.winner labelled fallback) :
    ensemble.applyFallback tracker domain decision = .ok decision := by
  unfold applyFallback
  cases hoffer : ensemble.fallback? with
  | none => rfl
  | some offer => exact if_neg fun hgives => h offer.1 offer.2 ⟨hoffer, hgives⟩

/-- The fallback changes the winner only, and only if the winner gives way to it. -/
theorem applyFallback_eq_ok_iff {decision chosen : Decision} :
    ensemble.applyFallback tracker domain decision = .ok chosen ↔
      (∃ labelled fallback index,
        ensemble.Substitutes tracker domain decision.winner labelled fallback ∧
        domain.index? fallback.action = some index ∧
        chosen = { decision with winner := some (standIn domain labelled index) }) ∨
      ((∀ labelled fallback,
        ¬ ensemble.Substitutes tracker domain decision.winner labelled fallback) ∧
        chosen = decision) := by
  by_cases hsub : ∃ labelled fallback,
      ensemble.Substitutes tracker domain decision.winner labelled fallback
  · obtain ⟨labelled, fallback, hsub⟩ := hsub
    rw [applyFallback_of_substitutes hsub, map_eq_ok_iff]
    simp only [substitute_eq_ok_iff]
    constructor
    · rintro ⟨_, ⟨index, hindex, rfl⟩, rfl⟩
      exact Or.inl ⟨labelled, fallback, index, hsub, hindex, rfl⟩
    · rintro (⟨_, _, index, hother, hindex, rfl⟩ | ⟨hstays, _⟩)
      · cases hsub.1.symm.trans hother.1
        exact ⟨_, ⟨index, hindex, rfl⟩, rfl⟩
      · exact absurd hsub (hstays labelled fallback)
  · have hstays : ∀ labelled fallback,
        ¬ ensemble.Substitutes tracker domain decision.winner labelled fallback :=
      fun labelled fallback h => hsub ⟨labelled, fallback, h⟩
    rw [applyFallback_of_stays hstays, Except.ok.injEq, eq_comm]
    constructor
    · exact fun h => Or.inr ⟨hstays, h⟩
    · rintro (⟨labelled, fallback, _, hother, _⟩ | ⟨_, h⟩)
      · exact absurd hother (hstays labelled fallback)
      · exact h

/-! ### The result -/

def featurizationMark (tracker : Tracker) (result : Prediction) : List Event :=
  if tracker.latestAction = some listenAction then [.featurization result.isEndToEnd] else []

theorem markFeaturization_eq (tracker : Tracker) (prediction : Prediction) :
    markFeaturization tracker prediction =
      { prediction with events := prediction.events ++ featurizationMark tracker prediction } := by
  unfold markFeaturization featurizationMark
  by_cases h : tracker.latestAction = some listenAction
  · rw [if_pos h, if_pos h]
  · rw [if_neg h, if_neg h, List.append_nil]

theorem predict_eq_ok_iff {result : Prediction} :
    ensemble.predict tracker domain interpreter = .ok result ↔
      ∃ answers chosen, ensemble.outcomes tracker domain interpreter = answers.map .ok ∧
        (∀ answer ∈ answers, Fits domain answer) ∧
        ensemble.applyFallback tracker domain (ensemble.contest tracker domain answers) =
          .ok chosen ∧
        result = markFeaturization tracker chosen.result := by
  unfold predict
  simp only [bind_eq_ok_iff, round_eq_ok_iff]
  constructor
  · rintro ⟨_, ⟨answers, hanswers, hfits, rfl⟩, chosen, hchosen, h⟩
    cases h
    exact ⟨answers, chosen, hanswers, hfits, hchosen, rfl⟩
  · rintro ⟨answers, chosen, hanswers, hfits, hchosen, rfl⟩
    exact ⟨_, ⟨answers, hanswers, hfits, rfl⟩, chosen, hchosen, rfl⟩

/-- A result in the name of the policy at an index: it has a score for each action, and the label
and the priority that the policy has in the ensemble. -/
structure Stands (ensemble : Ensemble π) (domain : Domain) (index : Nat) (policy : π)
    (result : Prediction) : Prop where
  at_index : ensemble.policies[index]? = some policy
  length_scores : result.scores.length = domain.size
  policyName_eq : result.policyName = some (label index (Policy.typeName policy))
  priority_eq : result.priority = Policy.priority policy

/-- The ways in which answers become a result. The events of all answers come first in each. -/
inductive Concluded (ensemble : Ensemble π) (tracker : Tracker) (domain : Domain)
    (answers : List Prediction) (result : Prediction) : Prop where
  /-- Nobody wins, and no policy offers a fallback. -/
  | unanswered (lost : (ensemble.contest tracker domain answers).winner = none)
      (unoffered : ensemble.fallback? = none) (scores_eq : result.scores = [])
      (policyName_eq : result.policyName = none) (priority_eq : result.priority = 0)
      (events_eq : result.events = answers.flatMap (·.events) ++ featurizationMark tracker result)
  /-- The fallback of a policy takes the place of the winner. -/
  | substituted (index : Nat) (policy : π) (fallback : Fallback)
      (substitutes : ensemble.Substitutes tracker domain
        (ensemble.contest tracker domain answers).winner
        (label index (Policy.typeName policy), policy) fallback)
      (stands : ensemble.Stands domain index policy result)
      (events_eq : result.events = answers.flatMap (·.events) ++ featurizationMark tracker result)
  /-- The answer of a policy wins. Only a rejected action has another score than in the answer. -/
  | kept (index : Nat) (policy : π) (answer : Prediction)
      (stays : ∀ labelled fallback, ¬ ensemble.Substitutes tracker domain
        (ensemble.contest tracker domain answers).winner labelled fallback)
      (answered : answers[index]? = some answer)
      (leads : Prediction.Leads (suppressedAction tracker domain)
        (ensemble.contestants tracker domain answers) index
        (silence tracker domain (signed (label index (Policy.typeName policy), policy) answer)))
      (stands : ensemble.Stands domain index policy result)
      (flags_eq : result.isEndToEnd = answer.isEndToEnd ∧ result.isNoUser = answer.isNoUser ∧
        result.hideRuleTurn = answer.hideRuleTurn ∧ result.diagnostics = answer.diagnostics)
      (scores_eq : ∀ i : Nat, result.scores[i]? =
        if tracker.rejectedAction.bind domain.index? = some i then
          answer.scores[i]?.map fun _ => 0.0
        else answer.scores[i]?)
      (events_eq : result.events = answers.flatMap (·.events) ++ answer.optionalEvents ++
        featurizationMark tracker result)

theorem fallback?_eq_none (h : ∀ labelled fallback,
    ¬ ensemble.Substitutes tracker domain none labelled fallback) : ensemble.fallback? = none := by
  cases hoffer : ensemble.fallback? with
  | none => rfl
  | some offer =>
    -- Without a winner there is nothing that the fallback would have to be weighed against.
    exact absurd ⟨hoffer, rfl⟩ (h offer.1 offer.2)

theorem fallback?_of_unoffered
    (h : ∀ other ∈ ensemble.policies, (Policy.capabilities other).fallback = none) :
    ensemble.fallback? = none := by
  unfold fallback?
  rw [List.findSome?_eq_none_iff]
  intro labelled hmem
  obtain ⟨i, hi⟩ := List.getElem?_of_mem hmem
  rw [getElem?_labelled] at hi
  obtain ⟨other, hother, rfl⟩ := Option.map_eq_some_iff.1 hi
  rw [h other (List.mem_of_getElem? hother)]
  rfl

theorem stands_standIn {index at' : Nat} {policy : π} (h : ensemble.policies[index]? = some policy)
    {events : List Event} : ensemble.Stands domain index policy
      { standIn domain (label index (Policy.typeName policy), policy) at' with events := events } where
  at_index := h
  length_scores := Prediction.length_oneHot _ _ _
  policyName_eq := rfl
  priority_eq := rfl

theorem length_scores_of_eligible {answer : Prediction} {suppressed : Option Nat}
    (hfits : Fits domain answer)
    (heligible : (silence tracker domain (signed labelled answer)).Eligible suppressed) :
    (silence tracker domain (signed labelled answer)).scores.length = domain.size := by
  have hscores := heligible.scores_ne_nil
  rw [← List.length_pos_iff, length_scores_silence] at hscores
  rw [length_scores_silence]
  rcases hfits with hnil | hlength
  · exact absurd hnil (List.length_pos_iff.1 hscores)
  · exact hlength

/-- The result of a round gathers the events of all policies, takes its scores and flags from the
policy that is chosen in the end, and is in that policy's name. -/
theorem predict_concluded {result : Prediction}
    (h : ensemble.predict tracker domain interpreter = .ok result) :
    ∃ answers, ensemble.outcomes tracker domain interpreter = answers.map .ok ∧
      result.optionalEvents = [] ∧ ensemble.Concluded tracker domain answers result := by
  obtain ⟨answers, chosen, hanswers, hfits, hchosen, rfl⟩ := predict_eq_ok_iff.1 h
  have hevents := events_contest hanswers
  refine ⟨answers, hanswers, ?_, ?_⟩
  · rw [markFeaturization_eq]
    cases hwinner : chosen.winner with
    | none => rw [Decision.result_of_none hwinner]; rfl
    | some winner => rw [Decision.result_of_some hwinner]
  · rw [markFeaturization_eq]
    rcases applyFallback_eq_ok_iff.1 hchosen with
      ⟨labelled, fallback, at', hsub, _, rfl⟩ | ⟨hstays, rfl⟩
    · obtain ⟨index, policy, hpolicy, rfl, _⟩ := fallback?_mem hsub.1
      rw [Decision.result_of_some rfl]
      apply Concluded.substituted index policy fallback hsub
      · exact stands_standIn hpolicy
      · show (_ ++ []) ++ _ = _
        rw [List.append_nil, hevents]
        rfl
    · cases hwinner : (ensemble.contest tracker domain answers).winner with
      | none =>
        rw [Decision.result_of_none hwinner]
        rw [hwinner] at hstays
        exact .unanswered hwinner (fallback?_eq_none hstays) rfl rfl rfl (hevents ▸ rfl)
      | some winner =>
        obtain ⟨index, hleads⟩ := Prediction.pick_eq_some_iff.1 hwinner
        obtain ⟨policy, answer, hpolicy, hanswer, rfl⟩ := getElem?_contestants.1 hleads.at_index
        have hlength := length_scores_of_eligible
          (hfits answer (List.mem_of_getElem? hanswer)) hleads.eligible
        -- Of the answer the stages before have changed the label, the priority and one score.
        rw [Decision.result_of_some hwinner, hevents, silence_eq]
        apply Concluded.kept index policy answer hstays hanswer hleads
        · exact ⟨hpolicy, hlength, rfl, rfl⟩
        · exact ⟨rfl, rfl, rfl, rfl⟩
        · exact getElem?_scores_silence tracker domain _
        · rfl

def duo : Ensemble Steady where
  policies := [
    { name := "Speaker", priority := 1,
      answer := { scores := Prediction.oneHot 11 1 1.0, policyName := none, priority := 7,
                  events := [.restarted], optionalEvents := [.slotSet "mood" .null],
                  isEndToEnd := true } },
    { name := "Observer", priority := 2,
      answer := { Prediction.abstain 3 with events := [.activeLoop none] } }]

def spokenTo : Tracker :=
  .ofEvents "user" [.executed listenAction, .utteredText "hi"]

theorem concluded_duo : ∃ result, duo.predict spokenTo .empty .ofMessages = .ok result ∧
    ∃ answers, duo.outcomes spokenTo .empty .ofMessages = answers.map .ok ∧
      result.optionalEvents = [] ∧ duo.Concluded spokenTo .empty answers result := by
  have hok : (duo.predict spokenTo .empty .ofMessages).isOk = true := by decide +kernel
  obtain ⟨result, hresult⟩ := exists_of_isOk hok
  exact ⟨result, hresult, predict_concluded hresult⟩

set_option maxRecDepth 4000 in
example : (duo.predict spokenTo .empty .ofMessages).map (·.events) =
    .ok [.restarted, .activeLoop none, .slotSet "mood" .null, .featurization true] :=
  rfl

end Ensemble

end Dialogue
