import Dialogue.Proofs.Assembly
import Dialogue.Proofs.BuiltinAnswers
import Dialogue.Proofs.GuardedPolicies
import Mathlib.Data.List.Induction

/-!
What a check of the domain promises for later. An ensemble of the policies that come with the
library fails neither in training nor in a prediction once its domain has passed the check, and no
index and no slice on the way lies outside of its list.
-/
namespace Dialogue

namespace Ensemble

/-! ### The check -/

section

variable {π : Type} [Policy π] {ensemble : Ensemble π} {domain : Domain}

/-- The domain has the action of every fallback. -/
def Serves (domain : Domain) (ensemble : Ensemble π) : Prop :=
  ∀ policy ∈ ensemble.policies, ∀ fallback,
    (Policy.capabilities policy).fallback = some fallback → domain.hasAction fallback.action = true

theorem checkDomain_eq_ok_iff {warnings : List Warning} :
    ensemble.checkDomain domain = .ok warnings ↔ Serves domain ensemble ∧
      warnings = match ensemble.domainFingerprint with
        | some fingerprint => if fingerprint != domain.fingerprint then [.domainChanged] else []
        | none => [] := by
  unfold checkDomain
  rw [bind_eq_ok_iff, Unique.exists_iff, forIn_eq_ok_iff (p := fun policy => ∀ fallback,
    (Policy.capabilities policy).fallback = some fallback →
      domain.hasAction fallback.action = true)]
  · apply and_congr_right
    intro _
    cases ensemble.domainFingerprint
    all_goals exact ⟨fun h => (Except.ok.inj h).symm, fun h => congrArg Except.ok h.symm⟩
  · intro policy hpolicy
    cases hfallback : (Policy.capabilities policy).fallback with
    | none => rfl
    | some fallback =>
      dsimp only
      rw [hpolicy fallback hfallback]
      rfl
  · intro policy hpolicy
    cases hfallback : (Policy.capabilities policy).fallback with
    | none => exact absurd (fun fallback h => nomatch hfallback.symm.trans h) hpolicy
    | some fallback =>
      have hmissing : domain.hasAction fallback.action = false := by
        apply Bool.eq_false_iff.2
        intro hhas
        apply hpolicy
        intro other hother
        cases hfallback.symm.trans hother
        exact hhas
      dsimp only
      rw [hmissing]
      exact ⟨_, rfl⟩

end

/-! ### Checked indices -/

def place? (slots : List (Option Outcome)) (answer : Nat × Outcome) :
    Option (List (Option Outcome)) :=
  put? slots answer.1 (some answer.2)

def gather? (outcomes : List Outcome) (arrival : List Nat) :
    Option (Except Error (List Prediction)) := do
  let slots ← (sendAll outcomes arrival).held.foldlM place? (List.replicate outcomes.length none)
  return inOrder (slots.zipIdx.map fun (slot, index) =>
    match slot with
    | some outcome => outcome
    | none => .error (.internal ("policy " ++ toString index ++ " did not report a prediction")))

theorem foldlM_place? {size : Nat} (arrived : List (Nat × Outcome))
    (h : ∀ answer ∈ arrived, answer.1 < size) :
    arrived.foldlM place? (List.replicate size none) =
      some ((List.range size).map fun index => arrived.reverse.lookup index) := by
  -- The latest answer is the first one that the look-up in the reversed list meets.
  induction arrived using List.reverseRecOn with
  | nil =>
    show some _ = some ((List.range size).map fun _ => none)
    rw [List.map_const', List.length_range]
  | append_singleton arrived answer ih =>
    have hlt : answer.1 < size := h answer (by simp)
    rw [List.foldlM_append, ih fun other hother => h other (List.mem_append_left _ hother)]
    show place? _ answer >>= pure = _
    unfold place?
    rw [put?_eq (by rwa [List.length_map, List.length_range])]
    apply congrArg some
    rw [List.reverse_append, List.reverse_singleton, List.singleton_append]
    apply List.ext_getElem
    · rw [List.length_set, List.length_map, List.length_map]
    · intro i hi hi'
      rw [List.getElem_set, List.getElem_map, List.getElem_map, List.getElem_range,
        List.lookup_cons]
      by_cases hi : answer.1 = i
      · rw [if_pos hi, hi, beq_self_eq_true]
      · rw [if_neg hi, beq_false_of_ne (Ne.symm hi)]

theorem gather?_eq {outcomes : List Outcome} {arrival : List Nat}
    (h : arrival.length ≤ outcomes.length) :
    gather? outcomes arrival = some (gather outcomes arrival) := by
  have hindex : ∀ answer ∈ (sendAll outcomes arrival).held, answer.1 < outcomes.length := by
    intro answer hmem
    obtain ⟨_, houtcome⟩ := (mem_held_iff h).1 hmem
    exact (List.getElem?_eq_some_iff.1 houtcome).1
  unfold gather? gather
  rw [foldlM_place? _ hindex]
  apply congrArg (fun answers => some (inOrder answers))
  apply List.ext_getElem
  · rw [List.length_map, List.length_zipIdx, List.length_map, List.length_map]
  · intro i hi hi'
    rw [List.getElem_map, List.getElem_zipIdx, List.getElem_map, List.getElem_map,
      List.getElem_range, Nat.zero_add]
    rfl

variable {ensemble : Ensemble BuiltinPolicy} {tracker : Tracker} {domain : Domain}
  {interpreter : Interpreter}

def ask? (ensemble : Ensemble BuiltinPolicy) (arrival : List Nat) (tracker : Tracker)
    (domain : Domain) (interpreter : Interpreter) : Option (Except Error (List Prediction)) := do
  let outcomes ← ensemble.policies.mapM (·.predict? tracker domain interpreter)
  match ensemble.fanOut with
  | .sequential => return inOrder outcomes
  | .parallel => gather? outcomes arrival

def substitute? (domain : Domain) (labelled : String × BuiltinPolicy) (fallback : Fallback) :
    Option (Except Error Prediction) := do
  match ← Prediction.ofAction? domain fallback.action 1.0 with
  | .error error => return .error (.domain error)
  | .ok prediction =>
    return .ok { prediction with
      policyName := some labelled.1, priority := Policy.priority labelled.2 }

def applyFallback? (ensemble : Ensemble BuiltinPolicy) (tracker : Tracker) (domain : Domain)
    (decision : Decision) : Option (Except Error Decision) :=
  match ensemble.fallback? with
  | none => return .ok decision
  | some (labelled, fallback) =>
    if givesWay tracker domain labelled.1 fallback decision.winner then do
      return (← substitute? domain labelled fallback).map fun winner =>
        { decision with winner := some winner }
    else return .ok decision

/-- Predicts with every index and slice checked, where answers arrive in the given order. -/
def predict? (ensemble : Ensemble BuiltinPolicy) (arrival : List Nat) (tracker : Tracker)
    (domain : Domain) (interpreter : Interpreter) : Option (Except Error Prediction) := do
  match ← ensemble.ask? arrival tracker domain interpreter with
  | .error error => return .error error
  | .ok predictions =>
    match ensemble.stampAll domain predictions with
    | .error error => return .error error
    | .ok predictions =>
      let decision := Decision.ofPredictions (suppressedAction tracker domain)
        (excludeRejected tracker domain predictions)
      return (← ensemble.applyFallback? tracker domain decision).map fun decision =>
        markFeaturization tracker decision.result

def train? (ensemble : Ensemble BuiltinPolicy) (now : Timestamp) (trackers : List Tracker)
    (domain : Domain) (interpreter : Interpreter) :
    Option (Ensemble BuiltinPolicy × List Warning) := do
  let trained ← ensemble.policies.mapM (·.train? trackers domain interpreter)
  return ({ ensemble with
      policies := trained.map Prod.fst
      trainedAt := some now
      domainFingerprint := some domain.fingerprint },
    ensemble.report trackers ++ trained.flatMap Prod.snd)

theorem ask?_eq {arrival : List Nat} (h : arrival.Perm (List.range ensemble.policies.length)) :
    ensemble.ask? arrival tracker domain interpreter =
      some (ensemble.ask tracker domain interpreter) := by
  have houtcomes : ensemble.policies.mapM (·.predict? tracker domain interpreter) =
      some (ensemble.outcomes tracker domain interpreter) :=
    mapM_eq_some fun policy _ => policy.predict?_eq tracker domain interpreter
  have hlength : (ensemble.outcomes tracker domain interpreter).length =
      ensemble.policies.length := List.length_map _
  unfold ask?
  rw [houtcomes, ask_eq_inOrder]
  show (match ensemble.fanOut with
    | .sequential => _
    | .parallel => gather? (ensemble.outcomes tracker domain interpreter) arrival) = _
  cases ensemble.fanOut with
  | sequential => rfl
  | parallel =>
    dsimp only
    rw [gather?_eq (by rw [hlength, h.length_eq, List.length_range]),
      gather_of_perm (by rwa [hlength])]

theorem substitute?_eq (domain : Domain) (labelled : String × BuiltinPolicy)
    (fallback : Fallback) :
    substitute? domain labelled fallback = some (substitute domain labelled fallback) := by
  unfold substitute? substitute
  rw [Prediction.ofAction?_eq]
  cases Prediction.ofAction domain fallback.action 1.0 with
  | error error => rfl
  | ok prediction => rfl

theorem applyFallback?_eq (decision : Decision) :
    ensemble.applyFallback? tracker domain decision =
      some (ensemble.applyFallback tracker domain decision) := by
  unfold applyFallback? applyFallback
  cases ensemble.fallback? with
  | none => rfl
  | some offer =>
    dsimp only
    by_cases hgives : givesWay tracker domain offer.1.1 offer.2 decision.winner = true
    · rw [if_pos hgives, if_pos hgives, substitute?_eq]
      rfl
    · rw [if_neg hgives, if_neg hgives]
      rfl

theorem predict?_eq {arrival : List Nat} (h : arrival.Perm (List.range ensemble.policies.length)) :
    ensemble.predict? arrival tracker domain interpreter =
      some (ensemble.predict tracker domain interpreter) := by
  unfold predict? predict round
  rw [ask?_eq h, Option.bind_eq_bind, Option.bind_some]
  cases ensemble.ask tracker domain interpreter with
  | error error => rfl
  | ok predictions =>
    dsimp only [bind, Except.bind]
    cases ensemble.stampAll domain predictions with
    | error error => rfl
    | ok stamped =>
      dsimp only
      rw [applyFallback?_eq]
      dsimp only [Option.bind, pure, Except.pure]
      cases ensemble.applyFallback tracker domain (Decision.ofPredictions
        (suppressedAction tracker domain) (excludeRejected tracker domain stamped)) with
      | error error => rfl
      | ok decision => rfl

theorem trainAll_eq (trackers : List Tracker) (domain : Domain) (interpreter : Interpreter)
    (policies : List BuiltinPolicy) : ∃ trained : List (BuiltinPolicy × List Warning),
      policies.mapM (·.train? trackers domain interpreter) = some trained ∧
        trainAll trackers domain interpreter policies =
          (trained.map Prod.fst, .ok (trained.flatMap Prod.snd)) := by
  induction policies with
  | nil => exact ⟨[], rfl, rfl⟩
  | cons policy policies ih =>
    obtain ⟨outcome, hguarded, htrained⟩ := policy.train?_eq trackers domain interpreter
    obtain ⟨others, hothers, hall⟩ := ih
    refine ⟨outcome :: others, ?_, ?_⟩
    · rw [List.mapM_cons, hguarded, hothers]
      rfl
    · rw [trainAll, htrained]
      dsimp only
      rw [hall]
      rfl

theorem exists_train (ensemble : Ensemble BuiltinPolicy) (now : Timestamp)
    (trackers : List Tracker) (domain : Domain) (interpreter : Interpreter) :
    ∃ trained noticed, ensemble.train now trackers domain interpreter = (trained, .ok noticed) ∧
      ensemble.train? now trackers domain interpreter = some (trained, noticed) := by
  obtain ⟨trained, hguarded, hall⟩ := trainAll_eq trackers domain interpreter ensemble.policies
  unfold train train?
  rw [hguarded, hall]
  exact ⟨_, _, rfl, rfl⟩

/-! ### Success -/

theorem fits_of_plain {answer : Prediction} (h : answer.Plain domain) : Fits domain answer := by
  rcases h with hnil | ⟨index, _, hscores⟩
  · exact Or.inl hnil
  · right
    rw [hscores, Prediction.length_oneHot]

theorem exists_applyFallback (h : Serves domain ensemble) (tracker : Tracker)
    (decision : Decision) :
    ∃ chosen, ensemble.applyFallback tracker domain decision = .ok chosen := by
  by_cases hsub : ∃ labelled fallback,
      ensemble.Substitutes tracker domain decision.winner labelled fallback
  · obtain ⟨labelled, fallback, hsub⟩ := hsub
    obtain ⟨_, policy, hpolicy, _, hoffer⟩ := fallback?_mem hsub.1
    have haction := h policy (List.mem_of_getElem? hpolicy) fallback hoffer
    obtain ⟨index, hindex⟩ := Domain.hasAction_iff.1 haction
    exact ⟨_, applyFallback_eq_ok_iff.2 (Or.inl ⟨labelled, fallback, index, hsub, hindex, rfl⟩)⟩
  · refine ⟨decision, applyFallback_eq_ok_iff.2 (Or.inr ⟨?_, rfl⟩)⟩
    intro labelled fallback hother
    exact hsub ⟨labelled, fallback, hother⟩

theorem exists_predict (h : Serves domain ensemble) (tracker : Tracker)
    (interpreter : Interpreter) :
    ∃ result, ensemble.predict tracker domain interpreter = .ok result := by
  have hpolicies : ∀ policy ∈ ensemble.policies, ∃ answer,
      Policy.predict policy tracker domain interpreter = .ok answer ∧ answer.Plain domain :=
    fun policy hpolicy => BuiltinPolicy.exists_predict (h policy hpolicy) tracker interpreter
  obtain ⟨answers, hanswers, hplain⟩ := exists_map_eq_ok hpolicies
  obtain ⟨chosen, hchosen⟩ :=
    exists_applyFallback h tracker (ensemble.contest tracker domain answers)
  exact ⟨_, predict_eq_ok_iff.2
    ⟨answers, chosen, hanswers, fun answer hmem => fits_of_plain (hplain answer hmem), hchosen, rfl⟩⟩

/-- After the check of the domain every prediction and every training succeeds, with all indices and
slices in range, in whichever order the answers of the policies arrive. -/
theorem no_failure_of_checkDomain {warnings : List Warning}
    (h : ensemble.checkDomain domain = .ok warnings) (interpreter : Interpreter) :
    (∀ tracker, ∃ result, ensemble.predict tracker domain interpreter = .ok result ∧
      ∀ arrival : List Nat, arrival.Perm (List.range ensemble.policies.length) →
        ensemble.predict? arrival tracker domain interpreter = some (.ok result)) ∧
    (∀ now trackers, ∃ trained noticed,
      ensemble.train now trackers domain interpreter = (trained, .ok noticed) ∧
        ensemble.train? now trackers domain interpreter = some (trained, noticed)) := by
  constructor
  · intro tracker
    obtain ⟨result, hresult⟩ := exists_predict (checkDomain_eq_ok_iff.1 h).1 tracker interpreter
    refine ⟨result, hresult, fun arrival harrival => ?_⟩
    rw [predict?_eq harrival, hresult]
  · intro now trackers
    exact exists_train ensemble now trackers domain interpreter

def greeting : Tracker :=
  .ofEvents "user" [.executed listenAction, .uttered "hi" "greet", .executed "utter_greet",
    .executed listenAction]

def greetingDomain : Domain := .ofParts ["greet"] [] [] ["utter_greet"]

def novices : Ensemble BuiltinPolicy where
  policies := [.memoization .default, .augmentedMemoization .default, .rule ⟨6, false, []⟩,
    .unexpectedIntent .default, .fallback .default, .memoization ⟨2, ⟨1, ∅⟩⟩]
  fanOut := .parallel

def schooled : Ensemble BuiltinPolicy :=
  (novices.train ⟨2024, 2, 29, 12, 30, 0, 0⟩ [greeting, greeting.asRule] greetingDomain
    .ofMessages).1

def known : BuiltinPolicy → Nat
  | .memoization policy => policy.memory.lookup.entries.length
  | .augmentedMemoization policy => policy.memory.lookup.entries.length
  | .rule policy => policy.learned.length
  | .unexpectedIntent policy => policy.observed.entries.length
  | .fallback _ => 0

theorem known_schooled : schooled.policies.map known = [3, 6, 2, 1, 0, 3] := by
  decide +kernel

theorem domainFingerprint_schooled :
    schooled.domainFingerprint = some greetingDomain.fingerprint := by
  rfl

theorem no_failure_schooled : schooled.policies.map known = [3, 6, 2, 1, 0, 3] ∧
    schooled.checkDomain greetingDomain = .ok [] ∧
    (∀ tracker, ∃ result, schooled.predict tracker greetingDomain .ofMessages = .ok result ∧
      ∀ arrival : List Nat, arrival.Perm (List.range schooled.policies.length) →
        schooled.predict? arrival tracker greetingDomain .ofMessages = some (.ok result)) ∧
    (∀ now trackers, ∃ trained noticed,
      schooled.train now trackers greetingDomain .ofMessages = (trained, .ok noticed) ∧
        schooled.train? now trackers greetingDomain .ofMessages = some (trained, noticed)) := by
  have hoffers : schooled.policies.all (fun policy => (Policy.capabilities policy).fallback.all
      fun fallback => greetingDomain.hasAction fallback.action) = true := by
    decide +kernel
  have hserves : Serves greetingDomain schooled := by
    intro policy hpolicy fallback hfallback
    have hall := List.all_eq_true.1 hoffers policy hpolicy
    rwa [hfallback, Option.all_some] at hall
  have hcheck : schooled.checkDomain greetingDomain = .ok [] := by
    rw [checkDomain_eq_ok_iff, domainFingerprint_schooled]
    exact ⟨hserves, by simp⟩
  exact ⟨known_schooled, hcheck, no_failure_of_checkDomain hcheck .ofMessages⟩

end Ensemble

end Dialogue
