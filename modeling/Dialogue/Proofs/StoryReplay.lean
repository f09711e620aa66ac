import Dialogue.Proofs.QuietPolicies
import Dialogue.Proofs.Rejection
import Dialogue.Proofs.RunTime

/-!
If one policy remembers windows and all others learn rules or look out for unlikely intents, the
ensemble predicts the next action at every point of its stories, unless the stories disagree there.
-/
namespace Dialogue

theorem Prediction.eligible_of_oneHot {prediction : Prediction} {size index : Nat}
    {suppressed : Option Nat} (hindex : index < size)
    (hscores : prediction.scores = oneHot size index 1.0)
    (hsuppressed : ∀ i, suppressed = some i → i < size ∧ i ≠ index) :
    prediction.Eligible suppressed := by
  have hone : (1.0 : Float) ∈ prediction.scores := by
    rw [hscores]
    exact List.mem_of_getElem? (getElem?_oneHot 1.0 hindex)
  refine ⟨List.ne_nil_of_mem hone, ?_, fun i hi => ?_⟩
  · have hgap := FloatOrder.lt_or_lt prediction.isNaN_maxConfidence
      (show (0.0 : Float) < 1.0 by decide)
    exact hgap.resolve_right (prediction.not_maxConfidence_lt hone)
  · obtain ⟨hlt, hne⟩ := hsuppressed i hi
    have hzero : prediction.scores[i]? = some 0.0 := by
      rw [hscores, getElem?_oneHot_ne 1.0 hlt hne]
    exact prediction.bestIndex_ne_of_zero (numeric_of_oneHot hscores) hzero hone (by decide)

namespace Ensemble

/-! ### A single voice -/

section

variable {π : Type} [Policy π] {ensemble : Ensemble π} {tracker : Tracker} {domain : Domain}
  {interpreter : Interpreter} {index : Nat} {policy : π} {answer : Prediction}

/-- All policies but one abstain, and none offers a fallback. -/
structure SpeaksAlone (ensemble : Ensemble π) (tracker : Tracker) (domain : Domain)
    (interpreter : Interpreter) (index : Nat) (policy : π) (answer : Prediction) : Prop where
  at_index : ensemble.policies[index]? = some policy
  answers : Policy.predict policy tracker domain interpreter = .ok answer
  fits : Fits domain answer
  others : ∀ i, i ≠ index → ∀ other, ensemble.policies[i]? = some other →
    ∃ reply, Policy.predict other tracker domain interpreter = .ok reply ∧ reply.scores = []
  unoffered : ∀ other ∈ ensemble.policies, (Policy.capabilities other).fallback = none

theorem SpeaksAlone.exists_outcomes
    (h : ensemble.SpeaksAlone tracker domain interpreter index policy answer) :
    ∃ answers : List Prediction,
      ensemble.outcomes tracker domain interpreter = answers.map .ok ∧
      answers[index]? = some answer ∧
      ∀ i, i ≠ index → ∀ reply, answers[i]? = some reply → reply.scores = [] := by
  have hpolicies : ∀ other ∈ ensemble.policies,
      ∃ reply, Policy.predict other tracker domain interpreter = .ok reply ∧ True := by
    intro other hmem
    obtain ⟨i, hi⟩ := List.getElem?_of_mem hmem
    by_cases hindex : i = index
    · rw [hindex, h.at_index] at hi
      cases hi
      exact ⟨answer, h.answers, trivial⟩
    · obtain ⟨reply, hreply, _⟩ := h.others i hindex other hi
      exact ⟨reply, hreply, trivial⟩
  obtain ⟨answers, hanswers, _⟩ := exists_map_eq_ok hpolicies
  refine ⟨answers, hanswers, (getElem?_answers hanswers).2 ⟨policy, h.at_index, h.answers⟩, ?_⟩
  intro i hindex reply hreply
  obtain ⟨other, hother, hok⟩ := (getElem?_answers hanswers).1 hreply
  obtain ⟨silent, hsilent, hscores⟩ := h.others i hindex other hother
  cases hsilent.symm.trans hok
  exact hscores

theorem eq_of_eligible {answers : List Prediction} (hat : ensemble.policies[index]? = some policy)
    (hanswer : answers[index]? = some answer)
    (hothers : ∀ i, i ≠ index → ∀ reply, answers[i]? = some reply → reply.scores = [])
    {suppressed : Option Nat} {i : Nat} {entry : Prediction}
    (hentry : (ensemble.contestants tracker domain answers)[i]? = some entry)
    (heligible : entry.Eligible suppressed) :
    i = index ∧
      entry = silence tracker domain (signed (label index (Policy.typeName policy), policy) answer) := by
  obtain ⟨other, reply, hother, hreply, rfl⟩ := getElem?_contestants.1 hentry
  by_cases hindex : i = index
  · rw [hindex] at hother hreply
    cases hat.symm.trans hother
    cases hanswer.symm.trans hreply
    rw [hindex]
    exact ⟨rfl, rfl⟩
  · have hscores := heligible.scores_ne_nil
    rw [← List.length_pos_iff, length_scores_silence] at hscores
    exact absurd (hothers i hindex reply hreply) (List.length_pos_iff.1 hscores)

theorem winner_contest {answers : List Prediction} (hat : ensemble.policies[index]? = some policy)
    (hanswer : answers[index]? = some answer)
    (hothers : ∀ i, i ≠ index → ∀ reply, answers[i]? = some reply → reply.scores = [])
    {winner : Prediction} : (ensemble.contest tracker domain answers).winner = some winner ↔
      winner.Eligible (suppressedAction tracker domain) ∧ winner =
        silence tracker domain (signed (label index (Policy.typeName policy), policy) answer) := by
  have hat' : (ensemble.contestants tracker domain answers)[index]? =
      some (silence tracker domain
        (signed (label index (Policy.typeName policy), policy) answer)) :=
    getElem?_contestants.2 ⟨policy, answer, hat, hanswer, rfl⟩
  refine Iff.trans Prediction.pick_eq_some_iff ?_
  constructor
  · rintro ⟨i, hleads⟩
    exact ⟨hleads.eligible, (eq_of_eligible hat hanswer hothers hleads.at_index hleads.eligible).2⟩
  · rintro ⟨heligible, rfl⟩
    refine ⟨index, hat', heligible, ?_, ?_⟩
    · intro entry hmem hentry
      obtain ⟨i, hi⟩ := List.getElem?_of_mem hmem
      rw [(eq_of_eligible hat hanswer hothers hi hentry).2]
      exact Rank.below_irrefl _
    · intro i hi entry hentry hentry'
      have hindex := (eq_of_eligible hat hanswer hothers hentry hentry').1
      omega

theorem SpeaksAlone.exists_predict
    (h : ensemble.SpeaksAlone tracker domain interpreter index policy answer)
    (hrejected : tracker.rejectedAction = none) :
    ∃ result, ensemble.predict tracker domain interpreter = .ok result ∧
      (answer.Eligible (suppressedAction tracker domain) → result.scores = answer.scores ∧
        result.policyName = some (label index (Policy.typeName policy))) ∧
      (¬ answer.Eligible (suppressedAction tracker domain) →
        result.scores = [] ∧ result.policyName = none) := by
  obtain ⟨answers, hanswers, hanswer, hothers⟩ := h.exists_outcomes
  have hfits : ∀ reply ∈ answers, Fits domain reply := by
    intro reply hmem
    obtain ⟨i, hi⟩ := List.getElem?_of_mem hmem
    by_cases hindex : i = index
    · rw [hindex, hanswer] at hi
      cases hi
      exact h.fits
    · exact Or.inl (hothers i hindex reply hi)
  have hstays : ensemble.applyFallback tracker domain (ensemble.contest tracker domain answers) =
      .ok (ensemble.contest tracker domain answers) := by
    unfold applyFallback
    rw [fallback?_of_unoffered h.unoffered]
  have hwins {winner : Prediction} : (ensemble.contest tracker domain answers).winner =
      some winner ↔ winner.Eligible (suppressedAction tracker domain) ∧
        winner = signed (label index (Policy.typeName policy), policy) answer := by
    rw [winner_contest h.at_index hanswer hothers]
    unfold silence
    rw [hrejected]
    rfl
  have hsigned :
      (signed (label index (Policy.typeName policy), policy) answer).Eligible
          (suppressedAction tracker domain) ↔
        answer.Eligible (suppressedAction tracker domain) := Prediction.Eligible.congr rfl
  refine ⟨_, predict_eq_ok_iff.2 ⟨answers, _, hanswers, hfits, hstays, rfl⟩, ?_, ?_⟩
  · intro heligible
    rw [markFeaturization_eq,
      Decision.result_of_some (hwins.2 ⟨hsigned.2 heligible, rfl⟩)]
    exact ⟨rfl, rfl⟩
  · intro hweak
    have hnone : (ensemble.contest tracker domain answers).winner = none := by
      cases hwinner : (ensemble.contest tracker domain answers).winner with
      | none => rfl
      | some winner =>
        obtain ⟨heligible, rfl⟩ := hwins.1 hwinner
        exact absurd (hsigned.1 heligible) hweak
    rw [markFeaturization_eq, Decision.result_of_none hnone]
    exact ⟨rfl, rfl⟩

end

/-! ### Training -/

section

variable {π : Type} [Policy π] {trackers : List Tracker} {domain : Domain}
  {interpreter : Interpreter}

theorem trainAll_eq_ok {policies after : List π} {noticed : List Warning}
    (h : trainAll trackers domain interpreter policies = (after, .ok noticed)) :
    ∃ outcomes : List (π × List Warning),
      policies.map (Policy.train · trackers domain interpreter) = outcomes.map .ok ∧
        after = outcomes.map Prod.fst := by
  induction policies generalizing after noticed with
  | nil =>
    cases h
    exact ⟨[], rfl, rfl⟩
  | cons policy policies ih =>
    rw [trainAll] at h
    cases htrain : Policy.train policy trackers domain interpreter with
    | error error =>
      rw [htrain] at h
      cases h
    | ok outcome =>
      cases hothers : trainAll trackers domain interpreter policies with
      | mk others result =>
        rw [htrain, hothers] at h
        obtain ⟨rfl, hresult⟩ := Prod.mk.inj h
        obtain ⟨_, rfl, _⟩ := map_eq_ok_iff.1 hresult
        obtain ⟨outcomes, houtcomes, rfl⟩ := ih hothers
        exact ⟨outcome :: outcomes, by rw [List.map_cons, htrain, houtcomes, List.map_cons], rfl⟩

theorem getElem?_train {ensemble trained : Ensemble π} {now : Timestamp} {noticed : List Warning}
    (h : ensemble.train now trackers domain interpreter = (trained, .ok noticed)) {i : Nat}
    {after : π} : trained.policies[i]? = some after ↔
      ∃ policy warnings, ensemble.policies[i]? = some policy ∧
        Policy.train policy trackers domain interpreter = .ok (after, warnings) := by
  unfold train at h
  cases hall : trainAll trackers domain interpreter ensemble.policies with
  | mk policies result =>
    rw [hall] at h
    cases result with
    | error error => cases h
    | ok warnings =>
      cases h
      obtain ⟨outcomes, houtcomes, rfl⟩ := trainAll_eq_ok hall
      have hindex := congrArg (·[i]?) houtcomes
      simp only [List.getElem?_map] at hindex ⊢
      constructor
      · intro hafter
        obtain ⟨⟨_, warnings⟩, houtcome, rfl⟩ := Option.map_eq_some_iff.1 hafter
        rw [houtcome] at hindex
        obtain ⟨policy, hpolicy, htrain⟩ := Option.map_eq_some_iff.1 hindex
        exact ⟨policy, warnings, hpolicy, htrain⟩
      · rintro ⟨policy, warnings, hpolicy, htrain⟩
        rw [hpolicy, Option.map_some, htrain] at hindex
        obtain ⟨outcome, houtcome, heq⟩ := Option.map_eq_some_iff.1 hindex.symm
        cases heq
        rw [houtcome]
        rfl

end

/-! ### Replay -/

variable {ensemble trained : Ensemble BuiltinPolicy} {index : Nat} {policy : MemoizationPolicy}
  {trackers : List Tracker} {story : Tracker} {before : List Event} {action sender : String}
  {domain : Domain} {interpreter : Interpreter} {now : Timestamp} {noticed : List Warning}

/-- One policy remembers windows. All others learn rules or look out for unlikely intents. -/
structure Memorizes (ensemble : Ensemble BuiltinPolicy) (index : Nat) (policy : MemoizationPolicy) :
    Prop where
  at_index : ensemble.policies[index]? = some (.memoization policy)
  looksBack : policy.memory.maxHistory ≠ 0
  others : ∀ i, i ≠ index → ∀ other, ensemble.policies[i]? = some other →
    (∃ rule, other = .rule rule) ∨ ∃ watch, other = .unexpectedIntent watch

/-- Stories to learn from: no action refuses to run, no two unlikely intents are found in a row, and
the domain has all actions. -/
structure Rehearsed (domain : Domain) (trackers : List Tracker) : Prop where
  isStory : ∀ story ∈ trackers, story.isRule = false
  unrejected : ∀ story ∈ trackers, ∀ name policy confidence,
    .actionRejected name policy confidence ∉ story.events
  moves : ∀ story ∈ trackers, ∀ before, story.Takes before unlikelyIntentAction →
    (Tracker.ofEvents story.sender before).latestAction ≠ some unlikelyIntentAction
  known : ∀ story ∈ trackers, ∀ before action, story.Takes before action →
    domain.hasAction action = true

/-- Some story takes another action after the same window. -/
def Disputed (memory : Memory) (trackers : List Tracker) (domain : Domain)
    (interpreter : Interpreter) (before : List Event) (action : String) : Prop :=
  ∃ story ∈ trackers, ∃ earlier other, story.Takes earlier other ∧ other ≠ action ∧
    memory.windowAfter domain interpreter before = memory.windowAfter domain interpreter earlier

def rehearse (policy : MemoizationPolicy) (trackers : List Tracker) (domain : Domain)
    (interpreter : Interpreter) : MemoizationPolicy :=
  { policy with memory := (policy.memory.train false trackers domain interpreter).1 }

section

variable (hlooks : policy.memory.maxHistory ≠ 0) (hstories : Rehearsed domain trackers)
  (hstory : story ∈ trackers) (htakes : story.Takes before action)
include hlooks hstories hstory htakes

theorem recallAfter_of_undisputed
    (h : ¬ Disputed policy.memory trackers domain interpreter before action) :
    (rehearse policy trackers domain interpreter).memory.recallAfter domain interpreter before =
      some action := by
  refine (Memory.recallAfter_train hlooks).2 ?_
  rw [stories_eq_self hstories.isStory]
  refine ⟨⟨story, hstory, before, htakes, rfl⟩, ?_⟩
  intro rival hrival earlier other hother hwindow
  by_contra hne
  exact h ⟨rival, hrival, earlier, other, hother, hne, hwindow⟩

theorem recallAfter_of_disputed
    (h : Disputed policy.memory trackers domain interpreter before action) :
    (rehearse policy trackers domain interpreter).memory.recallAfter domain interpreter before =
      none := by
  obtain ⟨rival, hrival, earlier, other, hother, hne, hwindow⟩ := h
  cases hrecall : (rehearse policy trackers domain interpreter).memory.recallAfter domain
      interpreter before with
  | none => rfl
  | some recalled =>
    -- What is recalled is what every story does there, and two of them do different things.
    obtain ⟨_, hall⟩ := (Memory.recallAfter_train hlooks).1 hrecall
    rw [stories_eq_self hstories.isStory] at hall
    have haction := hall story hstory before action htakes rfl
    exact absurd ((hall rival hrival earlier other hother hwindow).trans haction.symm) hne

end

theorem predict_eq_predictRecalled (policy : MemoizationPolicy) (sender : String)
    (before : List Event) : policy.predict (.ofEvents sender before) domain interpreter =
      Memory.predictRecalled domain policy.priority
        ((policy.memory.recallAfter domain interpreter before).map (·,
          policy.memory.longest (History.ofEvents domain interpreter before).states)) := rfl

theorem scores_predictRecalled {at' turns : Nat} {priority : Int32}
    (h : domain.index? action = some at') :
    (Memory.predictRecalled domain priority (some (action, turns))).scores =
      Prediction.oneHot domain.size at' 1.0 := by
  rw [Memory.predictRecalled_of_index h]

theorem rejectedAction_eq_none (hstories : Rehearsed domain trackers) (hstory : story ∈ trackers)
    (htakes : story.Takes before action) (sender : String) :
    (Tracker.ofEvents sender before).rejectedAction = none := by
  cases hrejected : (Tracker.ofEvents sender before).rejectedAction with
  | none => rfl
  | some name =>
    obtain ⟨first, policy, confidence, last, hevents, _⟩ :=
      Tracker.rejectedAction_eq_some_iff.1 hrejected
    obtain ⟨event, after, hstory', _⟩ := htakes
    have hmem : Event.actionRejected name policy confidence ∈ story.events := by
      have hbefore : before = _ := hevents
      rw [hstory', hbefore]
      simp
    exact absurd hmem (hstories.unrejected story hstory name policy confidence)

theorem Memorizes.policies_train (h : ensemble.Memorizes index policy)
    (htrain : ensemble.train now trackers domain interpreter = (trained, .ok noticed)) :
    trained.policies[index]? =
      some (.memoization (rehearse policy trackers domain interpreter)) ∧
    ∀ i, i ≠ index → ∀ other, trained.policies[i]? = some other →
      (∃ rule : RulePolicy, other = .rule (rule.train trackers domain interpreter).1) ∨
        ∃ watch : UnexpectedIntentPolicy,
          other = .unexpectedIntent (watch.train trackers interpreter) := by
  constructor
  · exact (Ensemble.getElem?_train htrain).2 ⟨.memoization policy, _, h.at_index, rfl⟩
  · intro i hi other hother
    obtain ⟨untrained, warnings, huntrained, hafter⟩ := (Ensemble.getElem?_train htrain).1 hother
    rcases h.others i hi untrained huntrained with ⟨rule, rfl⟩ | ⟨watch, rfl⟩
    · cases hafter
      exact Or.inl ⟨rule, rfl⟩
    · cases hafter
      exact Or.inr ⟨watch, rfl⟩

theorem speaksAlone_train (h : ensemble.Memorizes index policy)
    (hstories : Rehearsed domain trackers)
    (htrain : ensemble.train now trackers domain interpreter = (trained, .ok noticed))
    (hstory : story ∈ trackers) (htakes : story.Takes before action) (sender : String) :
    trained.SpeaksAlone (.ofEvents sender before) domain interpreter index
      (.memoization (rehearse policy trackers domain interpreter))
      ((rehearse policy trackers domain interpreter).predict (.ofEvents sender before) domain
        interpreter) := by
  obtain ⟨hat, hothers⟩ := h.policies_train htrain
  refine ⟨hat, rfl, fits_of_plain (Memory.plain_predictRecalled domain _ _), ?_, ?_⟩
  · intro i hi other hother
    rcases hothers i hi other hother with ⟨rule, rfl⟩ | ⟨watch, rfl⟩
    · refine ⟨_, rfl, ?_⟩
      rw [RulePolicy.predict_of_unlearned (RulePolicy.learned_train hstories.isStory rule)]
      rfl
    · have hbefore : before <+: story.events := by
        obtain ⟨event, after, hevents, _⟩ := htakes
        exact ⟨event :: after, hevents.symm⟩
      have hstory' : story ∈ stories trackers := by
        rwa [stories_eq_self hstories.isStory]
      have hpredict : (watch.train trackers interpreter).predict (.ofEvents sender before) domain
          interpreter = .ok (.abstain watch.priority) :=
        UnexpectedIntentPolicy.predict_train hstory' hbefore watch sender
      exact ⟨_, congrArg (Except.mapError _) hpredict, rfl⟩
  · intro other hmem
    obtain ⟨i, hi⟩ := List.getElem?_of_mem hmem
    by_cases hindex : i = index
    · rw [hindex, hat] at hi
      cases hi
      rfl
    · rcases hothers i hindex other hi with ⟨rule, rfl⟩ | ⟨watch, rfl⟩ <;> rfl

theorem not_suppressed_of_takes (hstories : Rehearsed domain trackers) (hstory : story ∈ trackers)
    (htakes : story.Takes before action) {at' : Nat} (hat : domain.index? action = some at')
    (sender : String) : ∀ i, suppressedAction (.ofEvents sender before) domain = some i →
      i < domain.size ∧ i ≠ at' := by
  intro i hi
  unfold suppressedAction at hi
  split at hi
  · rename_i hlatest
    refine ⟨Domain.index?_lt hi, ?_⟩
    rintro rfl
    obtain rfl := (Domain.eq_iff_index_eq hat hi).2 rfl
    exact hstories.moves story hstory before htakes hlatest
  · cases hi

/-- A trained ensemble follows its stories: wherever one of them takes an action, the ensemble is
sure of that action, unless another one takes a different action after the same window; then it does
not predict anything. -/
theorem replays_stories (h : ensemble.Memorizes index policy) (hstories : Rehearsed domain trackers)
    (now : Timestamp) (interpreter : Interpreter) :
    ∃ trained noticed,
      ensemble.train now trackers domain interpreter = (trained, .ok noticed) ∧
      ∀ story ∈ trackers, ∀ before action, story.Takes before action → ∀ sender, ∃ result,
        trained.predict (.ofEvents sender before) domain interpreter = .ok result ∧
        (¬ Disputed policy.memory trackers domain interpreter before action →
          ∃ at', domain.index? action = some at' ∧
            result.scores = Prediction.oneHot domain.size at' 1.0 ∧
            result.policyName = some (label index MemoizationPolicy.typeName)) ∧
        (Disputed policy.memory trackers domain interpreter before action →
          result.isAbstention = true ∧ result.policyName = none) := by
  obtain ⟨trained, noticed, htrain, _⟩ := exists_train ensemble now trackers domain interpreter
  refine ⟨trained, noticed, htrain, ?_⟩
  intro story hstory before action htakes sender
  have halone := speaksAlone_train h hstories htrain hstory htakes sender
  obtain ⟨result, hresult, hstrong, hweak⟩ :=
    halone.exists_predict (rejectedAction_eq_none hstories hstory htakes sender)
  refine ⟨result, hresult, ?_, ?_⟩
  · intro hagreed
    obtain ⟨at', hat⟩ := Domain.hasAction_iff.1 (hstories.known story hstory before action htakes)
    have hscores : ((rehearse policy trackers domain interpreter).predict (.ofEvents sender before)
        domain interpreter).scores = Prediction.oneHot domain.size at' 1.0 := by
      rw [predict_eq_predictRecalled,
        recallAfter_of_undisputed h.looksBack hstories hstory htakes hagreed]
      exact scores_predictRecalled hat
    have heligible := Prediction.eligible_of_oneHot (Domain.index?_lt hat) hscores
      (not_suppressed_of_takes hstories hstory htakes hat sender)
    obtain ⟨hresult, hname⟩ := hstrong heligible
    exact ⟨at', hat, hresult.trans hscores, hname⟩
  · intro hdisputed
    have hscores : ((rehearse policy trackers domain interpreter).predict (.ofEvents sender before)
        domain interpreter).scores = [] := by
      rw [predict_eq_predictRecalled,
        recallAfter_of_disputed h.looksBack hstories hstory htakes hdisputed]
      rfl
    obtain ⟨hnone, hname⟩ := hweak fun heligible => heligible.scores_ne_nil hscores
    exact ⟨List.isEmpty_iff.2 hnone, hname⟩

def follower : Ensemble BuiltinPolicy where
  policies := [.rule .default, .memoization .default, .unexpectedIntent .default]

theorem takes_greeting {before : List Event} {action : String} (h : greeting.Takes before action) :
    before = [] ∧ action = listenAction ∨
      before = greeting.events.take 2 ∧ action = "utter_greet" ∨
      before = greeting.events.take 3 ∧ action = listenAction := by
  obtain ⟨event, after, hevents, haction⟩ := h
  have htake : before = greeting.events.take before.length := by rw [hevents, List.take_left]
  have hat : greeting.events[before.length]? = some event := by
    rw [hevents, List.getElem?_append_right (Nat.le_refl _), Nat.sub_self]
    rfl
  generalize before.length = n at htake hat
  match n with
  | 0 =>
    cases hat
    cases haction
    exact Or.inl ⟨htake, rfl⟩
  | 1 =>
    cases hat
    cases haction
  | 2 =>
    cases hat
    cases haction
    exact Or.inr (Or.inl ⟨htake, rfl⟩)
  | 3 =>
    cases hat
    cases haction
    exact Or.inr (Or.inr ⟨htake, rfl⟩)
  | _ + 4 => cases hat

theorem rehearsed_greeting : Rehearsed greetingDomain [greeting] := by
  constructor
  · intro story hstory
    rw [List.mem_singleton.1 hstory]
    rfl
  · intro story hstory name policy confidence hmem
    rw [List.mem_singleton.1 hstory] at hmem
    simp [greeting, Tracker.ofEvents, Event.executed, Event.uttered] at hmem
  · intro story hstory before htakes
    rw [List.mem_singleton.1 hstory] at htakes
    rcases takes_greeting htakes with ⟨_, h⟩ | ⟨_, h⟩ | ⟨_, h⟩ <;> exact absurd h (by decide)
  · intro story hstory before action htakes
    rw [List.mem_singleton.1 hstory] at htakes
    rcases takes_greeting htakes with ⟨_, rfl⟩ | ⟨_, rfl⟩ | ⟨_, rfl⟩ <;> decide

theorem undisputed_greeting : ¬ Disputed MemoizationPolicy.default.memory [greeting] greetingDomain
    .ofMessages (greeting.events.take 2) "utter_greet" := by
  rintro ⟨story, hstory, earlier, other, htakes, hne, hwindow⟩
  rw [List.mem_singleton.1 hstory] at htakes
  rcases takes_greeting htakes with ⟨rfl, _⟩ | ⟨_, rfl⟩ | ⟨rfl, _⟩
  · exact absurd hwindow (by decide +kernel)
  · exact hne rfl
  · exact absurd hwindow (by decide +kernel)

theorem replays_greeting : follower.Memorizes 1 .default ∧ Rehearsed greetingDomain [greeting] ∧
    ∃ trained noticed,
      follower.train ⟨2024, 1, 1, 0, 0, 0, 0⟩ [greeting] greetingDomain .ofMessages =
        (trained, .ok noticed) ∧
      ∃ result, trained.predict (.ofEvents "user" (greeting.events.take 2)) greetingDomain
          .ofMessages = .ok result ∧
        result.scores = Prediction.oneHot 12 11 1.0 ∧
        result.policyName = some "policy_1_MemoizationPolicy" := by
  have hmemorizes : follower.Memorizes 1 .default := by
    refine ⟨rfl, by decide, fun i hi other hother => ?_⟩
    match i with
    | 0 =>
      cases hother
      exact Or.inl ⟨_, rfl⟩
    | 1 => exact absurd rfl hi
    | 2 =>
      cases hother
      exact Or.inr ⟨_, rfl⟩
    | _ + 3 => cases hother
  obtain ⟨trained, noticed, htrain, hreplay⟩ :=
    replays_stories hmemorizes rehearsed_greeting ⟨2024, 1, 1, 0, 0, 0, 0⟩ .ofMessages
  obtain ⟨result, hresult, hagreed, -⟩ := hreplay greeting List.mem_cons_self
    (greeting.events.take 2) "utter_greet" ⟨_, _, rfl, rfl⟩ "user"
  obtain ⟨at', hat, hscores, hname⟩ := hagreed undisputed_greeting
  cases hat.symm.trans (show greetingDomain.index? "utter_greet" = some 11 by decide)
  exact ⟨hmemorizes, rehearsed_greeting, trained, noticed, htrain, result, hresult, hscores, hname⟩

end Ensemble

end Dialogue
