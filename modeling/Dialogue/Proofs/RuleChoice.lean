import Dialogue.Policy.Rule
import Dialogue.Proofs.OneHot
import Dialogue.Proofs.Slices
import Mathlib.Data.List.Forall2
import Mathlib.Data.List.Induction

/-!
Of the rules that match the first one with the most conditions is chosen, so nothing counts that
lies further back than the longest rule.
-/
namespace Dialogue

variable {domain : Domain} {interpreter : Interpreter} {states others : List TurnState}
  {condition state : TurnState} {learned : List Rule} {rule other last : Rule}

namespace Rule

/-! ### Matching -/

structure Met (condition state : TurnState) : Prop where
  prevAction : ∀ name, condition.prevAction = some name → state.prevAction = some name
  userIntent : ∀ name, condition.userIntent = some name → state.userIntent = some name
  userText : ∀ text, condition.userText = some text → state.userText = some text
  activeLoop : ∀ name, condition.activeLoop = some name → state.activeLoop = some name
  entities : ∀ entity ∈ condition.entities, entity ∈ state.entities
  slots : ∀ slot ∈ condition.slots, slot ∈ state.slots

theorem meets_iff {expected actual : Option String} :
    meets expected actual = true ↔ ∀ feature, expected = some feature → actual = some feature := by
  unfold meets
  cases expected with
  | none => simp
  | some feature =>
    simp only [Option.isNone_some, Bool.false_or, beq_iff_eq, Option.some.injEq]
    constructor
    · rintro rfl _ rfl
      rfl
    · exact fun h => (h feature rfl).symm

theorem conditionMet_iff : conditionMet condition state = true ↔ Met condition state := by
  unfold conditionMet
  simp only [Bool.and_eq_true, meets_iff, List.all_eq_true, List.contains_iff_mem]
  constructor
  · rintro ⟨⟨⟨⟨⟨hprev, hintent⟩, htext⟩, hloop⟩, hentities⟩, hslots⟩
    exact ⟨hprev, hintent, htext, hloop, hentities, hslots⟩
  · intro h
    exact ⟨⟨⟨⟨⟨h.prevAction, h.userIntent⟩, h.userText⟩, h.activeLoop⟩, h.entities⟩, h.slots⟩

theorem Met.refl (state : TurnState) : Met state state where
  prevAction _ hname := hname
  userIntent _ hname := hname
  userText _ htext := htext
  activeLoop _ hname := hname
  entities _ hentity := hentity
  slots _ hslot := hslot

theorem Met.trans {later : TurnState} (h : Met condition state) (hlater : Met state later) :
    Met condition later where
  prevAction name hname := hlater.prevAction name (h.prevAction name hname)
  userIntent name hname := hlater.userIntent name (h.userIntent name hname)
  userText text htext := hlater.userText text (h.userText text htext)
  activeLoop name hname := hlater.activeLoop name (h.activeLoop name hname)
  entities entity hentity := hlater.entities entity (h.entities entity hentity)
  slots slot hslot := hlater.slots slot (h.slots slot hslot)

theorem forall₂_met_trans {conditions middle : List TurnState}
    (h : List.Forall₂ Met conditions middle) (hstates : List.Forall₂ Met middle states) :
    List.Forall₂ Met conditions states := by
  induction h generalizing states with
  | nil => exact hstates
  | cons hmet _ ih =>
    cases hstates with
    | cons hstate hrest => exact .cons (hmet.trans hstate) (ih hrest)

/-- There are as many states as conditions, and the latest states meet them one by one. -/
def Matches (rule : Rule) (states : List TurnState) : Prop :=
  rule.conditions.length ≤ states.length ∧
    List.Forall₂ Met rule.conditions (lastOf rule.conditions.length states)

theorem holdsAt_iff : rule.holdsAt states = true ↔ rule.Matches states := by
  unfold holdsAt Matches
  rw [Bool.and_eq_true, decide_eq_true_eq]
  refine and_congr_right fun hlength => ?_
  rw [List.forall₂_iff_zip, and_iff_right (length_lastOf hlength).symm, List.all_eq_true]
  simp only [Prod.forall, conditionMet_iff]

theorem matches_of_suffix (h : rule.conditions <:+ states) : rule.Matches states := by
  obtain ⟨hlength, hlast⟩ := suffix_iff_lastOf.1 h
  refine ⟨hlength, ?_⟩
  rw [hlast]
  exact List.forall₂_same.2 fun state _ => .refl state

theorem matches_congr {reach : Nat} (hrule : rule.conditions.length ≤ reach)
    (hstates : reach ≤ states.length) (hothers : reach ≤ others.length)
    (h : lastOf reach states = lastOf reach others) : rule.Matches states ↔ rule.Matches others := by
  unfold Matches
  rw [← lastOf_lastOf hrule hstates, h, lastOf_lastOf hrule hothers]
  exact and_congr_left fun _ => iff_of_true (Nat.le_trans hrule hstates) (Nat.le_trans hrule hothers)

/-! ### The rule that decides -/

/-- The rule matches, has more conditions than the rules before it that match, and no fewer than
those after it. -/
def Decisive (learned : List Rule) (states : List TurnState) (rule : Rule) : Prop :=
  ∃ before after, learned = before ++ rule :: after ∧ rule.Matches states ∧
    (∀ other ∈ before, other.Matches states →
      other.conditions.length < rule.conditions.length) ∧
    ∀ other ∈ after, other.Matches states → other.conditions.length ≤ rule.conditions.length

namespace Decisive

theorem mem (h : Decisive learned states rule) : rule ∈ learned := by
  obtain ⟨before, after, rfl, _⟩ := h
  exact List.mem_append_right _ List.mem_cons_self

theorem holds (h : Decisive learned states rule) : rule.Matches states := by
  obtain ⟨_, _, _, hmatches, _⟩ := h
  exact hmatches

theorem length_le (h : Decisive learned states rule) (hmem : other ∈ learned)
    (hmatches : other.Matches states) : other.conditions.length ≤ rule.conditions.length := by
  obtain ⟨before, after, rfl, _, hbefore, hafter⟩ := h
  rcases List.mem_append.1 hmem with hmem | hmem
  · exact Nat.le_of_lt (hbefore other hmem hmatches)
  · rcases List.mem_cons.1 hmem with rfl | hmem
    · exact Nat.le_refl _
    · exact hafter other hmem hmatches

theorem concat (h : Decisive learned states rule)
    (hlast : last.Matches states → last.conditions.length ≤ rule.conditions.length) :
    Decisive (learned ++ [last]) states rule := by
  obtain ⟨before, after, rfl, hmatches, hbefore, hafter⟩ := h
  refine ⟨before, after ++ [last], by simp, hmatches, hbefore, fun other hmem => ?_⟩
  rcases List.mem_append.1 hmem with hmem | hmem
  · exact hafter other hmem
  · rw [List.mem_singleton.1 hmem]
    exact hlast

theorem of_last (hmatches : last.Matches states)
    (h : ∀ other ∈ learned, other.Matches states →
      other.conditions.length < last.conditions.length) :
    Decisive (learned ++ [last]) states last :=
  ⟨learned, [], rfl, hmatches, h, fun _ hmem => absurd hmem List.not_mem_nil⟩

theorem unique (h : Decisive learned states rule) (hother : Decisive learned states other) :
    rule = other := by
  obtain ⟨before, after, rfl, hmatches, hbefore, hafter⟩ := h
  obtain ⟨before', after', hsplit, hmatches', hbefore', hafter'⟩ := hother
  rcases List.append_eq_append_iff.1 hsplit with ⟨between, rfl, hrest⟩ | ⟨between, rfl, hrest⟩
  · cases between with
    | nil => exact (List.cons.inj hrest).1
    | cons first between =>
      obtain ⟨rfl, rfl⟩ := List.cons.inj hrest
      have hlt := hbefore' rule (List.mem_append_right _ List.mem_cons_self) hmatches
      have hle := hafter other (List.mem_append_right _ List.mem_cons_self) hmatches'
      omega
  · cases between with
    | nil => exact (List.cons.inj hrest).1.symm
    | cons first between =>
      obtain ⟨rfl, rfl⟩ := List.cons.inj hrest
      have hlt := hbefore other (List.mem_append_right _ List.mem_cons_self) hmatches'
      have hle := hafter' rule (List.mem_append_right _ List.mem_cons_self) hmatches
      omega

end Decisive

/-- No rule matches, or the rule decides. -/
def IsBest (learned : List Rule) (states : List TurnState) : Option Rule → Prop
  | none => ∀ rule ∈ learned, ¬ rule.Matches states
  | some rule => Decisive learned states rule

/-- With one more rule the best one stays, unless the new one matches and has more conditions. -/
theorem IsBest.step {best : Option Rule} (h : IsBest learned states best) (last : Rule) :
    IsBest (learned ++ [last]) states
      (if last.holdsAt states then RulePolicy.longer best last else best) := by
  by_cases hlast : last.holdsAt states = true
  · have hmatches := holdsAt_iff.1 hlast
    rw [if_pos hlast]
    cases best with
    | none => exact Decisive.of_last hmatches fun other hmem hother => absurd hother (h other hmem)
    | some best =>
      rw [RulePolicy.longer]
      split
      · rename_i hlt
        exact Decisive.of_last hmatches fun other hmem hother =>
          Nat.lt_of_le_of_lt (Decisive.length_le h hmem hother) hlt
      · rename_i hle
        exact Decisive.concat h fun _ => Nat.not_lt.1 hle
  · have hmatches : ¬ last.Matches states := fun hmatches => hlast (holdsAt_iff.2 hmatches)
    rw [if_neg hlast]
    cases best with
    | none =>
      intro rule hmem
      rcases List.mem_append.1 hmem with hmem | hmem
      · exact h rule hmem
      · rw [List.mem_singleton.1 hmem]
        exact hmatches
    | some best => exact Decisive.concat h fun hother => absurd hother hmatches

end Rule

namespace RulePolicy

variable {policy : RulePolicy} {tracker : Tracker}

theorem isBest_choose (policy : RulePolicy) (states : List TurnState) :
    Rule.IsBest policy.learned states (policy.choose states) := by
  unfold choose
  rw [List.foldl_filter]
  generalize policy.learned = learned
  induction learned using List.reverseRecOn with
  | nil => exact fun _ hmem => absurd hmem List.not_mem_nil
  | append_singleton learned last ih =>
    rw [List.foldl_append, List.foldl_cons, List.foldl_nil]
    exact ih.step last

theorem choose_eq_some_iff :
    policy.choose states = some rule ↔ Rule.Decisive policy.learned states rule := by
  have hbest := policy.isBest_choose states
  cases hchoose : policy.choose states with
  | none =>
    rw [hchoose] at hbest
    exact iff_of_false (fun h => nomatch h) fun h => hbest rule h.mem h.holds
  | some best =>
    rw [hchoose] at hbest
    rw [Option.some.injEq]
    constructor
    · rintro rfl
      exact hbest
    · exact Rule.Decisive.unique hbest

theorem choose_eq_none_iff :
    policy.choose states = none ↔ ∀ rule ∈ policy.learned, ¬ rule.Matches states := by
  have hbest := policy.isBest_choose states
  cases hchoose : policy.choose states with
  | none =>
    rw [hchoose] at hbest
    exact iff_of_true rfl hbest
  | some best =>
    rw [hchoose] at hbest
    exact iff_of_false (fun h => nomatch h) fun h =>
      h best (Rule.Decisive.mem hbest) (Rule.Decisive.holds hbest)

theorem choose_congr {reach : Nat}
    (hlearned : ∀ rule ∈ policy.learned, rule.conditions.length ≤ reach)
    (hstates : reach ≤ states.length) (hothers : reach ≤ others.length)
    (h : lastOf reach states = lastOf reach others) :
    policy.choose states = policy.choose others := by
  unfold choose
  congr 1
  apply List.filter_congr
  intro rule hmem
  rw [Bool.eq_iff_iff, Rule.holdsAt_iff, Rule.holdsAt_iff]
  exact Rule.matches_congr (hlearned rule hmem) hstates hothers h

/-! ### Predictions -/

theorem predict_of_choose_eq {first second : Tracker}
    (h : policy.choose (first.history domain interpreter).states =
      policy.choose (second.history domain interpreter).states) :
    policy.predict first domain interpreter = policy.predict second domain interpreter := by
  unfold predict
  rw [h]

/-- The prediction is full confidence in the rule's action. It says on how many turns it rests, that
it is no answer to the user if the rule's last condition is on no message, and that the turn is to be
hidden if the rule is not in the stories. -/
structure PredictsBy (rule : Rule) (domain : Domain) (priority : Int32) (prediction : Prediction) :
    Prop where
  action : ∃ index, domain.index? rule.action = some index ∧
    prediction.scores = Prediction.oneHot domain.size index 1.0
  priority : prediction.priority = priority
  isNoUser_iff : prediction.isNoUser = true ↔ ∀ last, rule.conditions.getLast? = some last →
    last.userIntent = none ∧ last.userText = none
  hideRuleTurn_iff : prediction.hideRuleTurn = true ↔ rule.inStories = false
  diagnostics : prediction.diagnostics =
    (∅ : SortedMap Json).insert "rule_turns" (.ofNat rule.conditions.length)
  nothingElse : prediction.policyName = none ∧ prediction.events = [] ∧
    prediction.optionalEvents = [] ∧ prediction.isEndToEnd = false

theorem not_dependsOnUser_iff : (!rule.dependsOnUser) = true ↔
    ∀ last, rule.conditions.getLast? = some last → last.userIntent = none ∧ last.userText = none := by
  unfold Rule.dependsOnUser TurnState.hasUserInput
  cases rule.conditions.getLast? with
  | none => simp
  | some last => simp

theorem predictsBy_of_known (h : policy.choose (tracker.history domain interpreter).states =
    some rule) (hknown : domain.hasAction rule.action = true) :
    PredictsBy rule domain policy.priority (policy.predict tracker domain interpreter) := by
  obtain ⟨index, hindex⟩ := Domain.hasAction_iff.1 hknown
  unfold predict
  rw [h]
  dsimp only
  rw [Prediction.ofAction_eq_ok_iff.2 ⟨index, hindex, rfl⟩]
  refine ⟨⟨index, hindex, rfl⟩, rfl, not_dependsOnUser_iff, ?_, rfl, rfl, rfl, rfl, rfl⟩
  show (!rule.inStories) = true ↔ _
  rw [Bool.not_eq_true']

theorem predict_of_unknown (h : policy.choose (tracker.history domain interpreter).states =
    some rule) (hunknown : domain.hasAction rule.action ≠ true) :
    policy.predict tracker domain interpreter = .abstain policy.priority := by
  unfold predict
  rw [h]
  dsimp only
  cases hprediction : Prediction.ofAction domain rule.action 1.0 with
  | error error => rfl
  | ok prediction =>
    obtain ⟨index, hindex, _⟩ := Prediction.ofAction_eq_ok_iff.1 hprediction
    exact absurd (Domain.hasAction_iff.2 ⟨index, hindex⟩) hunknown

theorem predict_of_none (h : policy.choose (tracker.history domain interpreter).states = none) :
    policy.predict tracker domain interpreter = .abstain policy.priority := by
  unfold predict
  rw [h]

theorem PredictsBy.ne_abstain {priority : Int32} {prediction : Prediction}
    (h : PredictsBy rule domain priority prediction) : prediction ≠ .abstain priority := by
  rintro rfl
  obtain ⟨index, hindex, hscores⟩ := h.action
  have habstains : Except.ok (Prediction.abstain priority) =
      (.ok (.abstain priority) : Except Error Prediction) := rfl
  exact Prediction.not_chooses_abstain habstains ⟨_, index, rfl, hindex, hscores, rfl⟩

theorem predict_eq_abstain_iff : policy.predict tracker domain interpreter =
      .abstain policy.priority ↔
    (∀ rule ∈ policy.learned, ¬ rule.Matches (tracker.history domain interpreter).states) ∨
      ∃ rule, Rule.Decisive policy.learned (tracker.history domain interpreter).states rule ∧
        domain.hasAction rule.action = false := by
  simp only [← choose_eq_some_iff, ← choose_eq_none_iff]
  constructor
  · intro habstains
    cases hchoose : policy.choose (tracker.history domain interpreter).states with
    | none => exact Or.inl rfl
    | some rule =>
      refine Or.inr ⟨rule, rfl, Bool.eq_false_iff.2 fun hknown => ?_⟩
      exact (predictsBy_of_known hchoose hknown).ne_abstain habstains
  · rintro (hnone | ⟨rule, hchoose, hunknown⟩)
    · exact predict_of_none hnone
    · exact predict_of_unknown hchoose (Bool.eq_false_iff.1 hunknown)

/-- The policy follows the rule that decides, and is silent if there is none or the domain does not
have its action. What is further back than the longest rule makes no difference. -/
structure FollowsRules (policy : RulePolicy) (tracker : Tracker) (domain : Domain)
    (interpreter : Interpreter) (states : List TurnState) : Prop where
  holdsAt_iff (rule : Rule) : rule.holdsAt states = true ↔ rule.Matches states
  decides : (∃ rule ∈ policy.learned, rule.Matches states) →
    ∃! rule, Rule.Decisive policy.learned states rule
  abstains_iff : Policy.predict policy tracker domain interpreter = .ok (.abstain policy.priority) ↔
    (∀ rule ∈ policy.learned, ¬ rule.Matches states) ∨
      ∃ rule, Rule.Decisive policy.learned states rule ∧ domain.hasAction rule.action = false
  predicts (rule : Rule) : Rule.Decisive policy.learned states rule →
    domain.hasAction rule.action = true → ∃ prediction,
      Policy.predict policy tracker domain interpreter = .ok prediction ∧
        PredictsBy rule domain policy.priority prediction
  latestOnly (other : Tracker) (reach : Nat) :
    (∀ rule ∈ policy.learned, rule.conditions.length ≤ reach) → reach ≤ states.length →
      reach ≤ (other.history domain interpreter).states.length →
        lastOf reach states = lastOf reach (other.history domain interpreter).states →
          Policy.predict policy tracker domain interpreter =
            Policy.predict policy other domain interpreter

theorem exists_decisive (h : ∃ rule ∈ policy.learned, rule.Matches states) :
    ∃! rule, Rule.Decisive policy.learned states rule := by
  cases hchoose : policy.choose states with
  | none =>
    obtain ⟨rule, hmem, hmatches⟩ := h
    exact absurd hmatches (choose_eq_none_iff.1 hchoose rule hmem)
  | some best =>
    have hbest := choose_eq_some_iff.1 hchoose
    exact ⟨best, hbest, fun rule hrule => hrule.unique hbest⟩

/-- Wherever a conversation is, the first one of the longest rules that match decides. -/
theorem follows_longest_rule (policy : RulePolicy) (tracker : Tracker) (domain : Domain)
    (interpreter : Interpreter) : policy.FollowsRules tracker domain interpreter
      (tracker.history domain interpreter).states := by
  constructor
  · exact fun rule => Rule.holdsAt_iff
  · exact exists_decisive
  · simp only [Policy.predict, Except.ok.injEq]
    exact predict_eq_abstain_iff
  · intro rule hdecisive hknown
    exact ⟨_, rfl, predictsBy_of_known (choose_eq_some_iff.2 hdecisive) hknown⟩
  · intro other reach hlearned hstates hothers hlatest
    exact congrArg Except.ok (predict_of_choose_eq (choose_congr hlearned hstates hothers hlatest))

end RulePolicy

end Dialogue
