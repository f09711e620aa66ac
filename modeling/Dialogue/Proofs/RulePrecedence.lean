import Dialogue.Proofs.RuleChoice
import Dialogue.Proofs.RuleLearning

/-!
A rule is more special than another one if its conditions set more. The choice among the rules that
match looks at the number of conditions, and then at the order in which the conversations yield
them.
-/
namespace Dialogue

variable {domain : Domain} {interpreter : Interpreter} {trackers : List Tracker} {tracker : Tracker}
  {states : List TurnState} {condition state other : TurnState} {learned : List Rule}
  {rule special general : Rule}

namespace Rule

/-! ### Special and general rules -/

/-- There are as many conditions, each sets to the same what the one of the general rule sets, and
one of them sets something more. -/
structure Specializes (special general : Rule) : Prop where
  keeps : List.Forall₂ Met general.conditions special.conditions
  adds : ¬ List.Forall₂ Met special.conditions general.conditions

namespace Specializes

theorem length_eq (h : special.Specializes general) :
    special.conditions.length = general.conditions.length :=
  h.keeps.length_eq.symm

theorem ne (h : special.Specializes general) : special ≠ general := by
  rintro rfl
  exact h.adds h.keeps

theorem general_matches (h : special.Specializes general) (hmatches : special.Matches states) :
    general.Matches states := by
  obtain ⟨hlength, hmet⟩ := hmatches
  rw [h.length_eq] at hlength hmet
  exact ⟨hlength, forall₂_met_trans h.keeps hmet⟩

end Specializes

/-! ### The order of training -/

theorem Before.asymm (h : Before trackers domain interpreter rule general) :
    ¬ Before trackers domain interpreter general rule := by
  rintro ⟨later, hlater, hrule⟩
  obtain ⟨earlier, hearlier, hgeneral⟩ := h
  exact Std.Asymm.asymm _ _ (hgeneral later hlater) (hrule earlier hearlier)

/-- The rule matches. Of the others that match none has more conditions, and those with equally many
are yielded later. -/
structure ComesFirst (learned : List Rule) (trackers : List Tracker) (domain : Domain)
    (interpreter : Interpreter) (states : List TurnState) (rule : Rule) : Prop where
  mem : rule ∈ learned
  holds : rule.Matches states
  longest : ∀ other ∈ learned, other.Matches states →
    other.conditions.length ≤ rule.conditions.length
  earliest : ∀ other ∈ learned, other.Matches states → other ≠ rule →
    other.conditions.length = rule.conditions.length → Before trackers domain interpreter rule other

/-- Rules that are listed in the order of training: the one that decides is the one that comes
first. -/
theorem decisive_iff_comesFirst (h : learned.Pairwise (Before trackers domain interpreter)) :
    Decisive learned states rule ↔
      ComesFirst learned trackers domain interpreter states rule := by
  constructor
  · intro hdecisive
    refine ⟨hdecisive.mem, hdecisive.holds, fun other => hdecisive.length_le, ?_⟩
    obtain ⟨before, after, rfl, _, hbefore, _⟩ := hdecisive
    intro other hother hmatches hne hlength
    rcases List.mem_append.1 hother with hother | hother
    · exact absurd hlength (Nat.ne_of_lt (hbefore other hother hmatches))
    · have hafter : other ∈ after := (List.mem_cons.1 hother).resolve_left hne
      exact List.rel_of_pairwise_cons (List.pairwise_append.1 h).2.1 hafter
  · intro hfirst
    obtain ⟨before, after, rfl⟩ := List.append_of_mem hfirst.mem
    have hlongest : ∀ other ∈ after, other.Matches states →
        other.conditions.length ≤ rule.conditions.length := fun other hother =>
      hfirst.longest other (List.mem_append_right _ (List.mem_cons_of_mem _ hother))
    refine ⟨before, after, rfl, hfirst.holds, fun other hother hmatches => ?_, hlongest⟩
    -- With equally many conditions the other rule would have to be yielded later, but it is listed
    -- before.
    have hmem : other ∈ before ++ rule :: after := List.mem_append_left _ hother
    have hearlier : Before trackers domain interpreter other rule :=
      (List.pairwise_append.1 h).2.2 other hother rule List.mem_cons_self
    refine Nat.lt_of_le_of_ne (hfirst.longest other hmem hmatches) fun hlength => ?_
    have hne : other ≠ rule := by
      rintro rfl
      exact hearlier.asymm hearlier
    exact hearlier.asymm (hfirst.earliest other hmem hmatches hne hlength)

theorem kept_eq_known (drops : Bool)
    (h : ∀ rule ∈ known trackers domain interpreter, ∀ other ∈ known trackers domain interpreter,
      other.conditions = rule.conditions → other.action = rule.action) :
    kept drops trackers domain interpreter = known trackers domain interpreter := by
  cases drops with
  | false => rfl
  | true =>
    refine List.filter_eq_self.2 fun rule hmem => ?_
    rw [decide_eq_true_eq, mem_contradictions nodup_known hmem]
    rintro ⟨other, hother, hconditions, hne⟩
    exact hne (h rule hmem other hother hconditions)

end Rule

namespace RulePolicy

variable {policy : RulePolicy}

/-! ### Who makes the prediction -/

structure PredictsFrom (policy : RulePolicy) (tracker : Tracker) (domain : Domain)
    (interpreter : Interpreter) (rule : Rule) : Prop where
  decides : Rule.Decisive policy.learned (tracker.history domain interpreter).states rule
  predicts : ∃ prediction, Policy.predict policy tracker domain interpreter = .ok prediction ∧
    PredictsBy rule domain policy.priority prediction

theorem predictsFrom_iff : policy.PredictsFrom tracker domain interpreter rule ↔
    Rule.Decisive policy.learned (tracker.history domain interpreter).states rule ∧
      domain.hasAction rule.action = true := by
  constructor
  · rintro ⟨hdecides, _, _, hpredicts⟩
    obtain ⟨index, hindex, _⟩ := hpredicts.action
    exact ⟨hdecides, Domain.hasAction_iff.2 ⟨index, hindex⟩⟩
  · rintro ⟨hdecides, hknown⟩
    exact ⟨hdecides, _, rfl, predictsBy_of_known (choose_eq_some_iff.2 hdecides) hknown⟩

/-- No rule makes the prediction where a more special one matches. -/
def PrefersSpecial (policy : RulePolicy) (tracker : Tracker) (domain : Domain)
    (interpreter : Interpreter) : Prop :=
  ∀ special ∈ policy.learned, ∀ general ∈ policy.learned,
    special.Matches (tracker.history domain interpreter).states →
      general.Matches (tracker.history domain interpreter).states →
        special.Specializes general → ¬ policy.PredictsFrom tracker domain interpreter general

/-- The general rule comes first, so that it makes the prediction although the special one matches
too. -/
structure Overrides (policy : RulePolicy) (trackers : List Tracker) (tracker : Tracker)
    (domain : Domain) (interpreter : Interpreter) (general special : Rule) : Prop where
  comesFirst : Rule.ComesFirst policy.learned trackers domain interpreter
    (tracker.history domain interpreter).states general
  known : domain.hasAction general.action = true
  mem : special ∈ policy.learned
  holds : special.Matches (tracker.history domain interpreter).states
  specializes : special.Specializes general
  before : Rule.Before trackers domain interpreter general special

/-- The rule that comes first makes the prediction. So more special rules are preferred unless a
general one overrides one of them, which it does not if the special one was yielded before. -/
structure PrefersFirst (policy : RulePolicy) (trackers : List Tracker) (tracker : Tracker)
    (domain : Domain) (interpreter : Interpreter) : Prop where
  predictsFrom_iff (rule : Rule) : policy.PredictsFrom tracker domain interpreter rule ↔
    Rule.ComesFirst policy.learned trackers domain interpreter
        (tracker.history domain interpreter).states rule ∧ domain.hasAction rule.action = true
  prefersSpecial_iff : policy.PrefersSpecial tracker domain interpreter ↔
    ¬ ∃ general special, policy.Overrides trackers tracker domain interpreter general special
  of_before (special general : Rule) : special ∈ policy.learned →
    special.Matches (tracker.history domain interpreter).states → special.Specializes general →
      Rule.Before trackers domain interpreter special general →
        ¬ policy.PredictsFrom tracker domain interpreter general

theorem prefersFirst_of_ordered
    (h : policy.learned.Pairwise (Rule.Before trackers domain interpreter)) (tracker : Tracker) :
    policy.PrefersFirst trackers tracker domain interpreter := by
  have hfirst (rule : Rule) : policy.PredictsFrom tracker domain interpreter rule ↔
      Rule.ComesFirst policy.learned trackers domain interpreter
        (tracker.history domain interpreter).states rule ∧ domain.hasAction rule.action = true := by
    rw [predictsFrom_iff, Rule.decisive_iff_comesFirst h]
  refine ⟨hfirst, ?_, fun special general hmem hmatches hspecial hbefore hgeneral => ?_⟩
  · constructor
    · rintro hprefers ⟨general, special, hover⟩
      have hgeneral := (hfirst general).2 ⟨hover.comesFirst, hover.known⟩
      exact hprefers special hover.mem general hover.comesFirst.mem hover.holds
        hover.comesFirst.holds hover.specializes hgeneral
    · intro hnone special hmem general _ hmatches _ hspecial hgeneral
      obtain ⟨hcomes, hknown⟩ := (hfirst general).1 hgeneral
      exact hnone ⟨general, special, hcomes, hknown, hmem, hmatches, hspecial,
        hcomes.earliest special hmem hmatches hspecial.ne hspecial.length_eq⟩
  · obtain ⟨hcomes, _⟩ := (hfirst general).1 hgeneral
    have hlater := hcomes.earliest special hmem hmatches hspecial.ne hspecial.length_eq
    exact hlater.asymm hbefore

theorem learned_train_eq (policy : RulePolicy) :
    (policy.train trackers domain interpreter).1.learned =
      Rule.kept policy.dropsContradictions trackers domain interpreter := by
  unfold train
  cases policy.dropsContradictions <;> rfl

/-- After training the order in which the conversations yield the rules settles which of several
rules with equally many conditions makes the prediction, however much they set. -/
theorem prefersFirst_train (policy : RulePolicy) (trackers : List Tracker) (tracker : Tracker)
    (domain : Domain) (interpreter : Interpreter) :
    ∃ trained warnings, Policy.train policy trackers domain interpreter = .ok (trained, warnings) ∧
      trained.PrefersFirst trackers tracker domain interpreter := by
  refine ⟨(policy.train trackers domain interpreter).1, _, rfl, prefersFirst_of_ordered ?_ tracker⟩
  rw [learned_train_eq]
  exact (learnsRules_kept policy.dropsContradictions trackers domain interpreter).ordered

def guestDomain : Domain :=
  .ofParts ["greet"] [] [.ofType "name" .text] ["utter_greet", "utter_welcome"]

def greetsAnyone : Tracker :=
  (Tracker.ofEvents "rule" [.executed listenAction, .uttered "hi" "greet",
    .executed "utter_greet"]).asRule

def welcomesByName : Tracker :=
  (Tracker.ofEvents "rule" [.executed listenAction, .uttered "hi" "greet",
    .slotSet "name" (.str "Ada"), .executed "utter_welcome"]).asRule

def namedGuest : Tracker :=
  .ofEvents "user" [.executed listenAction, .uttered "hi" "greet", .slotSet "name" (.str "Ada")]

def greetingRule : Rule :=
  ⟨[{ prevAction := some listenAction, userIntent := some "greet" }], "utter_greet", false⟩

def welcomeRule : Rule :=
  ⟨[{ prevAction := some listenAction, userIntent := some "greet", slots := [("name", "set")] }],
    "utter_welcome", false⟩

theorem welcomeRule_specializes : welcomeRule.Specializes greetingRule := by
  constructor
  · refine .cons ?_ .nil
    rw [← Rule.conditionMet_iff]
    decide
  · intro hadds
    cases hadds with
    | cons hmet _ => exact absurd (Rule.conditionMet_iff.2 hmet) (by decide)

/-- The rule for any greeting is yielded first, and overrides the one for guests with a name. -/
theorem not_prefersSpecial_namedGuest :
    ¬ (default.train [greetsAnyone, welcomesByName] guestDomain .ofMessages).1.PrefersSpecial
      namedGuest guestDomain .ofMessages := by
  have hknown : Rule.known [greetsAnyone, welcomesByName] guestDomain .ofMessages =
      [greetingRule, welcomeRule] := by decide
  have hlearned :
      (default.train [greetsAnyone, welcomesByName] guestDomain .ofMessages).1.learned =
        [greetingRule, welcomeRule] := by
    rw [learned_train_eq, Rule.kept_eq_known _ (by rw [hknown]; decide), hknown]
  have hholds : welcomeRule.Matches (namedGuest.history guestDomain .ofMessages).states :=
    Rule.holdsAt_iff.1 (by decide)
  intro hprefers
  refine hprefers welcomeRule ?_ greetingRule ?_ hholds
    (welcomeRule_specializes.general_matches hholds) welcomeRule_specializes
    (predictsFrom_iff.2 ⟨?_, by decide⟩)
  · rw [hlearned]
    decide
  · rw [hlearned]
    decide
  · rw [← choose_eq_some_iff, choose, hlearned]
    decide

end RulePolicy

end Dialogue
