import Dialogue.Policy.Rule
import Dialogue.Proofs.StoryContexts
import Mathlib.Data.List.Nodup

/-!
Each position of a conversation that stands for rules yields a rule: the states from the first turn
up to there are its conditions. The rules are learned once each, in the order in which they first
come up.
-/
namespace Dialogue

variable {domain : Domain} {interpreter : Interpreter} {trackers : List Tracker}
  {conditions : List TurnState} {action : String} {history : History} {rule : Rule}
  {place : Nat × Nat} {i : Nat}

theorem pairwise_zipIdx {α : Type} (items : List α) (start : Nat) :
    (items.zipIdx start).Pairwise fun a b => a.2 < b.2 := by
  apply List.pairwise_map.1
  rw [List.zipIdx_map_snd]
  exact List.pairwise_lt_range' 1

theorem one_lt_length_iff {α : Type} {items : List α} {item : α} (hnodup : items.Nodup)
    (hmem : item ∈ items) : 1 < items.length ↔ ∃ other ∈ items, other ≠ item := by
  have hother : items ≠ [item] ↔ ∃ other ∈ items, other ≠ item := by
    rw [hnodup.ne_singleton_iff, or_iff_right (List.ne_nil_of_mem hmem)]
  rw [← hother]
  constructor
  · rintro hlength rfl
    exact Nat.lt_irrefl 1 hlength
  · intro hne
    by_contra hlength
    obtain ⟨only, rfl⟩ := List.length_eq_one_iff.1
      (Nat.le_antisymm (Nat.not_lt.1 hlength) (List.length_pos_of_mem hmem))
    exact hne (congrArg ([·]) (List.mem_singleton.1 hmem).symm)

namespace History

/-- Where the conditions of rules begin. The start of a conversation is no condition. -/
def firstTurn (history : History) : Nat := if history.states.head? = some {} then 1 else 0

/-- At the position the history makes a rule of the conditions and the action. -/
def YieldsAt (history : History) (i : Nat) (conditions : List TurnState) (action : String) : Prop :=
  history.firstTurn ≤ i ∧ history.actions[i]? = some action ∧
    (history.states.take (i + 1)).drop history.firstTurn = conditions

end History

def YieldedAt (trackers : List Tracker) (domain : Domain) (interpreter : Interpreter)
    (place : Nat × Nat) (conditions : List TurnState) (action : String) : Prop :=
  ∃ tracker, trackers[place.1]? = some tracker ∧ tracker.isRule = true ∧
    (tracker.history domain interpreter).YieldsAt place.2 conditions action

/-- Some conversation makes a rule of the conditions and the action. -/
def Yielded (trackers : List Tracker) (domain : Domain) (interpreter : Interpreter)
    (conditions : List TurnState) (action : String) : Prop :=
  ∃ tracker ∈ trackers, tracker.isRule = true ∧
    ∃ i, (tracker.history domain interpreter).YieldsAt i conditions action

theorem yielded_iff : Yielded trackers domain interpreter conditions action ↔
    ∃ place, YieldedAt trackers domain interpreter place conditions action := by
  unfold Yielded YieldedAt
  constructor
  · rintro ⟨tracker, hmem, hrule, i, hyields⟩
    obtain ⟨t, ht⟩ := List.getElem?_of_mem hmem
    exact ⟨(t, i), tracker, ht, hrule, hyields⟩
  · rintro ⟨⟨t, i⟩, tracker, ht, hrule, hyields⟩
    exact ⟨tracker, List.mem_of_getElem? ht, hrule, i, hyields⟩

namespace Rule

/-! ### Places of rules -/

theorem firstTurn_eq (history : History) :
    (if history.states.head?.any TurnState.isStart then 1 else 0) = history.firstTurn := by
  unfold History.firstTurn
  cases history.states.head? with
  | none => rfl
  | some state => simp [TurnState.isStart]

theorem getElem?_ofHistory (history : History) (i : Nat) : (ofHistory history)[i]? =
    history.actions[history.firstTurn + i]?.map fun action =>
      ⟨(history.states.take (history.firstTurn + i + 1)).drop history.firstTurn, action, false⟩ := by
  unfold ofHistory
  dsimp only
  rw [firstTurn_eq, List.getElem?_map, List.getElem?_drop, History.getElem?_contexts, Option.map_map]
  rfl

def placed (history : History) : List (Rule × Nat) :=
  (ofHistory history).zipIdx history.firstTurn

theorem mem_placed : (rule, i) ∈ placed history ↔
    history.YieldsAt i rule.conditions rule.action ∧ rule.inStories = false := by
  unfold placed History.YieldsAt
  rw [List.mk_mem_zipIdx_iff_le_and_getElem?_sub, getElem?_ofHistory]
  constructor
  · rintro ⟨hfirst, hat⟩
    rw [Nat.add_sub_cancel' hfirst] at hat
    obtain ⟨action, haction, rfl⟩ := Option.map_eq_some_iff.1 hat
    exact ⟨⟨hfirst, haction, rfl⟩, rfl⟩
  · rintro ⟨⟨hfirst, haction, hconditions⟩, hstories⟩
    refine ⟨hfirst, ?_⟩
    rw [Nat.add_sub_cancel' hfirst, haction, Option.map_some, hconditions, ← hstories]

def allPlaced (trackers : List Tracker) (domain : Domain) (interpreter : Interpreter) :
    List ((Nat × Nat) × Rule) :=
  (trackers.zipIdx.filter (·.1.isRule)).flatMap fun (tracker, t) =>
    (placed (tracker.history domain interpreter)).map fun (rule, i) => ((t, i), rule)

theorem mem_allPlaced : (place, rule) ∈ allPlaced trackers domain interpreter ↔
    YieldedAt trackers domain interpreter place rule.conditions rule.action ∧
      rule.inStories = false := by
  obtain ⟨t, i⟩ := place
  unfold allPlaced YieldedAt
  simp only [List.mem_flatMap, List.mem_filter, List.mem_map, Prod.exists, Prod.mk.injEq,
    List.mk_mem_zipIdx_iff_getElem?]
  constructor
  · rintro ⟨tracker, _, ⟨ht, hrule⟩, _, _, hmem, ⟨rfl, rfl⟩, rfl⟩
    obtain ⟨hyields, hstories⟩ := mem_placed.1 hmem
    exact ⟨⟨tracker, ht, hrule, hyields⟩, hstories⟩
  · rintro ⟨⟨tracker, ht, hrule, hyields⟩, hstories⟩
    exact ⟨tracker, t, ⟨ht, hrule⟩, rule, i, mem_placed.2 ⟨hyields, hstories⟩, ⟨rfl, rfl⟩, rfl⟩

theorem map_snd_allPlaced : (allPlaced trackers domain interpreter).map Prod.snd =
    (rules trackers).flatMap fun tracker => ofHistory (tracker.history domain interpreter) := by
  have hrules : rules trackers = (trackers.zipIdx.filter (·.1.isRule)).map Prod.fst := by
    unfold rules
    conv_lhs => rw [← List.zipIdx_map_fst 0 trackers, List.filter_map]
    rfl
  unfold allPlaced placed
  rw [hrules, List.flatMap_map, List.map_flatMap]
  refine congrArg (List.flatMap · _) (funext fun (tracker, t) => ?_)
  rw [List.map_map]
  exact List.zipIdx_map_fst _ _

/-- The places increase: by conversation, and by position within one. -/
theorem pairwise_allPlaced : (allPlaced trackers domain interpreter).Pairwise fun a b =>
    Prod.Lex (· < ·) (· < ·) a.1 b.1 := by
  unfold allPlaced
  rw [List.pairwise_flatMap]
  constructor
  · rintro ⟨tracker, t⟩ _
    refine List.pairwise_map.2 ((pairwise_zipIdx _ _).imp fun {a b} hlt => ?_)
    exact Prod.Lex.right t hlt
  · refine ((pairwise_zipIdx trackers 0).filter _).imp fun {a b} hlt x hx y hy => ?_
    obtain ⟨_, _, rfl⟩ := List.mem_map.1 hx
    obtain ⟨_, _, rfl⟩ := List.mem_map.1 hy
    exact Prod.Lex.left _ _ hlt

theorem learn_eq : learn trackers domain interpreter =
    distinct ((allPlaced trackers domain interpreter).map Prod.snd) := by
  rw [map_snd_allPlaced]
  rfl

theorem mem_learn : rule ∈ learn trackers domain interpreter ↔
    Yielded trackers domain interpreter rule.conditions rule.action ∧ rule.inStories = false := by
  rw [learn_eq, mem_distinct, List.mem_map, yielded_iff]
  constructor
  · rintro ⟨⟨place, _⟩, hmem, rfl⟩
    obtain ⟨hyielded, hstories⟩ := mem_allPlaced.1 hmem
    exact ⟨⟨place, hyielded⟩, hstories⟩
  · rintro ⟨⟨place, hyielded⟩, hstories⟩
    exact ⟨(place, rule), mem_allPlaced.2 ⟨hyielded, hstories⟩, rfl⟩

def Before (trackers : List Tracker) (domain : Domain) (interpreter : Interpreter)
    (earlier later : Rule) : Prop :=
  ∃ place, YieldedAt trackers domain interpreter place earlier.conditions earlier.action ∧
    ∀ other, YieldedAt trackers domain interpreter other later.conditions later.action →
      Prod.Lex (· < ·) (· < ·) place other

theorem pairwise_learn : (learn trackers domain interpreter).Pairwise
    (Before trackers domain interpreter) := by
  rw [learn_eq]
  refine (pairwise_distinct pairwise_allPlaced).imp_of_mem fun {a b} _ hb hab => ?_
  obtain ⟨place, hplace, hlater⟩ := hab
  rw [← learn_eq] at hb
  refine ⟨place, (mem_allPlaced.1 hplace).1, fun other hother => ?_⟩
  exact hlater other (mem_allPlaced.2 ⟨hother, (mem_learn.1 hb).2⟩)

/-! ### Stories -/

theorem occursIn_iff : rule.occursIn history = true ↔
    ∃ i, history.LeadsAt i rule.conditions rule.action := by
  unfold occursIn History.LeadsAt
  simp only [List.any_eq_true, Prod.exists, Bool.and_eq_true, beq_iff_eq, decide_eq_true_eq,
    History.mem_contexts_iff, suffix_iff_lastOf]
  constructor
  · rintro ⟨_, _, ⟨i, haction, rfl⟩, ⟨rfl, hlength⟩, hlast⟩
    exact ⟨i, haction, hlength, hlast⟩
  · rintro ⟨i, haction, hlength, hlast⟩
    exact ⟨_, _, ⟨i, haction, rfl⟩, ⟨rfl, hlength⟩, hlast⟩

theorem inStories_markStories (h : rule.inStories = false) :
    (markStories ((stories trackers).map (·.history domain interpreter)) rule).inStories = true ↔
      LeadsTo trackers domain interpreter rule.conditions rule.action := by
  unfold markStories LeadsTo stories
  simp only [h, Bool.false_or, List.any_map, List.any_eq_true, List.mem_filter, Function.comp_apply,
    occursIn_iff, Bool.not_eq_true', and_assoc]

/-! ### Contradictions -/

def turn (rule : Rule) : List TurnState × String := (rule.conditions, rule.action)

theorem mem_actionsOf {known : List Rule} : action ∈ actionsOf known conditions ↔
    ∃ rule ∈ known, rule.conditions = conditions ∧ rule.action = action := by
  simp only [actionsOf, List.mem_map, List.mem_filter, beq_iff_eq, and_assoc]

theorem nodup_actionsOf {known : List Rule} (h : (known.map turn).Nodup)
    (conditions : List TurnState) : (actionsOf known conditions).Nodup := by
  refine List.Nodup.map_on (fun first hfirst second hsecond hactions => ?_) (h.of_map.filter _)
  obtain ⟨hfirst, hconditions⟩ := List.mem_filter.1 hfirst
  obtain ⟨hsecond, hconditions'⟩ := List.mem_filter.1 hsecond
  refine List.inj_on_of_nodup_map h hfirst hsecond (Prod.ext ?_ hactions)
  exact (beq_iff_eq.1 hconditions).trans (beq_iff_eq.1 hconditions').symm

theorem mem_contradictions {known : List Rule} (hnodup : (known.map turn).Nodup)
    (hmem : rule ∈ known) : rule.conditions ∈ contradictions known ↔
      ∃ other ∈ known, other.conditions = rule.conditions ∧ other.action ≠ rule.action := by
  have hlisted : rule.conditions ∈ conditionsInOrder known := by
    rw [conditionsInOrder, List.mem_mergeSort, mem_distinct]
    exact List.mem_map_of_mem hmem
  have haction : rule.action ∈ actionsOf known rule.conditions :=
    mem_actionsOf.2 ⟨rule, hmem, rfl, rfl⟩
  rw [contradictions, List.mem_filter, decide_eq_true_eq, and_iff_right hlisted,
    one_lt_length_iff (nodup_actionsOf hnodup _) haction]
  simp only [mem_actionsOf]
  constructor
  · rintro ⟨_, ⟨other, hother, hconditions, rfl⟩, hne⟩
    exact ⟨other, hother, hconditions, hne⟩
  · rintro ⟨other, hother, hconditions, hne⟩
    exact ⟨other.action, ⟨other, hother, hconditions, rfl⟩, hne⟩

/-! ### What is learned -/

def known (trackers : List Tracker) (domain : Domain) (interpreter : Interpreter) : List Rule :=
  (learn trackers domain interpreter).map
    (markStories ((stories trackers).map (·.history domain interpreter)))

theorem mem_known_iff : (∃ rule ∈ known trackers domain interpreter,
      rule.conditions = conditions ∧ rule.action = action) ↔
    Yielded trackers domain interpreter conditions action := by
  unfold known
  simp only [List.mem_map]
  constructor
  · rintro ⟨_, ⟨rule, hmem, rfl⟩, rfl, rfl⟩
    exact (mem_learn.1 hmem).1
  · intro hyielded
    exact ⟨_, ⟨⟨conditions, action, false⟩, mem_learn.2 ⟨hyielded, rfl⟩, rfl⟩, rfl, rfl⟩

theorem map_turn_known : (known trackers domain interpreter).map turn =
    (learn trackers domain interpreter).map turn := by
  unfold known
  rw [List.map_map]
  rfl

theorem nodup_known : ((known trackers domain interpreter).map turn).Nodup := by
  rw [map_turn_known]
  refine List.Nodup.map_on (fun first hfirst second hsecond hturn => ?_) (nodup_distinct _)
  obtain ⟨conditions, action, marked⟩ := first
  obtain ⟨hconditions, haction⟩ := Prod.mk.inj hturn
  have hfirst := (mem_learn.1 hfirst).2
  have hsecond := (mem_learn.1 hsecond).2
  cases second
  simp_all

theorem pairwise_known : (known trackers domain interpreter).Pairwise
    (Before trackers domain interpreter) :=
  List.pairwise_map.2 pairwise_learn

theorem inStories_known (h : rule ∈ known trackers domain interpreter) :
    rule.inStories = true ↔ LeadsTo trackers domain interpreter rule.conditions rule.action := by
  obtain ⟨_, hmem, rfl⟩ := List.mem_map.1 h
  exact inStories_markStories (mem_learn.1 hmem).2

def kept (dropsContradictions : Bool) (trackers : List Tracker) (domain : Domain)
    (interpreter : Interpreter) : List Rule :=
  if dropsContradictions then (dropContradictions (known trackers domain interpreter)).1
  else known trackers domain interpreter

theorem kept_sublist (drops : Bool) :
    (kept drops trackers domain interpreter).Sublist (known trackers domain interpreter) := by
  cases drops with
  | false => exact .refl _
  | true => exact List.filter_sublist

theorem mem_kept {drops : Bool} : rule ∈ kept drops trackers domain interpreter ↔
    rule ∈ known trackers domain interpreter ∧ (drops = true → ∀ other,
      Yielded trackers domain interpreter rule.conditions other → other = rule.action) := by
  cases drops with
  | false => simp [kept]
  | true =>
    rw [forall_prop_of_true rfl]
    show rule ∈ (known trackers domain interpreter).filter _ ↔ _
    rw [List.mem_filter, decide_eq_true_eq]
    refine and_congr_right fun hmem => ?_
    rw [mem_contradictions nodup_known hmem]
    simp only [← mem_known_iff]
    constructor
    · rintro hnone other ⟨rival, hrival, hconditions, rfl⟩
      by_contra hne
      exact hnone ⟨rival, hrival, hconditions, hne⟩
    · rintro hall ⟨rival, hrival, hconditions, hne⟩
      exact hne (hall rival.action ⟨rival, hrival, hconditions, rfl⟩)

end Rule

/-- The rules are what the conversations yield: all of it, or without the rules whose conditions
yield several actions, each once, in the order of the first places, and each marked if it is in the
stories. -/
structure LearnsRules (learned : List Rule) (dropsContradictions : Bool) (trackers : List Tracker)
    (domain : Domain) (interpreter : Interpreter) : Prop where
  mem_iff (conditions : List TurnState) (action : String) :
    (∃ rule ∈ learned, rule.conditions = conditions ∧ rule.action = action) ↔
      Yielded trackers domain interpreter conditions action ∧
        (dropsContradictions = true → ∀ other,
          Yielded trackers domain interpreter conditions other → other = action)
  nodup : (learned.map Rule.turn).Nodup
  ordered : learned.Pairwise (Rule.Before trackers domain interpreter)
  inStories_iff : ∀ rule ∈ learned, rule.inStories = true ↔
    LeadsTo trackers domain interpreter rule.conditions rule.action

theorem learnsRules_kept (drops : Bool) (trackers : List Tracker) (domain : Domain)
    (interpreter : Interpreter) :
    LearnsRules (Rule.kept drops trackers domain interpreter) drops trackers domain interpreter := by
  have hsublist : (Rule.kept drops trackers domain interpreter).Sublist
      (Rule.known trackers domain interpreter) := Rule.kept_sublist drops
  constructor
  · intro conditions action
    rw [← Rule.mem_known_iff]
    simp only [Rule.mem_kept]
    constructor
    · rintro ⟨rule, ⟨hmem, honly⟩, rfl, rfl⟩
      exact ⟨⟨rule, hmem, rfl, rfl⟩, honly⟩
    · rintro ⟨⟨rule, hmem, rfl, rfl⟩, honly⟩
      exact ⟨rule, ⟨hmem, honly⟩, rfl, rfl⟩
  · exact Rule.nodup_known.sublist (hsublist.map Rule.turn)
  · exact Rule.pairwise_known.sublist hsublist
  · exact fun rule hmem => Rule.inStories_known (Rule.mem_kept.1 hmem).1

/-- In training the policy forgets its rules and learns those of the conversations. -/
theorem RulePolicy.learns_yielded (policy : RulePolicy) (trackers : List Tracker) (domain : Domain)
    (interpreter : Interpreter) :
    ∃ trained warnings, Policy.train policy trackers domain interpreter = .ok (trained, warnings) ∧
      trained.priority = policy.priority ∧
      trained.dropsContradictions = policy.dropsContradictions ∧
      LearnsRules trained.learned policy.dropsContradictions trackers domain interpreter := by
  refine ⟨(policy.train trackers domain interpreter).1, _, rfl, rfl, rfl, ?_⟩
  have hlearned : (policy.train trackers domain interpreter).1.learned =
      Rule.kept policy.dropsContradictions trackers domain interpreter := by
    unfold train
    cases policy.dropsContradictions <;> rfl
  rw [hlearned]
  exact learnsRules_kept policy.dropsContradictions trackers domain interpreter

end Dialogue
