import Dialogue.Proofs.StoryContexts
import Mathlib.Data.Set.Basic
import Mathlib.Order.Bounds.Defs

/-!
After training a memory recalls an action exactly if it is the only one that the stories take in the
context. Where the stories disagree about a window they disagree about every shorter one, so
forgetting more does not help.
-/
namespace Dialogue

variable {domain : Domain} {interpreter : Interpreter} {trackers : List Tracker}
  {window states : List TurnState} {action other : String} {next : String → Prop} {n turns : Nat}
  {priority : Int32}

def Sole (next : String → Prop) (action : String) : Prop := ∀ other, next other ↔ other = action

theorem sole_iff : Sole next action ↔ next action ∧ ∀ other, next other → other = action := by
  constructor
  · exact fun h => ⟨(h action).2 rfl, fun other => (h other).1⟩
  · rintro ⟨haction, hall⟩ other
    refine ⟨hall other, ?_⟩
    rintro rfl
    exact haction

theorem Sole.unique (h : Sole next action) (hother : Sole next other) : other = action :=
  (h other).1 ((hother other).2 rfl)

def Contested (next : String → Prop) : Prop :=
  ∃ action other, next action ∧ next other ∧ action ≠ other

theorem Contested.not_sole (h : Contested next) : ¬ Sole next action := by
  intro hsole
  obtain ⟨first, second, hfirst, hsecond, hne⟩ := h
  exact hne (((hsole first).1 hfirst).trans ((hsole second).1 hsecond).symm)

theorem contested_of_not_sole (h : next action) (hsole : ¬ Sole next action) : Contested next := by
  by_contra hcontested
  refine hsole (sole_iff.2 ⟨h, fun other hother => ?_⟩)
  by_contra hne
  exact hcontested ⟨other, action, hother, h, hne⟩

/-! ### Answers -/

def Recollects (outcome : Except Error Prediction) (domain : Domain) (priority : Int32)
    (turns : Nat) (action : String) : Prop :=
  ∃ index, domain.index? action = some index ∧ outcome = .ok
    { scores := Prediction.oneHot domain.size index 1.0, policyName := none, priority
      diagnostics := (∅ : SortedMap Json).insert "memorized_turns" (.ofNat turns) }

/-- Of the actions that may come next the only one is recalled if the domain has it. Otherwise
nothing is predicted. -/
structure Recalls (outcome : Except Error Prediction) (domain : Domain) (priority : Int32)
    (turns : Nat) (next : String → Prop) : Prop where
  recollects_iff (action : String) : Recollects outcome domain priority turns action ↔
    Sole next action ∧ domain.hasAction action = true
  abstains_iff : outcome = .ok (.abstain priority) ↔
    ¬ ∃ action, Sole next action ∧ domain.hasAction action = true

theorem not_recollects_abstain :
    ¬ Recollects (.ok (.abstain priority)) domain priority turns action := by
  rintro ⟨index, hindex, houtcome⟩
  exact Prediction.not_chooses_abstain rfl ⟨_, index, houtcome, hindex, rfl, rfl⟩

theorem Recollects.unique {outcome : Except Error Prediction}
    (h : Recollects outcome domain priority turns action)
    (hother : Recollects outcome domain priority turns other) : other = action := by
  obtain ⟨index, hindex, houtcome⟩ := h
  obtain ⟨place, hplace, hsame⟩ := hother
  have hscores : Prediction.oneHot domain.size place 1.0 =
      Prediction.oneHot domain.size index 1.0 :=
    congrArg Prediction.scores (Except.ok.inj (hsame.symm.trans houtcome))
  refine (Domain.eq_iff_index_eq hplace hindex).2 ?_
  by_contra hne
  have hone := Prediction.getElem?_oneHot 1.0 (Domain.index?_lt hplace)
  rw [hscores, Prediction.getElem?_oneHot_ne 1.0 (Domain.index?_lt hplace) hne] at hone
  exact Prediction.one_ne_zero (Option.some.inj hone).symm

namespace Memory

theorem recollects_predictRecalled (h : domain.hasAction action = true) :
    Recollects (.ok (predictRecalled domain priority (some (action, turns)))) domain priority turns
      action := by
  obtain ⟨index, hindex⟩ := Domain.hasAction_iff.1 h
  exact ⟨index, hindex, congrArg Except.ok (predictRecalled_of_index hindex)⟩

theorem recalls_predictRecalled {recalled : Option String}
    (h : ∀ action, recalled = some action ↔ Sole next action) :
    Recalls (.ok (predictRecalled domain priority (recalled.map (·, turns)))) domain priority turns
      next := by
  by_cases hknown : ∃ action, Sole next action ∧ domain.hasAction action = true
  · obtain ⟨sole, hsole, hhas⟩ := hknown
    rw [(h sole).2 hsole, Option.map_some]
    have hrecollects : Recollects (.ok (predictRecalled domain priority (some (sole, turns)))) domain
        priority turns sole := recollects_predictRecalled hhas
    constructor
    · intro action
      constructor
      · intro haction
        rw [hrecollects.unique haction]
        exact ⟨hsole, hhas⟩
      · rintro ⟨haction, _⟩
        rw [hsole.unique haction]
        exact hrecollects
    · refine iff_of_false (fun habstains => ?_) fun hnone => hnone ⟨sole, hsole, hhas⟩
      rw [habstains] at hrecollects
      exact not_recollects_abstain hrecollects
  · have habstains : predictRecalled domain priority (recalled.map (·, turns)) =
        .abstain priority := by
      cases recalled with
      | none => rfl
      | some action =>
        exact predictRecalled_of_unknown fun hhas => hknown ⟨action, (h action).1 rfl, hhas⟩
    rw [habstains]
    exact ⟨fun action => iff_of_false not_recollects_abstain fun haction => hknown ⟨action, haction⟩,
      iff_of_true rfl hknown⟩

/-! ### The longest window -/

variable {memory : Memory}

/-- Some story takes the action where its latest states, as many as are remembered, are the window. -/
def Shows (trackers : List Tracker) (domain : Domain) (interpreter : Interpreter)
    (maxHistory : Nat) (window : List TurnState) (action : String) : Prop :=
  ∃ story ∈ trackers, story.isRule = false ∧
    ∃ i, (story.history domain interpreter).actions[i]? = some action ∧
      lastOf (min (i + 1) maxHistory) ((story.history domain interpreter).states.take (i + 1)) =
        window

theorem mem_lessons_iff_position {everyLength : Bool} :
    (window, action) ∈ memory.lessons everyLength trackers domain interpreter ↔
      ∃ story ∈ trackers, story.isRule = false ∧
        ∃ i, (story.history domain interpreter).actions[i]? = some action ∧
          window ∈ memory.windows everyLength
            ((story.history domain interpreter).states.take (i + 1)) := by
  rw [mem_lessons_iff]
  simp only [stories, List.mem_filter, Bool.not_eq_true', History.mem_contexts_iff, and_assoc]
  constructor
  · rintro ⟨story, hmem, hstory, _, ⟨i, haction, rfl⟩, hwindow⟩
    exact ⟨story, hmem, hstory, i, haction, hwindow⟩
  · rintro ⟨story, hmem, hstory, i, haction, hwindow⟩
    exact ⟨story, hmem, hstory, _, ⟨i, haction, rfl⟩, hwindow⟩

theorem length_take_states {history : History} {i : Nat} (h : history.actions[i]? = some action) :
    (history.states.take (i + 1)).length = i + 1 := by
  obtain ⟨hlt, _⟩ := List.getElem?_eq_some_iff.1 h
  rw [List.length_take, History.length_states]
  omega

theorem mem_lessons_iff_shows :
    (window, action) ∈ memory.lessons false trackers domain interpreter ↔
      Shows trackers domain interpreter memory.maxHistory.toNat window action := by
  rw [mem_lessons_iff_position]
  unfold Shows
  refine exists_congr fun story => and_congr_right fun _ => and_congr_right fun _ =>
    exists_congr fun i => and_congr_right fun haction => ?_
  rw [windows_longest, List.mem_singleton, longest, length_take_states haction, eq_comm]

theorem recallWindow_longest_iff (h : 1 ≤ memory.longest states) :
    (memory.train false trackers domain interpreter).1.recallWindow states
        (memory.longest states) = some action ↔
      Sole (Shows trackers domain interpreter memory.maxHistory.toNat
        (lastOf (memory.longest states) states)) action := by
  rw [recallWindow_train_iff h (Nat.min_le_left _ _), sole_iff]
  simp only [mem_lessons_iff_shows]

/-! ### The longest window that is known -/

theorem mem_windows_iff {everyLength : Bool} : window ∈ memory.windows everyLength states ↔
    window <:+ states ∧ (if everyLength then 1 else memory.longest states) ≤ window.length ∧
      window.length ≤ memory.longest states := by
  have hlongest : memory.longest states ≤ states.length := Nat.min_le_left _ _
  unfold windows
  simp only [List.mem_map, List.mem_range'_1]
  rw [suffix_iff_lastOf]
  constructor
  · rintro ⟨n, ⟨hn, hlt⟩, rfl⟩
    rw [length_lastOf (by omega)]
    exact ⟨⟨by omega, rfl⟩, hn, by omega⟩
  · rintro ⟨⟨_, hlast⟩, hn, hle⟩
    exact ⟨window.length, ⟨hn, by omega⟩, hlast⟩

theorem mem_windows_iff_suffix : window ∈ memory.windows true states ↔
    1 ≤ window.length ∧ window.length ≤ memory.maxHistory.toNat ∧ window <:+ states := by
  rw [mem_windows_iff, longest, Nat.le_min, if_pos rfl]
  constructor
  · rintro ⟨hsuffix, hpos, _, hreach⟩
    exact ⟨hpos, hreach, hsuffix⟩
  · rintro ⟨hpos, hreach, hsuffix⟩
    exact ⟨hsuffix, hpos, hsuffix.length_le, hreach⟩

theorem mem_lessons_iff_leadsTo :
    (window, action) ∈ memory.lessons true trackers domain interpreter ↔
      1 ≤ window.length ∧ window.length ≤ memory.maxHistory.toNat ∧
        LeadsTo trackers domain interpreter window action := by
  rw [mem_lessons_iff_position]
  unfold LeadsTo History.LeadsAt
  simp only [mem_windows_iff_suffix]
  constructor
  · rintro ⟨story, hmem, hstory, i, haction, hpos, hreach, hsuffix⟩
    exact ⟨hpos, hreach, story, hmem, hstory, i, haction, hsuffix⟩
  · rintro ⟨hpos, hreach, story, hmem, hstory, i, haction, hsuffix⟩
    exact ⟨story, hmem, hstory, i, haction, hpos, hreach, hsuffix⟩

theorem mem_lessons_lastOf_iff (hn : 1 ≤ n) (hle : n ≤ memory.longest states) :
    (lastOf n states, action) ∈ memory.lessons true trackers domain interpreter ↔
      LeadsTo trackers domain interpreter (lastOf n states) action := by
  unfold longest at hle
  rw [mem_lessons_iff_leadsTo, length_lastOf (by omega)]
  exact ⟨fun h => h.2.2, fun h => ⟨hn, by omega, h⟩⟩

theorem recallWindow_train_iff_sole (hn : 1 ≤ n) (hle : n ≤ memory.longest states) :
    (memory.train true trackers domain interpreter).1.recallWindow states n = some action ↔
      Sole (LeadsTo trackers domain interpreter (lastOf n states)) action := by
  rw [recallWindow_train_iff hn (hle.trans (Nat.min_le_left _ _)), sole_iff]
  simp only [mem_lessons_lastOf_iff hn hle]

def knownLengths (trackers : List Tracker) (domain : Domain) (interpreter : Interpreter)
    (maxHistory : Nat) (states : List TurnState) : Set Nat :=
  {n | 1 ≤ n ∧ n ≤ min states.length maxHistory ∧
    ∃ action, LeadsTo trackers domain interpreter (lastOf n states) action}

theorem recallWindow_of_not_known (hn : 1 ≤ n) (hle : n ≤ memory.longest states)
    (h : n ∉ knownLengths trackers domain interpreter memory.maxHistory.toNat states) :
    (memory.train true trackers domain interpreter).1.recallWindow states n = none := by
  rw [Option.eq_none_iff_forall_ne_some]
  intro action hrecall
  have hsole := (recallWindow_train_iff_sole hn hle).1 hrecall
  exact h ⟨hn, hle, action, (sole_iff.1 hsole).1⟩

theorem recallLongest_of_unknown
    (h : knownLengths trackers domain interpreter memory.maxHistory.toNat states = ∅) :
    (memory.train true trackers domain interpreter).1.recallLongest states = none := by
  refine recallUpTo_of_none (Nat.zero_le _) fun n hn hle => ?_
  exact recallWindow_of_not_known hn hle (h ▸ Set.notMem_empty n)

/-- The longest window that is known decides: if the stories disagree about it, they disagree about
the shorter ones as well. -/
theorem recallLongest_of_known
    (h : IsGreatest (knownLengths trackers domain interpreter memory.maxHistory.toNat states) n) :
    (memory.train true trackers domain interpreter).1.recallLongest states =
      ((memory.train true trackers domain interpreter).1.recallWindow states n).map (·, n) := by
  obtain ⟨⟨hn, hle, action, haction⟩, hgreatest⟩ := h
  have hlonger : (memory.train true trackers domain interpreter).1.recallLongest states =
      (memory.train true trackers domain interpreter).1.recallUpTo states n := by
    refine recallUpTo_of_none hle fun k hk hkle => ?_
    exact recallWindow_of_not_known (hn.trans hk.le) hkle fun hknown =>
      absurd (hgreatest hknown) (Nat.not_le.2 hk)
  rw [hlonger]
  cases hrecall : (memory.train true trackers domain interpreter).1.recallWindow states n with
  | some recalled => exact recallUpTo_of_recalls hrecall
  | none =>
    have hcontested : Contested (LeadsTo trackers domain interpreter (lastOf n states)) := by
      refine contested_of_not_sole haction fun hsole => ?_
      rw [(recallWindow_train_iff_sole hn hle).2 hsole] at hrecall
      cases hrecall
    obtain ⟨first, second, hfirst, hsecond, hne⟩ := hcontested
    exact recallUpTo_train_of_disputed (hle.trans (Nat.min_le_left _ _)) hne
      ((mem_lessons_lastOf_iff hn hle).2 hfirst) ((mem_lessons_lastOf_iff hn hle).2 hsecond)

theorem recalls_recallLongest
    (h : IsGreatest (knownLengths trackers domain interpreter memory.maxHistory.toNat states) n) :
    Recalls (.ok (predictRecalled domain priority
        ((memory.train true trackers domain interpreter).1.recallLongest states))) domain priority n
      (LeadsTo trackers domain interpreter (lastOf n states)) := by
  rw [recallLongest_of_known h]
  exact recalls_predictRecalled fun action => recallWindow_train_iff_sole h.1.1 h.1.2.1

end Memory

theorem Contested.shorter (h : Contested (LeadsTo trackers domain interpreter (lastOf turns states)))
    (hle : n ≤ turns) : Contested (LeadsTo trackers domain interpreter (lastOf n states)) := by
  obtain ⟨first, second, hfirst, hsecond, hne⟩ := h
  have hsuffix := lastOf_suffix hle states
  exact ⟨first, second, hfirst.suffix hsuffix, hsecond.suffix hsuffix, hne⟩

/-! ### Predictions -/

/-- The latest states that the stories know decide, as many as are known and remembered. Forgetting
more of them settles no contest. -/
structure RecallsLongest (outcome : Except Error Prediction) (trackers : List Tracker)
    (domain : Domain) (interpreter : Interpreter) (priority : Int32) (maxHistory : Nat)
    (states : List TurnState) : Prop where
  unknown : Memory.knownLengths trackers domain interpreter maxHistory states = ∅ →
    outcome = .ok (.abstain priority)
  known (n : Nat) :
    IsGreatest (Memory.knownLengths trackers domain interpreter maxHistory states) n →
      Recalls outcome domain priority n (LeadsTo trackers domain interpreter (lastOf n states))
  contested (n : Nat) :
    IsGreatest (Memory.knownLengths trackers domain interpreter maxHistory states) n →
      Contested (LeadsTo trackers domain interpreter (lastOf n states)) →
        outcome = .ok (.abstain priority) ∧
          ∀ k ≤ n, Contested (LeadsTo trackers domain interpreter (lastOf k states))

/-- After training the policy predicts an action exactly if it is the only one that the stories take
where the latest states are those of the conversation, as many as are remembered. -/
theorem MemoizationPolicy.recalls_sole_action (priority : Int32) {maxHistory : UInt64}
    (lookup : SortedMap (Option String)) (trackers : List Tracker) (tracker : Tracker)
    (domain : Domain) (interpreter : Interpreter) (h : maxHistory ≠ 0) :
    ∃ trained warnings,
      Policy.train (MemoizationPolicy.mk priority ⟨maxHistory, lookup⟩) trackers domain
        interpreter = .ok (trained, warnings) ∧
      let states := (tracker.history domain interpreter).states
      let reach := min states.length maxHistory.toNat
      Recalls (Policy.predict trained tracker domain interpreter) domain priority reach
        (Memory.Shows trackers domain interpreter maxHistory.toNat (lastOf reach states)) := by
  let memory : Memory := ⟨maxHistory, ∅⟩
  refine ⟨⟨priority, (memory.train false trackers domain interpreter).1⟩, _, rfl, ?_⟩
  have hpos : 1 ≤ memory.longest (tracker.history domain interpreter).states :=
    Memory.longest_pos h tracker.events
  exact Memory.recalls_predictRecalled fun action => Memory.recallWindow_longest_iff hpos

def curt : Tracker :=
  (Tracker.ofEvents "user" [.executed listenAction, .uttered "hi" "greet",
    .executed listenAction]).asRule

theorem sole_hello : Sole (Memory.Shows [Ensemble.greeting, curt] Ensemble.greetingDomain
    .ofMessages 5 (lastOf 2 (Ensemble.saidHello.history Ensemble.greetingDomain .ofMessages).states))
    "utter_greet" := by
  have hactions : (Ensemble.greeting.history Ensemble.greetingDomain .ofMessages).actions =
      [listenAction, "utter_greet", listenAction] := by decide
  refine sole_iff.2 ⟨⟨Ensemble.greeting, List.mem_cons_self, rfl, 1, by rw [hactions]; rfl, rfl⟩, ?_⟩
  rintro other ⟨story, hmem, hstory, i, haction, hwindow⟩
  rcases List.mem_cons.1 hmem with rfl | hmem
  · -- Only at its second position does the story have two states.
    have hlength := congrArg List.length hwindow
    rw [length_lastOf (by rw [Memory.length_take_states haction]; omega),
      length_lastOf (by decide)] at hlength
    obtain rfl : i = 1 := by omega
    rw [hactions] at haction
    exact (Option.some.inj haction).symm
  · rw [List.mem_singleton.1 hmem] at hstory
    cases hstory

theorem MemoizationPolicy.recollects_hello : (5 : UInt64) ≠ 0 ∧ ∃ trained warnings,
    Policy.train MemoizationPolicy.default [Ensemble.greeting, curt] Ensemble.greetingDomain
      .ofMessages = .ok (trained, warnings) ∧
    Recollects (Policy.predict trained Ensemble.saidHello Ensemble.greetingDomain .ofMessages)
      Ensemble.greetingDomain MemoizationPolicy.defaultPriority 2 "utter_greet" := by
  have hreach : (5 : UInt64) ≠ 0 := by decide
  obtain ⟨trained, warnings, htrained, hrecalls⟩ :=
    MemoizationPolicy.recalls_sole_action MemoizationPolicy.defaultPriority ∅
      [Ensemble.greeting, curt] Ensemble.saidHello Ensemble.greetingDomain .ofMessages hreach
  refine ⟨hreach, trained, warnings, htrained, ?_⟩
  exact (hrecalls.recollects_iff "utter_greet").2 ⟨sole_hello, by decide⟩

/-- After training the policy decides by the longest context that the stories show: it predicts the
only action that the context leads to, and nothing if there is no such context or several actions. -/
theorem AugmentedMemoizationPolicy.recalls_longest_context (priority : Int32) (maxHistory : UInt64)
    (lookup : SortedMap (Option String)) (trackers : List Tracker) (tracker : Tracker)
    (domain : Domain) (interpreter : Interpreter) :
    ∃ trained warnings,
      Policy.train (AugmentedMemoizationPolicy.mk priority ⟨maxHistory, lookup⟩) trackers domain
        interpreter = .ok (trained, warnings) ∧
      RecallsLongest (Policy.predict trained tracker domain interpreter) trackers domain interpreter
        priority maxHistory.toNat (tracker.history domain interpreter).states := by
  let memory : Memory := ⟨maxHistory, ∅⟩
  refine ⟨⟨priority, (memory.train true trackers domain interpreter).1⟩, _, rfl, ?_⟩
  constructor
  · intro hunknown
    exact congrArg (fun recalled => Except.ok (Memory.predictRecalled domain priority recalled))
      (Memory.recallLongest_of_unknown hunknown)
  · exact fun n hn => Memory.recalls_recallLongest hn
  · intro n hn hcontested
    refine ⟨(Memory.recalls_recallLongest hn).abstains_iff.2 ?_, fun k hk => hcontested.shorter hk⟩
    rintro ⟨action, hsole, _⟩
    exact hcontested.not_sole hsole

end Dialogue
