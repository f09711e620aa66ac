import Dialogue.Proofs.Recollection
import Dialogue.Proofs.ReplayParts
import Dialogue.Proofs.StoryReplay

/-!
Without restarts a window that is shorter than the memory begins where the conversation does, and a
story has only one place like that. So windows of every length teach nothing more about the longest
ones.
-/
namespace Dialogue

variable {domain : Domain} {interpreter : Interpreter} {events : List Event}

/-! ### Conversations without restarts -/

/-- The conversation is not restarted. -/
def Unbroken (events : List Event) : Prop := ∀ event ∈ events, event.isRestart = false

/-- The first state has no action before it, and all others have one. -/
def StartsOnce (states : List TurnState) : Prop :=
  ∃ first rest, states = first :: rest ∧ first.prevAction = none ∧
    ∀ state ∈ rest, state.prevAction ≠ none

theorem StartsOnce.eq_length {states : List TurnState} {n : Nat} (h : StartsOnce states)
    (hlast : StartsOnce (lastOf n states)) (hn : n ≤ states.length) : n = states.length := by
  obtain ⟨first, rest, rfl, _, hrest⟩ := h
  obtain ⟨other, others, hothers, hstart, _⟩ := hlast
  by_contra hne
  have hlater : (first :: rest).length - n = (rest.length - n) + 1 := by
    rw [List.length_cons] at hne hn ⊢
    omega
  unfold lastOf at hothers
  rw [hlater, List.drop_succ_cons] at hothers
  have hmem : other ∈ rest := List.mem_of_mem_drop (hothers ▸ List.mem_cons_self)
  exact hrest other hmem hstart

namespace History

theorem states_cons (state : TurnState) (action : String) (later : History) :
    (History.mk ((state, action) :: later.turns) later.current).states = state :: later.states :=
  rfl

theorem prevAction_ne_none_of_acted {replay : Replay} (hacted : replay.prevAction ≠ none)
    (h : Unbroken events) :
    ∀ state ∈ (replayFrom domain interpreter replay events).states, state.prevAction ≠ none := by
  induction events generalizing replay with
  | nil =>
    intro state hstate
    rw [List.mem_singleton.1 hstate]
    exact hacted
  | cons event rest ih =>
    obtain ⟨hevent, hrest⟩ := List.forall_mem_cons.1 h
    cases haction : event.action? with
    | none =>
      rw [replayFrom_of_none haction]
      refine ih ?_ hrest
      rwa [Replay.observe_of_none _ haction, hevent, if_neg Bool.false_ne_true]
    | some action =>
      rw [replayFrom_of_some haction, states_cons]
      refine List.forall_mem_cons.2 ⟨hacted, ih ?_ hrest⟩
      rw [Replay.observe_of_some _ haction]
      exact Option.some_ne_none action

theorem startsOnce_replayFrom {replay : Replay} (hstart : replay.prevAction = none)
    (h : Unbroken events) : StartsOnce (replayFrom domain interpreter replay events).states := by
  induction events generalizing replay with
  | nil => exact ⟨_, [], rfl, hstart, fun _ hstate => absurd hstate List.not_mem_nil⟩
  | cons event rest ih =>
    obtain ⟨hevent, hrest⟩ := List.forall_mem_cons.1 h
    cases haction : event.action? with
    | none =>
      rw [replayFrom_of_none haction]
      refine ih ?_ hrest
      rwa [Replay.observe_of_none _ haction, hevent, if_neg Bool.false_ne_true]
    | some action =>
      rw [replayFrom_of_some haction, states_cons]
      refine ⟨_, _, rfl, hstart, prevAction_ne_none_of_acted ?_ hrest⟩
      rw [Replay.observe_of_some _ haction]
      exact Option.some_ne_none action

theorem startsOnce_ofEvents (domain : Domain) (interpreter : Interpreter) (h : Unbroken events) :
    StartsOnce (ofEvents domain interpreter events).states :=
  startsOnce_replayFrom rfl h

end History

theorem Tracker.Takes.unbroken {story : Tracker} {before : List Event} {action : String}
    (htakes : story.Takes before action) (h : Unbroken story.events) : Unbroken before := by
  obtain ⟨event, after, hevents, _⟩ := htakes
  intro other hother
  refine h other ?_
  rw [hevents]
  exact List.mem_append_left _ hother

namespace Memory

variable {memory : Memory} {trackers : List Tracker} {states window : List TurnState}
  {action : String} {n m : Nat}

/-! ### Lessons of every length -/

theorem mem_windows_everyLength : window ∈ memory.windows true states ↔
    ∃ n, 1 ≤ n ∧ n ≤ memory.longest states ∧ window = lastOf n states := by
  unfold windows
  simp only [if_true, List.mem_map, List.mem_range'_1]
  constructor
  · rintro ⟨n, ⟨hn, hlt⟩, rfl⟩
    exact ⟨n, hn, by omega, rfl⟩
  · rintro ⟨n, hn, hle, rfl⟩
    exact ⟨n, ⟨hn, by omega⟩, rfl⟩

theorem mem_lessons_everyLength :
    (window, action) ∈ memory.lessons true trackers domain interpreter ↔
      ∃ story ∈ stories trackers, ∃ before, story.Takes before action ∧
        ∃ n, 1 ≤ n ∧ n ≤ memory.longest (History.ofEvents domain interpreter before).states ∧
          window = lastOf n (History.ofEvents domain interpreter before).states := by
  rw [mem_lessons_iff]
  simp only [mem_windows_everyLength, History.mem_contexts]
  constructor
  · rintro ⟨story, hstory, _, ⟨before, htakes, rfl⟩, hlength⟩
    exact ⟨story, hstory, before, htakes, hlength⟩
  · rintro ⟨story, hstory, before, htakes, hlength⟩
    exact ⟨story, hstory, _, ⟨before, htakes, rfl⟩, hlength⟩

/-- What was learned of a window was learned of the shorter ones as well. -/
theorem mem_lessons_lastOf
    (h : (lastOf m states, action) ∈ memory.lessons true trackers domain interpreter)
    (hm : m ≤ states.length) (hn : 1 ≤ n) (hle : n ≤ m) :
    (lastOf n states, action) ∈ memory.lessons true trackers domain interpreter := by
  obtain ⟨story, hstory, before, htakes, k, _, hk, hwindow⟩ := mem_lessons_everyLength.1 h
  have hlength := hk.trans (Nat.min_le_left _ _)
  have hmk : m = k := by
    rw [← length_lastOf hm, hwindow, length_lastOf hlength]
  subst hmk
  refine mem_lessons_everyLength.2 ⟨story, hstory, before, htakes, n, hn, hle.trans hk, ?_⟩
  rw [← lastOf_lastOf hle hm, hwindow, lastOf_lastOf hle hlength]

/-! ### Longest windows -/

/-- Some story takes the action after the longest window that there is at the end of the events. -/
def Teaches (memory : Memory) (trackers : List Tracker) (domain : Domain)
    (interpreter : Interpreter) (events : List Event) (action : String) : Prop :=
  ∃ story ∈ stories trackers, ∃ before, story.Takes before action ∧
    memory.windowAfter domain interpreter events = memory.windowAfter domain interpreter before

theorem teaches_iff : memory.Teaches trackers domain interpreter events action ↔
    (memory.windowAfter domain interpreter events, action) ∈
      memory.lessons false trackers domain interpreter :=
  mem_lessons.symm

theorem recallAfter_train_iff (h : memory.maxHistory ≠ 0) :
    (memory.train false trackers domain interpreter).1.recallAfter domain interpreter events =
        some action ↔
      memory.Teaches trackers domain interpreter events action ∧
        ∀ other, memory.Teaches trackers domain interpreter events other → other = action := by
  rw [recallAfter_train h]
  refine and_congr_right fun _ => ?_
  constructor
  · rintro hall other ⟨story, hstory, before, htakes, hwindow⟩
    exact hall story hstory before other htakes hwindow
  · intro hall story hstory before other htakes hwindow
    exact hall other ⟨story, hstory, before, htakes, hwindow⟩

theorem recallAfter_of_disputed {other : String} (h : memory.maxHistory ≠ 0)
    (haction : memory.Teaches trackers domain interpreter events action)
    (hother : memory.Teaches trackers domain interpreter events other) (hne : action ≠ other) :
    (memory.train false trackers domain interpreter).1.recallAfter domain interpreter events =
      none := by
  rw [Option.eq_none_iff_forall_ne_some]
  intro recalled hrecalled
  obtain ⟨_, hall⟩ := (recallAfter_train_iff h).1 hrecalled
  exact hne ((hall action haction).trans (hall other hother).symm)

theorem longest_pos (h : memory.maxHistory ≠ 0) (events : List Event) :
    1 ≤ memory.longest (History.ofEvents domain interpreter events).states := by
  have hlength := (History.ofEvents domain interpreter events).length_states
  have hreach : memory.maxHistory.toNat ≠ 0 := fun hzero => h (UInt64.toNat_inj.1 hzero)
  unfold longest
  omega

theorem eq_longest_of_windowAfter {before : List Event} (hbefore : Unbroken before)
    (hevents : Unbroken events)
    (hn : n ≤ memory.longest (History.ofEvents domain interpreter before).states)
    (h : memory.windowAfter domain interpreter events =
      lastOf n (History.ofEvents domain interpreter before).states) :
    n = memory.longest (History.ofEvents domain interpreter before).states := by
  have hstart := History.startsOnce_ofEvents domain interpreter hbefore
  have hother := History.startsOnce_ofEvents domain interpreter hevents
  dsimp only [windowAfter] at h
  generalize (History.ofEvents domain interpreter before).states = states at hn h hstart
  generalize (History.ofEvents domain interpreter events).states = others at h hother
  have hlongest : memory.longest others ≤ others.length := Nat.min_le_left _ _
  have hlength : n ≤ states.length := hn.trans (Nat.min_le_left _ _)
  have hsame : memory.longest others = n := by
    rw [← length_lastOf hlongest, h, length_lastOf hlength]
  unfold longest at hsame hn ⊢
  by_cases hfull : memory.maxHistory.toNat ≤ others.length
  · omega
  · -- The window is shorter than the memory, so it begins where the conversation does.
    have hall : lastOf n states = others := by
      rw [← h]
      unfold longest
      rw [Nat.min_eq_left (Nat.le_of_not_le hfull), lastOf_length]
    have hstates := hstart.eq_length (hall ▸ hother) hlength
    omega

section

variable (hreach : memory.maxHistory ≠ 0)
  (hstories : ∀ story ∈ stories trackers, Unbroken story.events) (hevents : Unbroken events)
include hreach hstories hevents

theorem mem_lessons_windowAfter :
    (memory.windowAfter domain interpreter events, action) ∈
        memory.lessons true trackers domain interpreter ↔
      (memory.windowAfter domain interpreter events, action) ∈
        memory.lessons false trackers domain interpreter := by
  rw [mem_lessons_everyLength, mem_lessons]
  constructor
  · rintro ⟨story, hstory, before, htakes, n, _, hn, hwindow⟩
    refine ⟨story, hstory, before, htakes, ?_⟩
    have hbefore := htakes.unbroken (hstories story hstory)
    rw [eq_longest_of_windowAfter hbefore hevents hn hwindow] at hwindow
    exact hwindow
  · rintro ⟨story, hstory, before, htakes, hwindow⟩
    exact ⟨story, hstory, before, htakes, _, longest_pos hreach before, le_rfl, hwindow⟩

theorem recallAfter_everyLength :
    (memory.train true trackers domain interpreter).1.recallAfter domain interpreter events =
      (memory.train false trackers domain interpreter).1.recallAfter domain interpreter events := by
  have hrecall (everyLength : Bool) (action : String) :
      (memory.train everyLength trackers domain interpreter).1.recallAfter domain interpreter
          events = some action ↔
        (memory.windowAfter domain interpreter events, action) ∈
            memory.lessons everyLength trackers domain interpreter ∧
          ∀ other, (memory.windowAfter domain interpreter events, other) ∈
            memory.lessons everyLength trackers domain interpreter → other = action := by
    have htrained : (memory.train everyLength trackers domain interpreter).1.maxHistory ≠ 0 :=
      hreach
    rw [recallAfter_eq htrained]
    exact get?_train_iff
  refine Option.ext fun action => ?_
  rw [hrecall, hrecall]
  simp only [mem_lessons_windowAfter hreach hstories hevents]

end

/-! ### Recalling -/

theorem recallWindow_train_iff {everyLength : Bool} (hn : 1 ≤ n) (hle : n ≤ states.length) :
    (memory.train everyLength trackers domain interpreter).1.recallWindow states n = some action ↔
      (lastOf n states, action) ∈ memory.lessons everyLength trackers domain interpreter ∧
        ∀ other, (lastOf n states, other) ∈
          memory.lessons everyLength trackers domain interpreter → other = action := by
  have hlooks : ¬ (n = 0 ∨ states.length < n) := by omega
  unfold recallWindow
  rw [if_neg hlooks]
  exact get?_train_iff

theorem recallUpTo_train_of_disputed {other : String} (hm : m ≤ states.length)
    (hne : action ≠ other)
    (h : (lastOf m states, action) ∈ memory.lessons true trackers domain interpreter)
    (hother : (lastOf m states, other) ∈ memory.lessons true trackers domain interpreter) :
    (memory.train true trackers domain interpreter).1.recallUpTo states m = none := by
  refine recallUpTo_of_none (Nat.zero_le m) fun n hn hle => ?_
  rw [Option.eq_none_iff_forall_ne_some]
  intro recalled hrecalled
  obtain ⟨_, hall⟩ := (recallWindow_train_iff hn (hle.trans hm)).1 hrecalled
  have haction := hall action (mem_lessons_lastOf h hm hn hle)
  exact hne (haction.trans (hall other (mem_lessons_lastOf hother hm hn hle)).symm)

section

variable (hreach : memory.maxHistory ≠ 0)
  (hstories : ∀ story ∈ stories trackers, Unbroken story.events) (hevents : Unbroken events)
include hreach hstories hevents

theorem recallLongest_of_disputed {other : String} (hne : action ≠ other)
    (h : memory.Teaches trackers domain interpreter events action)
    (hother : memory.Teaches trackers domain interpreter events other) :
    (memory.train true trackers domain interpreter).1.recallLongest
      (History.ofEvents domain interpreter events).states = none := by
  rw [teaches_iff, ← mem_lessons_windowAfter hreach hstories hevents] at h hother
  exact recallUpTo_train_of_disputed (Nat.min_le_left _ _) hne h hother

theorem recallLongest_train (hknown : ∃ action, memory.Teaches trackers domain interpreter events
    action) :
    (memory.train true trackers domain interpreter).1.recallLongest
        (History.ofEvents domain interpreter events).states =
      ((memory.train false trackers domain interpreter).1.recallAfter domain interpreter events).map
        (·, memory.longest (History.ofEvents domain interpreter events).states) := by
  cases hrecall : (memory.train false trackers domain interpreter).1.recallAfter domain interpreter
      events with
  | some action =>
    rw [← recallAfter_everyLength hreach hstories hevents] at hrecall
    exact recallUpTo_of_recalls hrecall
  | none =>
    obtain ⟨action, hteaches⟩ := hknown
    -- Nothing is recalled although an action was learned: so another one was learned, too.
    have hdisputed : ∃ other, memory.Teaches trackers domain interpreter events other ∧
        other ≠ action := by
      by_contra hagreed
      have hall (other : String)
          (hother : memory.Teaches trackers domain interpreter events other) : other = action :=
        by_contra fun hne => hagreed ⟨other, hother, hne⟩
      rw [(recallAfter_train_iff hreach).2 ⟨hteaches, hall⟩] at hrecall
      cases hrecall
    obtain ⟨other, hother, hne⟩ := hdisputed
    exact recallLongest_of_disputed hreach hstories hevents hne hother hteaches

end

end Memory

/-! ### Predictions -/

/-- Of two policies that learned the same, what they predict at the end of a conversation by what
they were taught about its longest window. -/
structure RecallsAlike (plain : MemoizationPolicy) (forgetful : AugmentedMemoizationPolicy)
    (tracker : Tracker) (domain : Domain) (interpreter : Interpreter) (taught : String → Prop) :
    Prop where
  known : (∃ action, taught action) → Policy.predict forgetful tracker domain interpreter =
    Policy.predict plain tracker domain interpreter
  agreed (action : String) : taught action → (∀ other, taught other → other = action) →
    Policy.predict plain tracker domain interpreter = .ok (Memory.predictRecalled domain
      plain.priority
      (some (action, plain.memory.longest (tracker.history domain interpreter).states)))
  disputed (action other : String) : taught action → taught other → action ≠ other →
    Policy.predict plain tracker domain interpreter = .ok (.abstain plain.priority) ∧
      Policy.predict forgetful tracker domain interpreter = .ok (.abstain plain.priority)
  unknown : (¬ ∃ action, taught action) →
    Policy.predict plain tracker domain interpreter = .ok (.abstain plain.priority)

section

variable {memory : Memory} {trackers : List Tracker} {tracker : Tracker}

theorem MemoizationPolicy.predict_train (priority : Int32) :
    MemoizationPolicy.predict ⟨priority, (memory.train false trackers domain interpreter).1⟩ tracker
        domain interpreter =
      Memory.predictRecalled domain priority
        (((memory.train false trackers domain interpreter).1.recallAfter domain interpreter
          tracker.events).map (·, memory.longest (tracker.history domain interpreter).states)) :=
  rfl

theorem AugmentedMemoizationPolicy.predict_train (priority : Int32)
    (hreach : memory.maxHistory ≠ 0)
    (hstories : ∀ story ∈ stories trackers, Unbroken story.events)
    (htracker : Unbroken tracker.events)
    (hknown : ∃ action, memory.Teaches trackers domain interpreter tracker.events action) :
    AugmentedMemoizationPolicy.predict
        ⟨priority, (memory.train true trackers domain interpreter).1⟩ tracker domain interpreter =
      MemoizationPolicy.predict ⟨priority, (memory.train false trackers domain interpreter).1⟩
        tracker domain interpreter := by
  rw [MemoizationPolicy.predict_train]
  exact congrArg (Memory.predictRecalled domain priority)
    (Memory.recallLongest_train hreach hstories htracker hknown)

end

/-- Without restarts the policy that forgets answers like the one that does not wherever the longest
window is known, be it that both recall an action or that the stories disagree and both abstain.
Elsewhere the one that does not forget abstains. -/
theorem AugmentedMemoizationPolicy.refines_memoization (priority : Int32) {maxHistory : UInt64}
    (known others : SortedMap (Option String)) {trackers : List Tracker} {tracker : Tracker}
    (domain : Domain) (interpreter : Interpreter) (hreach : maxHistory ≠ 0)
    (hstories : ∀ story ∈ stories trackers, Unbroken story.events)
    (htracker : Unbroken tracker.events) :
    ∃ plain forgetful warnings,
      Policy.train (MemoizationPolicy.mk priority ⟨maxHistory, known⟩) trackers domain interpreter =
        .ok (plain, warnings) ∧
      Policy.train (AugmentedMemoizationPolicy.mk priority ⟨maxHistory, others⟩) trackers domain
        interpreter = .ok (forgetful, warnings) ∧
      RecallsAlike plain forgetful tracker domain interpreter
        (Memory.Teaches ⟨maxHistory, ∅⟩ trackers domain interpreter tracker.events) := by
  -- Training forgets what was known before.
  let memory : Memory := ⟨maxHistory, ∅⟩
  have hknown (h : ∃ action, memory.Teaches trackers domain interpreter tracker.events action) :=
    AugmentedMemoizationPolicy.predict_train priority hreach hstories htracker h
  refine ⟨⟨priority, (memory.train false trackers domain interpreter).1⟩,
    ⟨priority, (memory.train true trackers domain interpreter).1⟩, _, rfl, rfl, ?_⟩
  constructor
  · exact fun h => congrArg Except.ok (hknown h)
  · intro action haction hall
    refine congrArg Except.ok ?_
    rw [MemoizationPolicy.predict_train,
      (Memory.recallAfter_train_iff hreach).2 ⟨haction, hall⟩]
    rfl
  · intro action other haction hother hne
    have habstains : MemoizationPolicy.predict
        ⟨priority, (memory.train false trackers domain interpreter).1⟩ tracker domain interpreter =
          .abstain priority := by
      rw [MemoizationPolicy.predict_train,
        Memory.recallAfter_of_disputed hreach haction hother hne]
      rfl
    exact ⟨congrArg Except.ok habstains,
      congrArg Except.ok ((hknown ⟨action, haction⟩).trans habstains)⟩
  · intro hunknown
    refine congrArg Except.ok ?_
    rw [MemoizationPolicy.predict_train]
    cases hrecall : (memory.train false trackers domain interpreter).1.recallAfter domain
        interpreter tracker.events with
    | none => rfl
    | some action =>
      exact absurd ⟨action, ((Memory.recallAfter_train_iff hreach).1 hrecall).1⟩ hunknown

namespace Ensemble

def saidHello : Tracker := .ofEvents "user" (greeting.events.take 2)

theorem teaches_hello {action : String} :
    Memory.Teaches ⟨5, ∅⟩ [greeting] greetingDomain .ofMessages saidHello.events action ↔
      action = "utter_greet" := by
  constructor
  · rintro ⟨story, hstory, before, htakes, hwindow⟩
    by_contra hne
    exact undisputed_greeting ⟨story, hstory, before, action, htakes, hne, hwindow⟩
  · rintro rfl
    exact ⟨greeting, List.mem_cons_self, greeting.events.take 2, ⟨_, _, rfl, rfl⟩, rfl⟩

theorem recallsAlike_hello :
    (5 : UInt64) ≠ 0 ∧ (∀ story ∈ stories [greeting], Unbroken story.events) ∧
      Unbroken saidHello.events ∧
      ∃ plain forgetful warnings,
        Policy.train MemoizationPolicy.default [greeting] greetingDomain .ofMessages =
          .ok (plain, warnings) ∧
        Policy.train AugmentedMemoizationPolicy.default [greeting] greetingDomain .ofMessages =
          .ok (forgetful, warnings) ∧
        ∃ answer, Policy.predict forgetful saidHello greetingDomain .ofMessages = .ok answer ∧
          Policy.predict plain saidHello greetingDomain .ofMessages = .ok answer ∧
          answer.scores = Prediction.oneHot 12 11 1.0 := by
  have hreach : (5 : UInt64) ≠ 0 := by decide
  have hstories : ∀ story ∈ stories [greeting], Unbroken story.events := by
    unfold Unbroken
    decide
  have hhello : Unbroken saidHello.events := by
    unfold Unbroken
    decide
  obtain ⟨plain, forgetful, warnings, hplain, hforgetful, halike⟩ :=
    AugmentedMemoizationPolicy.refines_memoization MemoizationPolicy.defaultPriority ∅ ∅
      greetingDomain .ofMessages hreach hstories hhello
  have hanswer := halike.agreed "utter_greet" (teaches_hello.2 rfl) fun _ => teaches_hello.1
  have hsame := halike.known ⟨"utter_greet", teaches_hello.2 rfl⟩
  have hindex : greetingDomain.index? "utter_greet" = some 11 := by decide
  exact ⟨hreach, hstories, hhello, plain, forgetful, warnings, hplain, hforgetful, _,
    hsame.trans hanswer, hanswer, scores_predictRecalled hindex⟩

end Ensemble

end Dialogue
