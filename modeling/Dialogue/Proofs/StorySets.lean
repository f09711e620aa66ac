import Dialogue.Proofs.ContextRecall
import Dialogue.Proofs.LatestMessage

/-!
What a memory has for a window is what all lessons about it agree on. That asks neither how often
nor in which order the stories come, so two trainings on the same set of stories come to the same.
-/
namespace Dialogue

variable {domain : Domain} {interpreter : Interpreter} {trackers others : List Tracker}

def storyLogs (trackers : List Tracker) : Set (List Event) :=
  {log | ∃ story ∈ stories trackers, story.events = log}

namespace Memory

variable {memory other : Memory} {everyLength : Bool}

theorem consensus_congr {first second : List String}
    (h : ∀ action, action ∈ first ↔ action ∈ second) : consensus first = consensus second := by
  have hjoin : (consensus first).join = (consensus second).join := by
    apply Option.ext
    intro action
    rw [consensus_join_eq_some_iff, consensus_join_eq_some_iff]
    simp only [h]
  have hnil : first = [] ↔ second = [] := by
    simp only [List.eq_nil_iff_forall_not_mem, h]
  cases first with
  | nil => rw [hnil.1 rfl]
  | cons _ _ =>
    cases second with
    | nil => exact absurd (hnil.2 rfl) (List.cons_ne_nil _ _)
    | cons _ _ => exact congrArg some hjoin

theorem foldl_memorize_congr {first second : List (List TurnState × String)}
    (h : ∀ lesson, lesson ∈ first ↔ lesson ∈ second) :
    first.foldl (fun lookup lesson => memorize lookup lesson.1 lesson.2) ∅ =
      second.foldl (fun lookup lesson => memorize lookup lesson.1 lesson.2) ∅ := by
  apply SortedMap.ext_get?
  intro key
  rw [get?_foldl_memorize, get?_foldl_memorize]
  apply consensus_congr
  intro action
  simp only [taught, List.mem_map, List.mem_filter, h]

theorem mem_lessons_iff_log {window : List TurnState} {action : String} :
    (window, action) ∈ memory.lessons everyLength trackers domain interpreter ↔
      ∃ log ∈ storyLogs trackers, ∃ states,
        (states, action) ∈ (History.ofEvents domain interpreter log).contexts ∧
          window ∈ memory.windows everyLength states := by
  rw [mem_lessons_iff]
  unfold storyLogs
  constructor
  · rintro ⟨story, hstory, states, hcontext, hwindow⟩
    exact ⟨story.events, ⟨story, hstory, rfl⟩, states, hcontext, hwindow⟩
  · rintro ⟨_, ⟨story, hstory, rfl⟩, states, hcontext, hwindow⟩
    exact ⟨story, hstory, states, hcontext, hwindow⟩

theorem train_eq_of_storyLogs (h : storyLogs trackers = storyLogs others)
    (hreach : memory.maxHistory = other.maxHistory) :
    (memory.train everyLength trackers domain interpreter).1 =
      (other.train everyLength others domain interpreter).1 := by
  have hlessons (lesson : List TurnState × String) :
      lesson ∈ memory.lessons everyLength trackers domain interpreter ↔
        lesson ∈ other.lessons everyLength others domain interpreter := by
    obtain ⟨window, action⟩ := lesson
    rw [mem_lessons_iff_log, mem_lessons_iff_log, h]
    simp only [windows, longest, hreach]
  simp only [train, foldl_memorize_congr hlessons, hreach]

end Memory

namespace UnexpectedIntentPolicy

theorem ext_observed {first second : SortedMap (SortedMap Unit)}
    (hactions : ∀ action, first.contains action = true ↔ second.contains action = true)
    (hturns : ∀ turn, Saw first turn ↔ Saw second turn) : first = second := by
  apply SortedMap.ext_get?
  intro action
  have haction := hactions action
  have hintents (intent : String) := hturns (action, intent)
  unfold SortedMap.contains at haction
  unfold Saw at hintents
  dsimp only at hintents
  cases hfirst : first.get? action with
  | none =>
    rw [hfirst] at haction
    cases hsecond : second.get? action with
    | none => rfl
    | some _ => simp [hsecond] at haction
  | some intents =>
    rw [hfirst] at haction hintents
    cases hsecond : second.get? action with
    | none => simp [hsecond] at haction
    | some others =>
      rw [hsecond] at hintents
      exact congrArg some (SortedMap.ext_contains hintents)

theorem foldl_observe_congr {first second : List (String × String)}
    (h : ∀ turn, turn ∈ first ↔ turn ∈ second) :
    first.foldl observe ∅ = second.foldl observe ∅ := by
  apply ext_observed
  · intro action
    rw [contains_foldl, contains_foldl]
    simp only [h]
  · intro turn
    rw [saw_foldl, saw_foldl, h]

theorem mem_learned_iff_log {turn : String × String} :
    turn ∈ (stories trackers).flatMap (userTurns · interpreter) ↔
      ∃ log ∈ storyLogs trackers, turn ∈ turnsFrom interpreter conversationStart log := by
  unfold storyLogs userTurns
  rw [List.mem_flatMap]
  constructor
  · rintro ⟨story, hstory, hturn⟩
    exact ⟨story.events, ⟨story, hstory, rfl⟩, hturn⟩
  · rintro ⟨_, ⟨story, hstory, rfl⟩, hturn⟩
    exact ⟨story, hstory, hturn⟩

theorem observed_train_eq (h : storyLogs trackers = storyLogs others)
    (policy other : UnexpectedIntentPolicy) :
    (policy.train trackers interpreter).observed = (other.train others interpreter).observed := by
  apply foldl_observe_congr
  intro turn
  rw [mem_learned_iff_log, mem_learned_iff_log, h]

end UnexpectedIntentPolicy

/-! ### Trainings -/

section

variable {π σ τ : Type} [Policy π]

/-- Two trainings succeed and leave the same table. If the policies have the same priority as well,
they are the same policy from then on, and predict the same in every conversation. -/
def TrainsAlike (table : π → τ) (first second : π) (trackers others : List Tracker)
    (domain : Domain) (interpreter : Interpreter) : Prop :=
  ∃ trained warnings retrained notices,
    Policy.train first trackers domain interpreter = .ok (trained, warnings) ∧
    Policy.train second others domain interpreter = .ok (retrained, notices) ∧
    table trained = table retrained ∧
    (Policy.priority first = Policy.priority second → trained = retrained ∧
      ∀ (tracker : Tracker) (domain : Domain) (interpreter : Interpreter),
        Policy.predict trained tracker domain interpreter =
          Policy.predict retrained tracker domain interpreter)

/-- Policies with the same settings learn the same, whatever they knew before. To repeat a training
changes nothing. -/
structure LearnsAlike (settings : π → σ) (table : π → τ) (trackers others : List Tracker)
    (domain : Domain) (interpreter : Interpreter) : Prop where
  alike (first second : π) : settings first = settings second →
    TrainsAlike table first second trackers others domain interpreter
  settles (policy : π) : ∃ trained warnings,
    Policy.train policy trackers domain interpreter = .ok (trained, warnings) ∧
      Policy.train trained trackers domain interpreter = .ok (trained, warnings)

theorem trainsAlike_of_eq {table : π → τ} {first second trained retrained : π}
    {warnings notices : List Warning}
    (hfirst : Policy.train first trackers domain interpreter = .ok (trained, warnings))
    (hsecond : Policy.train second others domain interpreter = .ok (retrained, notices))
    (htable : table trained = table retrained)
    (hsame : Policy.priority first = Policy.priority second → trained = retrained) :
    TrainsAlike table first second trackers others domain interpreter := by
  refine ⟨trained, warnings, retrained, notices, hfirst, hsecond, htable, fun hpriority => ?_⟩
  obtain rfl := hsame hpriority
  exact ⟨rfl, fun _ _ _ => rfl⟩

theorem learnsAlike_of_memory {memory : π → Memory} {everyLength : Bool} (mk : Int32 → Memory → π)
    (hmemory : ∀ priority table, memory (mk priority table) = table)
    (hpriority : ∀ priority table, Policy.priority (mk priority table) = priority)
    (htrain : ∀ policy trackers, Policy.train policy trackers domain interpreter =
      .ok (mk (Policy.priority policy)
          ((memory policy).train everyLength trackers domain interpreter).1,
        ((memory policy).train everyLength trackers domain interpreter).2))
    (h : storyLogs trackers = storyLogs others) :
    LearnsAlike (fun policy => (memory policy).maxHistory) (fun policy => (memory policy).lookup)
      trackers others domain interpreter := by
  constructor
  · intro first second hreach
    have htables : ((memory first).train everyLength trackers domain interpreter).1 =
        ((memory second).train everyLength others domain interpreter).1 :=
      Memory.train_eq_of_storyLogs h hreach
    apply trainsAlike_of_eq (htrain first trackers) (htrain second others)
    · rw [hmemory, hmemory, htables]
    · intro hsame
      rw [hsame, htables]
  · intro policy
    refine ⟨_, _, htrain policy trackers, ?_⟩
    rw [htrain, hmemory, hpriority]
    rfl

end

theorem MemoizationPolicy.learnsAlike (h : storyLogs trackers = storyLogs others) :
    LearnsAlike (fun policy : MemoizationPolicy => policy.memory.maxHistory) (·.memory.lookup)
      trackers others domain interpreter :=
  learnsAlike_of_memory mk (fun _ _ => rfl) (fun _ _ => rfl) (fun _ _ => rfl) h

theorem AugmentedMemoizationPolicy.learnsAlike (h : storyLogs trackers = storyLogs others) :
    LearnsAlike (fun policy : AugmentedMemoizationPolicy => policy.memory.maxHistory)
      (·.memory.lookup) trackers others domain interpreter :=
  learnsAlike_of_memory mk (fun _ _ => rfl) (fun _ _ => rfl) (fun _ _ => rfl) h

theorem UnexpectedIntentPolicy.learnsAlike (h : storyLogs trackers = storyLogs others) :
    LearnsAlike ignoredIntents observed trackers others domain interpreter := by
  constructor
  · intro first second hignored
    have hobserved : (first.train trackers interpreter).observed =
        (second.train others interpreter).observed := observed_train_eq h first second
    apply trainsAlike_of_eq rfl rfl hobserved
    intro hpriority
    show mk first.priority first.ignoredIntents (first.train trackers interpreter).observed =
      mk second.priority second.ignoredIntents (second.train others interpreter).observed
    rw [show first.priority = second.priority from hpriority, hignored, hobserved]
  · exact fun policy => ⟨_, _, rfl, rfl⟩

/-- Training depends on the set of the stories only: neither their order nor how often one comes nor
the rules among them matter, nor what the policy knew before. -/
theorem learnsAlike_of_storyLogs (h : storyLogs trackers = storyLogs others) (domain : Domain)
    (interpreter : Interpreter) :
    LearnsAlike (fun policy : MemoizationPolicy => policy.memory.maxHistory) (·.memory.lookup)
        trackers others domain interpreter ∧
      LearnsAlike (fun policy : AugmentedMemoizationPolicy => policy.memory.maxHistory)
        (·.memory.lookup) trackers others domain interpreter ∧
      LearnsAlike UnexpectedIntentPolicy.ignoredIntents UnexpectedIntentPolicy.observed
        trackers others domain interpreter :=
  ⟨MemoizationPolicy.learnsAlike h, AugmentedMemoizationPolicy.learnsAlike h,
    UnexpectedIntentPolicy.learnsAlike h⟩

theorem trainsAlike_greeting :
    storyLogs [Ensemble.greeting, curt] =
        storyLogs [curt, Ensemble.greeting, Ensemble.greeting] ∧
      TrainsAlike (fun policy : MemoizationPolicy => policy.memory.lookup) .default
        ⟨MemoizationPolicy.defaultPriority, (Memory.train ⟨5, ∅⟩ false
          [UnexpectedIntentPolicy.greeted] Ensemble.greetingDomain .ofMessages).1⟩
        [Ensemble.greeting, curt] [curt, Ensemble.greeting, Ensemble.greeting]
        Ensemble.greetingDomain .ofMessages := by
  have h : storyLogs [Ensemble.greeting, curt] =
      storyLogs [curt, Ensemble.greeting, Ensemble.greeting] := by
    ext log
    simp [storyLogs, stories, curt, Ensemble.greeting, Tracker.asRule, Tracker.ofEvents]
  exact ⟨h, (learnsAlike_of_storyLogs h Ensemble.greetingDomain .ofMessages).1.alike _ _ rfl⟩

end Dialogue
