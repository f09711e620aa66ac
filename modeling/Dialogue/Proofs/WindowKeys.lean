import Dialogue.Proofs.ContextRecall

/-!
A memory keeps its windows under their texts. A text belongs to one window, so this is a table of
windows.
-/
namespace Dialogue.Memory

variable {domain : Domain} {interpreter : Interpreter} {trackers : List Tracker} {memory : Memory}
  {everyLength : Bool} {window other states : List TurnState} {action : String}

theorem windowKey_eq_iff : windowKey window = windowKey other ↔ window = other :=
  ⟨windowKey_inj, congrArg windowKey⟩

/-- What a memory knows of a window: nothing, the action after it, or that there are several. -/
def known (memory : Memory) (window : List TurnState) : Option (Option String) :=
  memory.lookup.get? (windowKey window)

theorem recallWindow_eq_known (memory : Memory) (states : List TurnState) (n : Nat) :
    memory.recallWindow states n =
      if n = 0 ∨ states.length < n then none else (memory.known (lastOf n states)).join := rfl

/-! ### One lesson -/

def learn (memory : Memory) (window : List TurnState) (action : String) : Memory :=
  { memory with lookup := memorize memory.lookup window action }

def revise (known : Option (Option String)) (action : String) : Option (Option String) :=
  match known with
  | none => some (some action)
  | some earlier => some (if earlier = some action then earlier else none)

theorem known_learn (memory : Memory) (window other : List TurnState) (action : String) :
    (memory.learn window action).known other =
      if other = window then revise (memory.known window) action else memory.known other := by
  show (memorize memory.lookup window action).get? (windowKey other) = _
  rw [get?_memorize]
  by_cases h : other = window
  · rw [if_pos (windowKey_eq_iff.2 h), if_pos h, h]
    rfl
  · rw [if_neg fun hkey => h (windowKey_eq_iff.1 hkey), if_neg h]
    rfl

/-! ### Several lessons -/

def learnAll (memory : Memory) (lessons : List (List TurnState × String)) : Memory :=
  lessons.foldl (fun memory lesson => memory.learn lesson.1 lesson.2) memory

def actionsOn (window : List TurnState) (lessons : List (List TurnState × String)) : List String :=
  (lessons.filter (·.1 = window)).map Prod.snd

theorem mem_actionsOn {lessons : List (List TurnState × String)} :
    action ∈ actionsOn window lessons ↔ (window, action) ∈ lessons := by
  unfold actionsOn
  simp

/-- Whatever a memory knew before, the lessons on other windows do not matter for a window. -/
theorem known_learnAll (memory : Memory) (lessons : List (List TurnState × String))
    (window : List TurnState) : (memory.learnAll lessons).known window =
      (actionsOn window lessons).foldl revise (memory.known window) := by
  induction lessons generalizing memory with
  | nil => rfl
  | cons lesson rest ih =>
    show ((memory.learn lesson.1 lesson.2).learnAll rest).known window = _
    rw [ih, known_learn]
    unfold actionsOn
    rw [List.filter_cons]
    simp only [decide_eq_true_eq]
    by_cases h : lesson.1 = window
    · rw [if_pos h.symm, if_pos h, List.map_cons, List.foldl_cons, h]
    · rw [if_neg (Ne.symm h), if_neg h]

theorem learnAll_eq (memory : Memory) (lessons : List (List TurnState × String)) :
    memory.learnAll lessons = { memory with
      lookup := lessons.foldl (fun lookup lesson => memorize lookup lesson.1 lesson.2)
        memory.lookup } := by
  induction lessons generalizing memory with
  | nil => rfl
  | cons lesson rest ih => exact ih (memory.learn lesson.1 lesson.2)

theorem train_eq_learnAll (memory : Memory) (everyLength : Bool) (trackers : List Tracker)
    (domain : Domain) (interpreter : Interpreter) :
    (memory.train everyLength trackers domain interpreter).1 =
      { memory with lookup := ∅ : Memory }.learnAll
        (memory.lessons everyLength trackers domain interpreter) :=
  (learnAll_eq { memory with lookup := ∅ } _).symm

/-! ### What lessons agree on -/

theorem foldl_revise (actions : List String) : actions.foldl revise none = consensus actions := by
  induction actions using List.reverseRecOn with
  | nil => rfl
  | append_singleton actions action ih =>
    rw [List.foldl_append, ih, consensus_append]
    rfl

theorem consensus_eq_none_iff {actions : List String} :
    consensus actions = none ↔ ∀ action, action ∉ actions := by
  rw [← List.eq_nil_iff_forall_not_mem]
  cases actions with
  | nil => exact iff_of_true rfl rfl
  | cons action rest => exact iff_of_false (Option.some_ne_none _) (List.cons_ne_nil _ _)

theorem consensus_join_iff_sole {actions : List String} :
    (consensus actions).join = some action ↔ Sole (· ∈ actions) action := by
  rw [consensus_join_eq_some_iff, sole_iff]

theorem consensus_eq_some_none_iff {actions : List String} :
    consensus actions = some none ↔ Contested (· ∈ actions) := by
  have hsole : ∀ action, (consensus actions).join = some action ↔ Sole (· ∈ actions) action :=
    fun _ => consensus_join_iff_sole
  cases h : consensus actions with
  | none =>
    refine iff_of_false (fun hnone => nomatch hnone) ?_
    rintro ⟨action, _, haction, _⟩
    exact consensus_eq_none_iff.1 h action haction
  | some agreed =>
    rw [h] at hsole
    cases agreed with
    | some action =>
      exact iff_of_false (fun hnone => nomatch hnone)
        fun hcontested => hcontested.not_sole ((hsole action).1 rfl)
    | none =>
      have htaught : ¬ ∀ action, action ∉ actions := by
        rw [← consensus_eq_none_iff, h]
        exact Option.some_ne_none _
      obtain ⟨action, haction⟩ := not_forall_not.1 htaught
      refine iff_of_true rfl (contested_of_not_sole haction fun honly => ?_)
      cases (hsole action).2 honly

/-! ### All lessons -/

/-- Some story takes the action right after the window. The window is as long as a memory looks back
there, or of any length up to that where the shorter ones are learned as well. -/
def Learned (maxHistory : Nat) (everyLength : Bool) (trackers : List Tracker) (domain : Domain)
    (interpreter : Interpreter) (window : List TurnState) (action : String) : Prop :=
  ∃ story ∈ trackers, story.isRule = false ∧
    ∃ i, (story.history domain interpreter).LeadsAt i window action ∧
      (if everyLength then 1 else min (i + 1) maxHistory) ≤ window.length ∧
      window.length ≤ min (i + 1) maxHistory

theorem mem_lessons_iff_learned :
    (window, action) ∈ memory.lessons everyLength trackers domain interpreter ↔
      Learned memory.maxHistory.toNat everyLength trackers domain interpreter window action := by
  rw [mem_lessons_iff_position]
  unfold Learned History.LeadsAt
  refine exists_congr fun story => and_congr_right fun _ => and_congr_right fun _ =>
    exists_congr fun i => ?_
  rw [and_assoc]
  refine and_congr_right fun haction => ?_
  rw [mem_windows_iff, longest, length_take_states haction]

/-- A memory answers for each window by what was learned of that window. -/
structure AnswersByWindow (memory : Memory) (learned : List TurnState → String → Prop) :
    Prop where
  recalls_iff (states : List TurnState) (n : Nat) (action : String) :
    memory.recallWindow states n = some action ↔
      1 ≤ n ∧ n ≤ states.length ∧ Sole (learned (lastOf n states)) action
  contested_iff (window : List TurnState) :
    memory.known window = some none ↔ Contested (learned window)
  unknown_iff (window : List TurnState) :
    memory.known window = none ↔ ∀ action, ¬ learned window action

theorem answersByWindow_train (memory : Memory) (everyLength : Bool) (trackers : List Tracker)
    (domain : Domain) (interpreter : Interpreter) :
    (memory.train everyLength trackers domain interpreter).1.AnswersByWindow
      (Learned memory.maxHistory.toNat everyLength trackers domain interpreter) := by
  have hknown : ∀ window,
      (memory.train everyLength trackers domain interpreter).1.known window =
        consensus (actionsOn window (memory.lessons everyLength trackers domain interpreter)) := by
    intro window
    rw [train_eq_learnAll, known_learnAll, ← foldl_revise]
    rfl
  have hlearned : ∀ window,
      (· ∈ actionsOn window (memory.lessons everyLength trackers domain interpreter)) =
        Learned memory.maxHistory.toNat everyLength trackers domain interpreter window := by
    intro window
    funext action
    rw [mem_actionsOn, mem_lessons_iff_learned]
  constructor
  · intro states n action
    rw [recallWindow_eq_known, hknown]
    by_cases hreach : n = 0 ∨ states.length < n
    · rw [if_pos hreach]
      refine iff_of_false (fun hnone => nomatch hnone) ?_
      rintro ⟨hn, hle, _⟩
      omega
    · rw [if_neg hreach, consensus_join_iff_sole, hlearned]
      exact ⟨fun honly => ⟨by omega, by omega, honly⟩, fun h => h.2.2⟩
  · intro window
    rw [hknown, consensus_eq_some_none_iff, hlearned]
  · intro window
    rw [hknown, consensus_eq_none_iff, ← hlearned]

/-- Windows with one text are one window, so no memory answers for a window by another one. Whatever
it knew before, only the lessons on a window change its answer there; and after training the answer
is the only action that the stories take after that very window, if there is just one. -/
theorem recalls_own_window :
    (∀ window other : List TurnState, windowKey window = windowKey other ↔ window = other) ∧
    (∀ (memory : Memory) (lessons : List (List TurnState × String)) (states : List TurnState)
      (n : Nat), (memory.learnAll lessons).recallWindow states n =
        if n = 0 ∨ states.length < n then none
        else ((actionsOn (lastOf n states) lessons).foldl revise
          (memory.known (lastOf n states))).join) ∧
    ∀ (memory : Memory) (everyLength : Bool) (trackers : List Tracker) (domain : Domain)
      (interpreter : Interpreter),
      (memory.train everyLength trackers domain interpreter).1.AnswersByWindow
        (Learned memory.maxHistory.toNat everyLength trackers domain interpreter) := by
  refine ⟨fun _ _ => windowKey_eq_iff, ?_, answersByWindow_train⟩
  intro memory lessons states n
  rw [recallWindow_eq_known, known_learnAll]

/-- The text of a message may look like the end of one field and the start of another. -/
example : windowKey [{ userIntent := some "a\",\"user_text\":\"b" }] ≠
    windowKey [{ userIntent := some "a", userText := some "b" }] := by
  decide +kernel

end Dialogue.Memory
