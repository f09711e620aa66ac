import Dialogue.Proofs.StateText
import Mathlib.Data.List.Induction

/-!
What a memory recalls. The windows of a story are those of its beginnings, as a later replay of the
beginning finds them; a window recalls an action if every story goes on with that action.
-/
namespace Dialogue

variable {domain : Domain} {interpreter : Interpreter}

/-- The conversation so far is a beginning of the story, which then takes an action. -/
def Tracker.Takes (story : Tracker) (before : List Event) (action : String) : Prop :=
  ∃ event after, story.events = before ++ event :: after ∧ event.action? = some action

namespace History

theorem contexts_cons (state : TurnState) (action : String) (turns : List (TurnState × String))
    (current : TurnState) : (History.mk ((state, action) :: turns) current).contexts =
      ([state], action) :: (History.mk turns current).contexts.map fun (states, action) =>
        (state :: states, action) := by
  unfold contexts
  rw [List.zipIdx_cons, List.map_cons, Nat.zero_add, List.zipIdx_succ, List.map_map, List.map_map]
  rfl

theorem replayFrom_of_none {event : Event} (h : event.action? = none) (replay : Replay)
    (rest : List Event) : replayFrom domain interpreter replay (event :: rest) =
      replayFrom domain interpreter (replay.observe interpreter event) rest := by
  rw [replayFrom, h]

theorem replayFrom_of_some {event : Event} {action : String} (h : event.action? = some action)
    (replay : Replay) (rest : List Event) :
    replayFrom domain interpreter replay (event :: rest) =
      ⟨(replay.state domain, action) ::
          (replayFrom domain interpreter (replay.observe interpreter event) rest).turns,
        (replayFrom domain interpreter (replay.observe interpreter event) rest).current⟩ := by
  rw [replayFrom, h]

theorem mem_contexts_replayFrom {events : List Event} {states : List TurnState} {action : String}
    (replay : Replay) : (states, action) ∈ (replayFrom domain interpreter replay events).contexts ↔
      ∃ before event after, events = before ++ event :: after ∧ event.action? = some action ∧
        states = (replayFrom domain interpreter replay before).states := by
  induction events generalizing states replay with
  | nil =>
    constructor
    · intro h
      cases h
    · rintro ⟨before, event, after, h, _⟩
      cases before <;> cases h
  | cons first events ih =>
    cases hfirst : first.action? with
    | none =>
      rw [replayFrom_of_none hfirst, ih]
      constructor
      · rintro ⟨before, event, after, rfl, hevent, rfl⟩
        exact ⟨first :: before, event, after, rfl, hevent, by rw [replayFrom_of_none hfirst]⟩
      · rintro ⟨before, event, after, hevents, hevent, rfl⟩
        cases before with
        | nil =>
          cases hevents
          rw [hfirst] at hevent
          cases hevent
        | cons head before =>
          cases hevents
          exact ⟨before, event, after, rfl, hevent, by rw [replayFrom_of_none hfirst]⟩
    | some taken =>
      rw [replayFrom_of_some hfirst, contexts_cons, List.mem_cons, List.mem_map]
      constructor
      · rintro (h | ⟨⟨rest, other⟩, hmem, h⟩)
        · cases h
          exact ⟨[], first, events, rfl, hfirst, rfl⟩
        · cases h
          obtain ⟨before, event, after, rfl, hevent, rfl⟩ := (ih _).1 hmem
          exact ⟨first :: before, event, after, rfl, hevent, by
            rw [replayFrom_of_some hfirst]
            rfl⟩
      · rintro ⟨before, event, after, hevents, hevent, rfl⟩
        cases before with
        | nil =>
          cases hevents
          rw [hfirst] at hevent
          cases hevent
          exact Or.inl rfl
        | cons head before =>
          cases hevents
          refine Or.inr ⟨(_, action), (ih _).2 ⟨before, event, after, rfl, hevent, rfl⟩, ?_⟩
          rw [replayFrom_of_some hfirst]
          rfl

theorem mem_contexts {story : Tracker} {states : List TurnState} {action : String} :
    (states, action) ∈ (story.history domain interpreter).contexts ↔
      ∃ before, story.Takes before action ∧
        states = (ofEvents domain interpreter before).states := by
  unfold Tracker.history ofEvents Tracker.Takes
  rw [mem_contexts_replayFrom]
  constructor
  · rintro ⟨before, event, after, hevents, hevent, hstates⟩
    exact ⟨before, ⟨event, after, hevents, hevent⟩, hstates⟩
  · rintro ⟨before, ⟨event, after, hevents, hevent⟩, hstates⟩
    exact ⟨before, event, after, hevents, hevent, hstates⟩

end History

namespace Memory

def windowAfter (memory : Memory) (domain : Domain) (interpreter : Interpreter)
    (events : List Event) : List TurnState :=
  let states := (History.ofEvents domain interpreter events).states
  lastOf (memory.longest states) states

/-! ### What the lessons agree on -/

/-- The action that all of some actions are, if there are any. -/
def consensus : List String → Option (Option String)
  | [] => none
  | action :: rest => some (if rest.all (· == action) then some action else none)

theorem consensus_append (actions : List String) (action : String) :
    consensus (actions ++ [action]) = match consensus actions with
      | none => some (some action)
      | some known => some (if known = some action then known else none) := by
  cases actions with
  | nil => rfl
  | cons first rest =>
    rw [List.cons_append, consensus, consensus, List.all_append]
    dsimp only
    cases hall : rest.all (· == first) with
    | false => simp
    | true =>
      by_cases h : action = first
      · simp [h]
      · simp [h, Ne.symm h]

theorem consensus_join_eq_some_iff {actions : List String} {action : String} :
    (consensus actions).join = some action ↔
      action ∈ actions ∧ ∀ other ∈ actions, other = action := by
  cases actions with
  | nil =>
    constructor
    · intro h
      cases h
    · exact fun h => absurd h.1 List.not_mem_nil
  | cons first rest =>
    show (if rest.all (· == first) then some first else none) = some action ↔ _
    have hall : rest.all (· == first) = true ↔ ∀ other ∈ rest, other = first := by
      simp only [List.all_eq_true, beq_iff_eq]
    constructor
    · intro h
      split at h
      · rename_i hrest
        cases h
        exact ⟨List.mem_cons_self, List.forall_mem_cons.2 ⟨rfl, hall.1 hrest⟩⟩
      · cases h
    · rintro ⟨_, h⟩
      rw [List.forall_mem_cons] at h
      obtain ⟨rfl, hrest⟩ := h
      rw [if_pos (hall.2 hrest)]

def taught (key : String) (lessons : List (List TurnState × String)) : List String :=
  (lessons.filter fun lesson => key == windowKey lesson.1).map Prod.snd

theorem mem_taught {window : List TurnState} {lessons : List (List TurnState × String)}
    {action : String} : action ∈ taught (windowKey window) lessons ↔ (window, action) ∈ lessons := by
  unfold taught
  rw [List.mem_map]
  constructor
  · rintro ⟨⟨other, _⟩, hmem, rfl⟩
    obtain ⟨hmem, hkey⟩ := List.mem_filter.1 hmem
    rw [windowKey_inj (beq_iff_eq.1 hkey)]
    exact hmem
  · intro hmem
    exact ⟨(window, action), List.mem_filter.2 ⟨hmem, beq_self_eq_true _⟩, rfl⟩

theorem get?_memorize (lookup : SortedMap (Option String)) (window : List TurnState)
    (action key : String) : (memorize lookup window action).get? key =
      if key = windowKey window then
        match lookup.get? key with
        | none => some (some action)
        | some known => some (if known = some action then known else none)
      else lookup.get? key := by
  unfold memorize
  dsimp only
  by_cases hkey : key = windowKey window
  · rw [if_pos hkey, hkey]
    cases hknown : lookup.get? (windowKey window) with
    | none => exact (SortedMap.get?_insert _ _ _ _).trans (if_pos rfl)
    | some known =>
      dsimp only
      by_cases h : known = some action
      · rw [if_pos h, if_pos h, hknown]
      · rw [if_neg h, if_neg h, SortedMap.get?_insert, if_pos rfl]
  · rw [if_neg hkey]
    cases lookup.get? (windowKey window) with
    | none => exact (SortedMap.get?_insert _ _ _ _).trans (if_neg hkey)
    | some known =>
      dsimp only
      by_cases h : known = some action
      · rw [if_pos h]
      · rw [if_neg h, SortedMap.get?_insert, if_neg hkey]

/-- Learning one lesson after the other comes to what all lessons for a key agree on. -/
theorem get?_foldl_memorize (lessons : List (List TurnState × String)) (key : String) :
    (lessons.foldl (fun lookup lesson => memorize lookup lesson.1 lesson.2) ∅).get? key =
      consensus (taught key lessons) := by
  induction lessons using List.reverseRecOn with
  | nil => rfl
  | append_singleton lessons lesson ih =>
    rw [List.foldl_append, List.foldl_cons, List.foldl_nil, get?_memorize, ih]
    unfold taught
    rw [List.filter_append, List.map_append, List.filter_cons, List.filter_nil]
    by_cases hkey : key = windowKey lesson.1
    · rw [if_pos hkey, if_pos (beq_iff_eq.2 hkey)]
      exact (consensus_append _ lesson.2).symm
    · rw [if_neg hkey, if_neg (fun h => hkey (beq_iff_eq.1 h)), List.map_nil, List.append_nil]

/-! ### What is recalled -/

variable {memory : Memory} {trackers : List Tracker}

theorem windows_longest (memory : Memory) (states : List TurnState) :
    memory.windows false states = [lastOf (memory.longest states) states] := by
  unfold windows
  dsimp only
  rw [if_neg Bool.false_ne_true, Nat.add_sub_cancel_left]
  rfl

theorem mem_lessons_iff {everyLength : Bool} {window : List TurnState} {action : String} :
    (window, action) ∈ memory.lessons everyLength trackers domain interpreter ↔
      ∃ story ∈ stories trackers, ∃ states,
        (states, action) ∈ (story.history domain interpreter).contexts ∧
          window ∈ memory.windows everyLength states := by
  unfold lessons
  simp only [List.mem_flatMap, List.mem_map, Prod.mk.injEq, Prod.exists]
  constructor
  · rintro ⟨story, hstory, states, _, hcontext, _, hwindow, rfl, rfl⟩
    exact ⟨story, hstory, states, hcontext, hwindow⟩
  · rintro ⟨story, hstory, states, hcontext, hwindow⟩
    exact ⟨story, hstory, states, action, hcontext, window, hwindow, rfl, rfl⟩

theorem mem_lessons {window : List TurnState} {action : String} :
    (window, action) ∈ memory.lessons false trackers domain interpreter ↔
      ∃ story ∈ stories trackers, ∃ before, story.Takes before action ∧
        window = memory.windowAfter domain interpreter before := by
  rw [mem_lessons_iff]
  simp only [windows_longest, List.mem_singleton, History.mem_contexts]
  constructor
  · rintro ⟨story, hstory, _, ⟨before, htakes, rfl⟩, rfl⟩
    exact ⟨story, hstory, before, htakes, rfl⟩
  · rintro ⟨story, hstory, before, htakes, rfl⟩
    exact ⟨story, hstory, _, ⟨before, htakes, rfl⟩, rfl⟩

def recallAfter (memory : Memory) (domain : Domain) (interpreter : Interpreter)
    (events : List Event) : Option String :=
  let states := (History.ofEvents domain interpreter events).states
  memory.recallWindow states (memory.longest states)

theorem recallAfter_eq (h : memory.maxHistory ≠ 0) (events : List Event) :
    memory.recallAfter domain interpreter events =
      (memory.lookup.get? (windowKey (memory.windowAfter domain interpreter events))).join := by
  have hlength := (History.ofEvents domain interpreter events).length_states
  have hreach : memory.maxHistory.toNat ≠ 0 := fun hzero => h (UInt64.toNat_inj.1 hzero)
  refine if_neg ?_
  unfold longest
  omega

theorem get?_train_iff {everyLength : Bool} {window : List TurnState} {action : String} :
    ((memory.train everyLength trackers domain interpreter).1.lookup.get?
        (windowKey window)).join = some action ↔
      (window, action) ∈ memory.lessons everyLength trackers domain interpreter ∧
        ∀ other, (window, other) ∈ memory.lessons everyLength trackers domain interpreter →
          other = action := by
  unfold train
  dsimp only
  rw [get?_foldl_memorize, consensus_join_eq_some_iff]
  simp only [mem_taught]

/-- After training, events recall an action if some story takes it after the same window, and no
story takes another one there. -/
theorem recallAfter_train (h : memory.maxHistory ≠ 0) {before : List Event} {action : String} :
    (memory.train false trackers domain interpreter).1.recallAfter domain interpreter before =
        some action ↔
      (∃ story ∈ stories trackers, ∃ earlier, story.Takes earlier action ∧
        memory.windowAfter domain interpreter before =
          memory.windowAfter domain interpreter earlier) ∧
      ∀ story ∈ stories trackers, ∀ earlier other, story.Takes earlier other →
        memory.windowAfter domain interpreter before =
          memory.windowAfter domain interpreter earlier → other = action := by
  have htrained : (memory.train false trackers domain interpreter).1.maxHistory ≠ 0 := h
  rw [recallAfter_eq htrained]
  change (((memory.train false trackers domain interpreter).1.lookup.get?
    (windowKey (memory.windowAfter domain interpreter before))).join = some action) ↔ _
  rw [get?_train_iff]
  simp only [mem_lessons]
  constructor
  · rintro ⟨htaught, hall⟩
    exact ⟨htaught, fun story hstory earlier other htakes hwindow =>
      hall other ⟨story, hstory, earlier, htakes, hwindow⟩⟩
  · rintro ⟨htaught, hall⟩
    refine ⟨htaught, ?_⟩
    rintro other ⟨story, hstory, earlier, htakes, hwindow⟩
    exact hall story hstory earlier other htakes hwindow

/-! ### Windows up to a length -/

section

variable {states : List TurnState} {action : String} {n m : Nat}

/-- The action that the longest of the windows up to a length recalls, and that window's length. -/
def recallUpTo (memory : Memory) (states : List TurnState) (n : Nat) : Option (String × Nat) :=
  (List.range n).reverse.findSome? fun i =>
    (memory.recallWindow states (i + 1)).map (·, i + 1)

theorem recallLongest_eq (memory : Memory) (states : List TurnState) :
    memory.recallLongest states = memory.recallUpTo states (memory.longest states) := rfl

theorem recallUpTo_succ (memory : Memory) (states : List TurnState) (n : Nat) :
    memory.recallUpTo states (n + 1) =
      ((memory.recallWindow states (n + 1)).map (·, n + 1)).or (memory.recallUpTo states n) := by
  unfold recallUpTo
  rw [List.range_succ, List.reverse_append, List.reverse_singleton, List.singleton_append,
    List.findSome?_cons]
  cases memory.recallWindow states (n + 1) <;> rfl

theorem recallUpTo_of_recalls (h : memory.recallWindow states n = some action) :
    memory.recallUpTo states n = some (action, n) := by
  cases n with
  | zero => cases h
  | succ n => rw [recallUpTo_succ, h, Option.map_some, Option.some_or]

theorem recallUpTo_of_none (hle : n ≤ m)
    (h : ∀ k, n < k → k ≤ m → memory.recallWindow states k = none) :
    memory.recallUpTo states m = memory.recallUpTo states n := by
  induction hle with
  | refl => rfl
  | @step m hle ih =>
    rw [recallUpTo_succ, h (m + 1) (Nat.lt_succ_of_le hle) (Nat.le_refl _), Option.map_none,
      Option.none_or]
    exact ih fun k hk hkm => h k hk (Nat.le_succ_of_le hkm)

theorem exists_recallUpTo (hle : n ≤ m) (h : memory.recallWindow states n ≠ none) :
    ∃ found, memory.recallUpTo states m = some found ∧ n ≤ found.2 := by
  induction hle with
  | refl =>
    obtain ⟨action, haction⟩ := Option.ne_none_iff_exists'.1 h
    exact ⟨_, recallUpTo_of_recalls haction, Nat.le_refl n⟩
  | @step m hle ih =>
    rw [recallUpTo_succ]
    cases memory.recallWindow states (m + 1) with
    | none => exact ih
    | some action => exact ⟨_, rfl, Nat.le_succ_of_le hle⟩

theorem recallUpTo_le {found : String × Nat} (h : memory.recallUpTo states n = some found) :
    found.2 ≤ n := by
  induction n with
  | zero => cases h
  | succ n ih =>
    rw [recallUpTo_succ] at h
    cases hrecall : memory.recallWindow states (n + 1) with
    | none =>
      rw [hrecall] at h
      exact Nat.le_succ_of_le (ih h)
    | some action =>
      rw [hrecall] at h
      cases h
      exact Nat.le_refl _

end

end Memory

end Dialogue
