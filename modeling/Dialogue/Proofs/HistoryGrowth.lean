import Dialogue.Proofs.RuleChoice
import Dialogue.Proofs.RuleLearning

/-!
Later events change nothing of a history but the state at its end, so what the policies learn of an
action is what they see when it is due.
-/
namespace Dialogue

variable {domain : Domain} {interpreter : Interpreter} {before rest : List Event} {event : Event}
  {action : String} {conversation : Tracker} {i : Nat}

namespace History

variable {earlier later : History}

theorem dropLast_states (history : History) :
    history.states.dropLast = history.turns.map Prod.fst := by
  simp [states]

/-! ### What stays -/

/-- The later history tells the same turns and more. -/
structure Extends (earlier later : History) : Prop where
  actions : earlier.actions <+: later.actions
  states : earlier.states.dropLast <+: later.states
  contexts : earlier.contexts <+: later.contexts

theorem take_states (h : earlier.turns <+: later.turns) (hi : i ≤ earlier.actions.length) :
    later.states.take i = earlier.states.take i := by
  obtain ⟨more, hturns⟩ := h
  have hlength : i ≤ (earlier.turns.map Prod.fst).length := by simpa [actions] using hi
  unfold states
  rw [← hturns, List.map_append, List.append_assoc, List.take_append_of_le_length hlength,
    List.take_append_of_le_length hlength]

theorem extends_of_turns (h : earlier.turns <+: later.turns) : Extends earlier later := by
  have hactions : earlier.actions <+: later.actions := h.map Prod.snd
  refine ⟨hactions, ?_, ?_⟩
  · rw [dropLast_states]
    exact (h.map Prod.fst).trans (List.prefix_append _ _)
  · apply List.prefix_iff_getElem?.2
    intro i hi
    have hlt : i < earlier.actions.length := by simpa [contexts_eq] using hi
    rw [← List.getElem?_eq_getElem hi, getElem?_contexts, getElem?_contexts, take_states h hlt,
      List.prefix_iff_getElem?.1 hactions i hlt, List.getElem?_eq_getElem hlt]

/-! ### What comes next -/

/-- The later history takes the action where the earlier one ends. -/
structure GoesOn (earlier later : History) (action : String) : Prop where
  taken : later.actions[earlier.actions.length]? = some action
  state : later.states[earlier.actions.length]? = earlier.states.getLast?
  context : later.contexts[earlier.actions.length]? = some (earlier.states, action)

theorem goesOn_of_turns (h : earlier.turns ++ [(earlier.current, action)] <+: later.turns) :
    GoesOn earlier later action := by
  obtain ⟨more, hturns⟩ := h
  have htaken : later.actions[earlier.actions.length]? = some action := by
    simp [actions, ← hturns]
  have hstates : later.states = earlier.states ++ (more.map Prod.fst ++ [later.current]) := by
    simp [states, ← hturns]
  have hlength : earlier.states.length = earlier.actions.length + 1 := earlier.length_states
  refine ⟨htaken, ?_, ?_⟩
  · rw [hstates, List.getElem?_append_left (by omega), List.getLast?_eq_getElem?, hlength]
    rfl
  · rw [getElem?_contexts, htaken, hstates, ← hlength, List.take_left]
    rfl

theorem turns_executed (h : event.action? = some action) :
    (ofEvents domain interpreter before).turns ++
        [((ofEvents domain interpreter before).current, action)] <+:
      (ofEvents domain interpreter (before ++ event :: rest)).turns := by
  rw [turns_ofEvents_append, replayFrom_of_some h, current_ofEvents]
  exact (List.prefix_append_right_inj _).2 (List.prefix_append [_] _)

/-! ### What is learned of it -/

/-- The policies that are trained on the conversation learn the action from what they see where the
earlier history ends. A memory has a lesson on each window that it looks up there. From the first
turn on there is a rule that matches there. -/
structure Teaches (conversation : Tracker) (domain : Domain) (interpreter : Interpreter)
    (earlier : History) (action : String) : Prop where
  lessons (trackers : List Tracker) (memory : Memory) (everyLength : Bool) :
    conversation ∈ stories trackers → ∀ window ∈ memory.windows everyLength earlier.states,
      (window, action) ∈ memory.lessons everyLength trackers domain interpreter
  known (trackers : List Tracker) :
    conversation ∈ rules trackers → earlier.firstTurn ≤ earlier.actions.length →
      ∃ rule ∈ Rule.known trackers domain interpreter, rule.action = action ∧
        rule.conditions = earlier.states.drop earlier.firstTurn ∧ rule.Matches earlier.states

theorem GoesOn.yieldsAt (h : GoesOn earlier later action)
    (hfirst : earlier.firstTurn ≤ earlier.actions.length) :
    later.YieldsAt earlier.actions.length (earlier.states.drop earlier.firstTurn) action := by
  have hcontext := h.context
  rw [getElem?_contexts, h.taken, Option.map_some, Option.some.injEq, Prod.mk.injEq] at hcontext
  have hsame : later.firstTurn = earlier.firstTurn := by
    unfold firstTurn
    rw [← hcontext.1, List.head?_take]
    simp
  refine ⟨?_, h.taken, ?_⟩
  · rw [hsame]
    exact hfirst
  · rw [hcontext.1, hsame]

theorem GoesOn.teaches (h : GoesOn earlier (conversation.history domain interpreter) action) :
    Teaches conversation domain interpreter earlier action := by
  constructor
  · intro trackers memory everyLength hstory window hwindow
    have hcontext := List.mem_of_getElem? h.context
    exact Memory.mem_lessons_iff.2 ⟨conversation, hstory, earlier.states, hcontext, hwindow⟩
  · intro trackers hrule hfirst
    obtain ⟨hmem, hrule⟩ := List.mem_filter.1 hrule
    obtain ⟨rule, hknown, hconditions, haction⟩ := Rule.mem_known_iff.2
      ⟨conversation, hmem, hrule, _, h.yieldsAt hfirst⟩
    refine ⟨rule, hknown, haction, hconditions, Rule.matches_of_suffix ?_⟩
    rw [hconditions]
    exact List.drop_suffix _ _

/-- What happened before is told in the same way whatever happens later. If an action is next, then
it is taken in the states so far, and the policies are trained on those. -/
theorem extends_append (domain : Domain) (interpreter : Interpreter) (before since : List Event) :
    Extends (ofEvents domain interpreter before) (ofEvents domain interpreter (before ++ since)) ∧
      ∀ action, since.head?.bind Event.action? = some action →
        GoesOn (ofEvents domain interpreter before)
            (ofEvents domain interpreter (before ++ since)) action ∧
          ∀ conversation : Tracker, conversation.events = before ++ since →
            Teaches conversation domain interpreter (ofEvents domain interpreter before)
              action := by
  constructor
  · apply extends_of_turns
    rw [turns_ofEvents_append]
    exact List.prefix_append _ _
  · intro action hnext
    obtain ⟨event, hhead, haction⟩ := Option.bind_eq_some_iff.1 hnext
    obtain ⟨rest, rfl⟩ := List.head?_eq_some_iff.1 hhead
    have hgoes : GoesOn (ofEvents domain interpreter before)
        (ofEvents domain interpreter (before ++ event :: rest)) action :=
      goesOn_of_turns (turns_executed haction)
    refine ⟨hgoes, fun conversation hevents => GoesOn.teaches ?_⟩
    unfold Tracker.history
    rw [hevents]
    exact hgoes

end History

end Dialogue
