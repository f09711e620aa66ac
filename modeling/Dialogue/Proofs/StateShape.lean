import Dialogue.Proofs.FreshMessages

/-!
There is a state at each action and one at the end. A state shows a message after a listen only, and
of each slot what the domain makes of the value it was last set to.
-/
namespace Dialogue

variable {domain : Domain} {interpreter : Interpreter} {events before between : List Event}
  {event : Event} {replay : Replay} {name feature action : String} {value : Json} {i : Nat}

/-! ### Slots -/

/-- The slot was last set to the value, and no restart came since. -/
def LastSet (name : String) (value : Json) : List Event → Prop :=
  Lately (fun _ event => event = .slotSet name value) fun event =>
    event.isRestart = false ∧ ∀ other, event ≠ .slotSet name other

namespace Replay

theorem get?_slots_iff :
    (after interpreter events).slots.get? name = some value ↔ LastSet name value events := by
  induction events using List.reverseRecOn with
  | nil => exact iff_of_false (by simp) not_lately_nil
  | append_singleton events last ih =>
    unfold LastSet at ih ⊢
    rw [after_concat, lately_concat, ← ih]
    cases last with
    | slotSet key item =>
      by_cases hkey : name = key
      · subst hkey
        simp [observe]
      · simp [observe, hkey, Event.isRestart, Ne.symm hkey]
    | actionExecuted title text _ _ =>
      cases title <;> cases text <;> simp [observe, Event.isRestart]
    | _ => simp [observe, Event.isRestart]

theorem mem_slotFeatures {slots : SortedMap Json} :
    (name, feature) ∈ slotFeatures domain slots ↔ ∃ value slot, slots.get? name = some value ∧
      domain.slot? name = some slot ∧ slot.feature? value = some feature := by
  unfold slotFeatures
  simp only [List.mem_filterMap, Option.map_eq_some_iff, Option.bind_eq_some_iff, Prod.exists,
    Prod.mk.injEq, SortedMap.mem_entries_iff]
  constructor
  · rintro ⟨key, value, hvalue, shown, ⟨slot, hslot, hfeature⟩, rfl, rfl⟩
    exact ⟨value, slot, hvalue, hslot, hfeature⟩
  · rintro ⟨value, slot, hvalue, hslot, hfeature⟩
    exact ⟨name, value, hvalue, feature, ⟨slot, hslot, hfeature⟩, rfl, rfl⟩

theorem pairwise_slotFeatures (domain : Domain) (slots : SortedMap Json) :
    (slotFeatures domain slots).Pairwise fun a b => a.1 < b.1 := by
  unfold slotFeatures
  refine List.pairwise_filterMap.2 (slots.sorted.imp fun {a b} hlt shown hshown other hother => ?_)
  obtain ⟨_, _, rfl⟩ := Option.map_eq_some_iff.1 hshown
  obtain ⟨_, _, rfl⟩ := Option.map_eq_some_iff.1 hother
  exact hlt

/-! ### Messages -/

/-- What is remembered of a message: the text stands in for an intent that is not known, and the
entities are in order. -/
structure Tidy (replay : Replay) : Prop where
  exclusive : replay.userIntent = none ∨ replay.userText = none
  entities : replay.entities.Pairwise (· < ·)

theorem Tidy.observe (h : replay.Tidy) (interpreter : Interpreter) (event : Event) :
    (replay.observe interpreter event).Tidy := by
  cases event with
  | userUttered text intent entities =>
    refine ⟨?_, SortedMap.pairwise_keys _⟩
    cases hname : intentName interpreter intent text with
    | none => exact Or.inl hname
    | some _ => exact Or.inr (by simp [Replay.observe, hname])
  | actionExecuted title text _ _ =>
    unfold Replay.observe
    dsimp only
    split
    · exact ⟨h.exclusive, h.entities⟩
    · exact h
  | restarted => exact ⟨Or.inl rfl, .nil⟩
  | _ => exact ⟨h.exclusive, h.entities⟩

theorem tidy_after (interpreter : Interpreter) (events : List Event) :
    (after interpreter events).Tidy := by
  induction events using List.reverseRecOn with
  | nil => exact ⟨Or.inl rfl, .nil⟩
  | append_singleton events last ih =>
    rw [after_concat]
    exact ih.observe interpreter last

end Replay

/-- A state after some events. What it shows of a message it shows right after a listen, and of the
slots it shows those that have a feature. -/
structure TurnState.Shaped (domain : Domain) (before : List Event) (state : TurnState) : Prop where
  masked : state.prevAction ≠ some listenAction →
    state.userIntent = none ∧ state.userText = none ∧ state.entities = []
  exclusive : state.userIntent = none ∨ state.userText = none
  entities : state.entities.Pairwise (· < ·)
  names : state.slots.Pairwise fun a b => a.1 < b.1
  mem_slots_iff (name feature : String) : (name, feature) ∈ state.slots ↔
    ∃ value slot, LastSet name value before ∧ domain.slot? name = some slot ∧
      slot.feature? value = some feature

theorem shaped_current (domain : Domain) (interpreter : Interpreter) (before : List Event) :
    (History.ofEvents domain interpreter before).current.Shaped domain before := by
  rw [History.current_ofEvents]
  have htidy := Replay.tidy_after interpreter before
  constructor
  · intro (hprev : (Replay.after interpreter before).prevAction ≠ some listenAction)
    simp [Replay.state, hprev]
  · by_cases hlisten : (Replay.after interpreter before).prevAction = some listenAction
    · simpa [Replay.state, hlisten] using htidy.exclusive
    · simp [Replay.state, hlisten]
  · by_cases hlisten : (Replay.after interpreter before).prevAction = some listenAction
    · simpa [Replay.state, hlisten] using htidy.entities
    · simp [Replay.state, hlisten]
  · exact Replay.pairwise_slotFeatures domain _
  · intro name feature
    refine Replay.mem_slotFeatures.trans ?_
    simp only [Replay.get?_slots_iff]

/-! ### The latest action -/

theorem prevAction_after_append (h : ∀ event ∈ between, event.action? = none) :
    (Replay.after interpreter (before ++ between)).prevAction =
      if between.any Event.isRestart then none
      else (Replay.after interpreter before).prevAction := by
  induction between using List.reverseRecOn with
  | nil => simp
  | append_singleton between last ih =>
    obtain ⟨hbetween, hlast⟩ := List.forall_mem_append.1 h
    rw [← List.append_assoc, prevAction_after_concat, ih hbetween, hlast last (by simp),
      List.any_append]
    cases hrestart : last.isRestart with
    | true => simp [hrestart]
    | false => simp [hrestart]

theorem prevAction_after_action (haction : event.action? = some action)
    (h : ∀ other ∈ between, other.action? = none) :
    (Replay.after interpreter (before ++ event :: between)).prevAction =
      if between.any Event.isRestart then none else some action := by
  rw [← List.singleton_append, ← List.append_assoc, prevAction_after_append h,
    Replay.after_concat, Replay.observe_of_some _ haction]

namespace History

theorem actions_replayFrom (replay : Replay) (events : List Event) :
    (replayFrom domain interpreter replay events).actions =
      events.filterMap Event.action? := by
  induction events generalizing replay with
  | nil => rfl
  | cons event rest ih =>
    cases haction : event.action? with
    | none => rw [replayFrom_of_none haction, List.filterMap_cons_none haction, ih]
    | some action =>
      rw [replayFrom_of_some haction, List.filterMap_cons_some haction,
        ← ih (replay.observe interpreter event)]
      rfl

theorem prevAction_current (domain : Domain) (interpreter : Interpreter) (events : List Event) :
    (ofEvents domain interpreter events).current.prevAction =
      (Replay.after interpreter events).prevAction := by
  rw [current_ofEvents]
  rfl

theorem head?_points (events : List Event) :
    ∃ before, (points events).head? = some before ∧ ∀ event ∈ before, event.action? = none := by
  induction events with
  | nil => exact ⟨[], rfl, by simp⟩
  | cons event rest ih =>
    obtain ⟨before, hhead, hquiet⟩ := ih
    rw [points_cons]
    cases haction : event.action? with
    | none => exact ⟨event :: before, by simp [hhead], by simpa [haction] using hquiet⟩
    | some action => exact ⟨[], rfl, by simp⟩

/-- From the beginning at the position to the next one a single action is taken, and first. -/
def AdvancesAt (points : List (List Event)) (i : Nat) (action : String) : Prop :=
  ∃ before event between, points[i]? = some before ∧
    points[i + 1]? = some (before ++ event :: between) ∧ event.action? = some action ∧
    ∀ other ∈ between, other.action? = none

theorem AdvancesAt.cons {points : List (List Event)} (h : AdvancesAt points i action)
    (first : Event) : AdvancesAt (points.map (first :: ·)) i action := by
  obtain ⟨before, event, between, hbefore, hafter, hevent, hquiet⟩ := h
  refine ⟨first :: before, event, between, ?_, ?_, hevent, hquiet⟩
  · simp [hbefore]
  · simp [hafter]

theorem advancesAt_points (h : (events.filterMap Event.action?)[i]? = some action) :
    AdvancesAt (points events) i action := by
  induction events generalizing i with
  | nil => simp at h
  | cons event rest ih =>
    rw [points_cons]
    cases haction : event.action? with
    | none =>
      rw [List.filterMap_cons_none haction] at h
      exact (ih h).cons event
    | some taken =>
      rw [List.filterMap_cons_some haction] at h
      cases i with
      | zero =>
        obtain ⟨between, hhead, hquiet⟩ := head?_points rest
        rw [List.head?_eq_getElem?] at hhead
        exact ⟨[], event, between, rfl, by simp [hhead], haction.trans h, hquiet⟩
      | succ i => exact (ih h).cons event

/-- A history of some events. The first state has no latest action. Each later one has the action of
the turn before it, which is the only action from that point on, unless a restart came after it. -/
structure Shaped (domain : Domain) (events : List Event) (history : History) : Prop where
  actions : history.actions = events.filterMap Event.action?
  length : history.states.length = history.actions.length + 1
  first : ∃ state, history.states.head? = some state ∧ state.prevAction = none
  next (i : Nat) (action : String) : history.actions[i]? = some action →
    ∃ before event between state, (points events)[i]? = some before ∧
      (points events)[i + 1]? = some (before ++ event :: between) ∧
      event.action? = some action ∧ (∀ other ∈ between, other.action? = none) ∧
      history.states[i + 1]? = some state ∧
      state.prevAction = if between.any Event.isRestart then none else some action
  each (i : Nat) (state : TurnState) : history.states[i]? = some state →
    ∃ before, (points events)[i]? = some before ∧ state.Shaped domain before

theorem shaped_ofEvents (domain : Domain) (interpreter : Interpreter) (events : List Event) :
    (ofEvents domain interpreter events).Shaped domain events := by
  have hactions : (ofEvents domain interpreter events).actions =
      events.filterMap Event.action? := actions_replayFrom {} events
  refine ⟨hactions, length_states _, ?_, ?_, ?_⟩
  · obtain ⟨before, hhead, hquiet⟩ := head?_points events
    refine ⟨(ofEvents domain interpreter before).current, ?_, ?_⟩
    · rw [states_ofEvents, List.head?_map, hhead]
      rfl
    · rw [prevAction_current]
      have hprev : (Replay.after interpreter ([] ++ before)).prevAction = _ :=
        prevAction_after_append hquiet
      simpa using hprev
  · intro i action haction
    rw [hactions] at haction
    obtain ⟨before, event, between, hbefore, hafter, hevent, hquiet⟩ := advancesAt_points haction
    refine ⟨before, event, between,
      (ofEvents domain interpreter (before ++ event :: between)).current,
      hbefore, hafter, hevent, hquiet, ?_, ?_⟩
    · rw [states_ofEvents, List.getElem?_map, hafter]
      rfl
    · rw [prevAction_current]
      exact prevAction_after_action hevent hquiet
  · intro i state hstate
    rw [states_ofEvents, List.getElem?_map, Option.map_eq_some_iff] at hstate
    obtain ⟨before, hbefore, rfl⟩ := hstate
    exact ⟨before, hbefore, shaped_current domain interpreter before⟩

end History

end Dialogue
