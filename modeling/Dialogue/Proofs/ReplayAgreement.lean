import Dialogue.Proofs.ReplayParts
import Mathlib.Data.List.Induction

/-!
The situation and the state at the end of the history agree on slots, loop and message. On the
latest action they differ after an action without name and text, which goes unnoticed in the
history.
-/
namespace Dialogue

variable {domain : Domain} {interpreter : Interpreter} {events : List Event}

def Event.isRun : Event → Bool
  | actionExecuted .. => true
  | _ => false

/-! ### What a step keeps -/

/-- What a latest message is understood as: nothing if there is none; else the intent it came with
or, without one, what its text stands for, if it came with a text. -/
def Understood (interpreter : Interpreter) (events : List Event) (message : Option Parse)
    (name : Option String) : Prop :=
  match message with
  | none => name = none
  | some message => ∃ text,
      events.reverse.find? Event.isUser =
        some (.userUttered text message.intent message.entities) ∧
      message.text = text.getD "" ∧
      name = Replay.intentName interpreter message.intent text

theorem Understood.concat {message : Option Parse} {name : Option String} {event : Event}
    (h : Understood interpreter events message name) (hother : event.isUser = false) :
    Understood interpreter (events ++ [event]) message name := by
  cases message with
  | none => exact h
  | some message => simpa [Understood, hother] using h

/-- A replay that remembers what the situation says. Of the latest action this holds only as long as
the situation has one. -/
structure Follows (interpreter : Interpreter) (events : List Event) (situation : Situation)
    (replay : Replay) : Prop where
  slots : replay.slots = situation.slots
  activeLoop : replay.activeLoop = situation.activeLoop
  action : situation.latestAction ≠ none → replay.prevAction = situation.latestAction
  message : Understood interpreter events situation.latestMessage replay.userIntent

theorem Follows.step {situation : Situation} {replay : Replay}
    (h : Follows interpreter events situation replay) (event : Event) :
    Follows interpreter (events ++ [event]) (situation.record event)
      (replay.observe interpreter event) := by
  cases event with
  | userUttered text intent entities =>
    refine ⟨h.slots, h.activeLoop, h.action, text, ?_, rfl, rfl⟩
    simp [Event.isUser]
  | actionExecuted name text policy confidence =>
    have hmessage : Understood interpreter
        (events ++ [.actionExecuted name text policy confidence]) situation.latestMessage
        replay.userIntent := h.message.concat rfl
    cases haction : (name <|> text) with
    | none =>
      simp only [Replay.observe, Situation.record, haction]
      exact ⟨h.slots, h.activeLoop, fun hsome => absurd rfl hsome, hmessage⟩
    | some action =>
      simp only [Replay.observe, Situation.record, haction]
      exact ⟨h.slots, h.activeLoop, fun _ => rfl, hmessage⟩
  | slotSet key value =>
    refine ⟨?_, h.activeLoop, h.action, h.message.concat rfl⟩
    simp [Replay.observe, Situation.record, h.slots]
  | activeLoop name => exact ⟨h.slots, rfl, h.action, h.message.concat rfl⟩
  | restarted => exact ⟨rfl, rfl, fun hsome => absurd rfl hsome, rfl⟩
  | botUttered _ | actionRejected _ _ _ | featurization _ =>
    exact ⟨h.slots, h.activeLoop, h.action, h.message.concat rfl⟩

theorem follows_after (interpreter : Interpreter) (events : List Event) :
    Follows interpreter events (Situation.after events) (Replay.after interpreter events) := by
  induction events using List.reverseRecOn with
  | nil => exact ⟨rfl, rfl, fun hsome => absurd rfl hsome, rfl⟩
  | append_singleton events event ih =>
    rw [Replay.after_concat, Situation.after_concat]
    exact ih.step event

/-! ### The latest action -/

/-- Some event is of a kind, given the events before it, and all events since are of another. -/
def Lately (kind : List Event → Event → Prop) (since : Event → Prop) (events : List Event) : Prop :=
  ∃ before event later, events = before ++ event :: later ∧ kind before event ∧
    ∀ other ∈ later, since other

theorem not_lately_nil {kind : List Event → Event → Prop} {since : Event → Prop} :
    ¬ Lately kind since [] := by
  rintro ⟨before, event, later, hevents, _⟩
  simp at hevents

theorem lately_concat {kind : List Event → Event → Prop} {since : Event → Prop} {last : Event} :
    Lately kind since (events ++ [last]) ↔
      kind events last ∨ since last ∧ Lately kind since events := by
  constructor
  · rintro ⟨before, event, later, hevents, hkind, hsince⟩
    -- The event is the last one itself, or the last one is among those since.
    rcases List.eq_nil_or_concat later with rfl | ⟨later, other, rfl⟩
    · obtain ⟨rfl, hlast⟩ := List.append_inj' hevents rfl
      cases hlast
      exact Or.inl hkind
    · rw [List.concat_eq_append] at hevents hsince
      rw [← List.cons_append, ← List.append_assoc] at hevents
      obtain ⟨hfront, hlast⟩ := List.append_inj' hevents rfl
      cases hlast
      refine Or.inr ⟨hsince last (by simp), before, event, later, hfront, hkind, ?_⟩
      exact fun other hmem => hsince other (by simp [hmem])
  · rintro (hkind | ⟨hlast, before, event, later, rfl, hkind, hsince⟩)
    · exact ⟨events, last, [], rfl, hkind, by simp⟩
    · refine ⟨before, event, later ++ [last], by simp, hkind, ?_⟩
      intro other hmem
      rcases List.mem_append.1 hmem with hmem | hmem
      · exact hsince other hmem
      · rwa [List.mem_singleton.1 hmem]

def Named : List Event → Prop :=
  Lately (fun _ event => event.action? ≠ none) fun event => event.isRestart = false

/-- The action that was run last has neither a name nor a text, but one before it has. -/
def Blurs : List Event → Prop :=
  Lately (fun before event => event.isRun = true ∧ event.action? = none ∧ Named before)
    fun event => event.isRun = false ∧ event.isRestart = false

theorem prevAction_after_concat (events : List Event) (last : Event) :
    (Replay.after interpreter (events ++ [last])).prevAction =
      if last.isRestart then none
      else last.action? <|> (Replay.after interpreter events).prevAction := by
  rw [Replay.after_concat]
  cases haction : last.action? with
  | none => simp [Replay.observe_of_none _ haction]
  | some action =>
    have hstays : last.isRestart = false := by
      cases last with
      | restarted => cases haction
      | _ => rfl
    simp [Replay.observe_of_some _ haction, hstays]

theorem named_iff (interpreter : Interpreter) :
    Named events ↔ (Replay.after interpreter events).prevAction ≠ none := by
  induction events using List.reverseRecOn with
  | nil => exact iff_of_false not_lately_nil (by simp)
  | append_singleton events last ih =>
    unfold Named at ih ⊢
    rw [prevAction_after_concat, lately_concat, ih]
    cases last with
    | actionExecuted name text _ _ =>
      cases name <;> cases text <;> simp [Event.action?, Event.isRestart]
    | _ => simp [Event.action?, Event.isRestart]

theorem latestAction_after_concat (events : List Event) (last : Event) :
    (Situation.after (events ++ [last])).latestAction =
      if last.isRun then last.action?
      else if last.isRestart then none else (Situation.after events).latestAction := by
  rw [Situation.after_concat]
  cases last <;> rfl

theorem blurs_iff : Blurs events ↔
    (Situation.after events).latestAction = none ∧
      (Replay.after interpreter events).prevAction ≠ none := by
  induction events using List.reverseRecOn with
  | nil => exact iff_of_false not_lately_nil (by simp)
  | append_singleton events last ih =>
    unfold Blurs at ih ⊢
    rw [lately_concat, ih, latestAction_after_concat, prevAction_after_concat,
      named_iff interpreter]
    cases last with
    | actionExecuted name text _ _ =>
      cases name <;> cases text <;> simp [Event.action?, Event.isRestart, Event.isRun]
    | _ => simp [Event.action?, Event.isRestart, Event.isRun]

/-! ### Agreement -/

namespace Tracker

/-- The state at the end of the history says of slots, loop and message what the situation says. -/
structure AgreesApart (tracker : Tracker) (domain : Domain) (interpreter : Interpreter) : Prop where
  slots : (tracker.history domain interpreter).current.slots =
    Replay.slotFeatures domain tracker.slots
  activeLoop : (tracker.history domain interpreter).current.activeLoop = tracker.activeLoop
  userIntent : tracker.latestAction = some listenAction →
    Understood interpreter tracker.events tracker.latestMessage
      (tracker.history domain interpreter).current.userIntent

structure Agrees (tracker : Tracker) (domain : Domain) (interpreter : Interpreter) : Prop extends
    tracker.AgreesApart domain interpreter where
  prevAction : (tracker.history domain interpreter).current.prevAction = tracker.latestAction

theorem current_history (tracker : Tracker) :
    (tracker.history domain interpreter).current =
      (Replay.after interpreter tracker.events).state domain :=
  History.current_ofEvents tracker.events

theorem agreesApart (tracker : Tracker) (domain : Domain) (interpreter : Interpreter) :
    tracker.AgreesApart domain interpreter := by
  have hfollows := follows_after interpreter tracker.events
  constructor
  · rw [current_history]
    exact congrArg (Replay.slotFeatures domain) hfollows.slots
  · rw [current_history]
    exact hfollows.activeLoop
  · intro (hlisten : (Situation.after tracker.events).latestAction = some listenAction)
    have hprev := hfollows.action (by simp [hlisten])
    rw [hlisten] at hprev
    rw [current_history]
    show Understood interpreter _ (Situation.after tracker.events).latestMessage _
    simpa [Replay.state, hprev] using hfollows.message

/-- The two accounts agree unless the latest action was blurred. Then the situation has no latest
action, the state at the end has the one before, and they still agree on all else. -/
theorem agrees_iff_not_blurs (tracker : Tracker) (domain : Domain) (interpreter : Interpreter) :
    tracker.AgreesApart domain interpreter ∧
      (tracker.Agrees domain interpreter ↔ ¬ Blurs tracker.events) ∧
      (Blurs tracker.events → tracker.latestAction = none ∧
        (tracker.history domain interpreter).current.prevAction ≠ none) := by
  have hprev : (tracker.history domain interpreter).current.prevAction =
      (Replay.after interpreter tracker.events).prevAction := by
    rw [current_history]
    rfl
  refine ⟨agreesApart tracker domain interpreter, ?_, ?_⟩
  · constructor
    · intro hagrees hblurs
      obtain ⟨hnone, hsome⟩ := blurs_iff.1 hblurs
      exact hsome (hprev.symm.trans (hagrees.prevAction.trans hnone))
    · intro hclear
      refine ⟨agreesApart tracker domain interpreter, hprev.trans ?_⟩
      by_cases hnone : (Situation.after tracker.events).latestAction = none
      · refine Eq.trans ?_ hnone.symm
        by_contra hsome
        exact hclear (blurs_iff.2 ⟨hnone, hsome⟩)
      · exact (follows_after interpreter tracker.events).action hnone
  · intro hblurs
    rw [hprev]
    exact blurs_iff.1 hblurs

def listenedAndMoved : Tracker :=
  .ofEvents "user" [.executed listenAction, .uttered "hi" "greet",
    .actionExecuted none none none none]

theorem not_agrees_listenedAndMoved : ¬ listenedAndMoved.Agrees .empty .ofMessages := by
  intro hagrees
  have hprev : some listenAction = none := hagrees.prevAction
  cases hprev

end Tracker

end Dialogue
