import Dialogue.Proofs.ParsedTurns
import Dialogue.Proofs.Recollection
import Dialogue.Proofs.ReplayAgreement
import Mathlib.Data.List.Infix

/-!
Whether the message that a state shows is new. A replay keeps a message until the next one, and a
state shows it right after a listen. So the state shows a new message once the user has answered the
listen; as long as the assistant waits, it shows the one from before.
-/
namespace Dialogue

variable {domain : Domain} {interpreter : Interpreter} {events : List Event} {replay : Replay}

/-! ### States and the events before them -/

namespace History

/-- The beginnings of a conversation that its states describe: those up to an action, and all. -/
def points (events : List Event) : List (List Event) :=
  events.inits.filter fun before => events[before.length]?.all (·.action?.isSome)

theorem points_cons (event : Event) (rest : List Event) : points (event :: rest) =
    (if event.action?.isSome then [[]] else []) ++ (points rest).map (event :: ·) := by
  unfold points
  rw [List.inits_cons, List.filter_cons, List.filter_map]
  simp only [List.length_nil, List.getElem?_cons_zero, Option.all_some]
  have hlater : (fun before => (event :: rest)[before.length]?.all (·.action?.isSome)) ∘
      (event :: ·) = fun before : List Event => rest[before.length]?.all (·.action?.isSome) := by
    funext before
    simp
  rw [hlater]
  split <;> simp

theorem states_replayFrom (replay : Replay) (events : List Event) :
    (replayFrom domain interpreter replay events).states =
      (points events).map fun before =>
        (before.foldl (Replay.observe interpreter) replay).state domain := by
  induction events generalizing replay with
  | nil => rfl
  | cons event rest ih =>
    have hlater := ih (replay.observe interpreter event)
    rw [points_cons]
    cases haction : event.action? with
    | none =>
      rw [replayFrom_of_none haction, hlater]
      simp [Function.comp_def]
    | some action =>
      rw [replayFrom_of_some haction]
      unfold states at hlater ⊢
      simp [Function.comp_def, ← hlater]

theorem states_ofEvents (events : List Event) : (ofEvents domain interpreter events).states =
    (points events).map fun before => (ofEvents domain interpreter before).current := by
  simp only [current_ofEvents]
  exact states_replayFrom {} events

end History

/-! ### What shows -/

def TurnState.ShowsMessage (state : TurnState) : Prop :=
  state.userIntent ≠ none ∨ state.userText ≠ none ∨ state.entities ≠ []

namespace Event

/-- A message that has an intent, a text or entities. -/
def Tells : Event → Prop
  | userUttered text intent entities => intent ≠ none ∨ text ≠ none ∨ entities ≠ []
  | _ => False

/-- Neither an action with a name or a text nor a restart. -/
def Quiet (event : Event) : Prop := event.action? = none ∧ event.isRestart = false

end Event

def Listening : List Event → Prop :=
  Lately (fun _ event => event.action? = some listenAction) Event.Quiet

/-- The latest action is a listen, and a message came after it. -/
def Answered : List Event → Prop :=
  Lately (fun before event => event.isUser = true ∧ Listening before) Event.Quiet

/-- The latest message since the last restart tells something. -/
def Told : List Event → Prop :=
  Lately (fun _ event => event.Tells) fun event => event.endsMessage = false

namespace Replay

def RemembersMessage (replay : Replay) : Prop :=
  replay.userIntent ≠ none ∨ replay.userText ≠ none ∨ replay.entities ≠ []

theorem showsMessage_state_iff : (replay.state domain).ShowsMessage ↔
    replay.prevAction = some listenAction ∧ replay.RemembersMessage := by
  unfold TurnState.ShowsMessage RemembersMessage state
  by_cases h : replay.prevAction = some listenAction <;> simp [h]

theorem intentName_or_text (interpreter : Interpreter) (intent : Option Intent)
    (text : Option String) :
    (intentName interpreter intent text ≠ none ∨
        (if (intentName interpreter intent text).isNone then text else none) ≠ none) ↔
      intent ≠ none ∨ text ≠ none := by
  cases intent with
  | some intent => simp [intentName]
  | none =>
    cases hname : intentName interpreter none text with
    | none => simp
    | some name =>
      cases text with
      | none => cases hname
      | some text => simp

theorem remembersMessage_observe (replay : Replay) (event : Event) :
    (replay.observe interpreter event).RemembersMessage ↔
      event.Tells ∨ event.endsMessage = false ∧ replay.RemembersMessage := by
  cases event with
  | userUttered text intent entities =>
    have hkept := intentName_or_text interpreter intent text
    simp only [observe, RemembersMessage, Event.Tells, Event.endsMessage, ne_eq, entityNames_eq_nil]
      at hkept ⊢
    rw [← or_assoc, hkept, or_assoc]
    simp
  | actionExecuted name text policy confidence =>
    cases name <;> cases text <;>
      simp [observe, RemembersMessage, Event.Tells, Event.endsMessage]
  | restarted => simp [observe, RemembersMessage, Event.Tells, Event.endsMessage]
  | _ => simp [observe, RemembersMessage, Event.Tells, Event.endsMessage]

end Replay

theorem listening_iff (interpreter : Interpreter) : Listening events ↔
    (Replay.after interpreter events).prevAction = some listenAction := by
  induction events using List.reverseRecOn with
  | nil => exact iff_of_false not_lately_nil (by simp)
  | append_singleton events last ih =>
    unfold Listening at ih ⊢
    rw [prevAction_after_concat, lately_concat, ih]
    cases last with
    | actionExecuted name text _ _ =>
      cases name <;> cases text <;> simp [Event.Quiet, Event.action?, Event.isRestart]
    | _ => simp [Event.Quiet, Event.action?, Event.isRestart]

theorem told_iff (interpreter : Interpreter) : Told events ↔
    (Replay.after interpreter events).RemembersMessage := by
  induction events using List.reverseRecOn with
  | nil => exact iff_of_false not_lately_nil (by simp [Replay.RemembersMessage])
  | append_singleton events last ih =>
    unfold Told at ih ⊢
    rw [Replay.after_concat, Replay.remembersMessage_observe, lately_concat, ih]

/-! ### Freshness -/

namespace History

theorem showsMessage_current_iff (domain : Domain) (interpreter : Interpreter)
    (events : List Event) : (ofEvents domain interpreter events).current.ShowsMessage ↔
      Listening events ∧ Told events := by
  rw [current_ofEvents, Replay.showsMessage_state_iff, listening_iff interpreter,
    told_iff interpreter]

theorem prevAction_current_iff (domain : Domain) (interpreter : Interpreter)
    (events : List Event) :
    (ofEvents domain interpreter events).current.prevAction = some listenAction ↔
      Listening events := by
  rw [current_ofEvents, listening_iff interpreter]
  rfl

/-- If the state at the end shows something of a message, then the latest action is a listen and a
message came after it. -/
def Fresh (domain : Domain) (interpreter : Interpreter) (events : List Event) : Prop :=
  (ofEvents domain interpreter events).current.ShowsMessage →
    (ofEvents domain interpreter events).current.prevAction = some listenAction ∧ Answered events

/-- The assistant waits for the user, and there is an earlier message that told something. -/
def Lingers (events : List Event) : Prop := Listening events ∧ Told events ∧ ¬ Answered events

/-- The states of a conversation are those that its beginnings end in. Such a state shows a message
exactly if the latest action is a listen and the latest message told something, whenever that was.
So what it shows is new unless the assistant still waits and an earlier message lingers. -/
theorem fresh_iff_not_lingers (domain : Domain) (interpreter : Interpreter) (events : List Event) :
    (ofEvents domain interpreter events).states =
        (points events).map (fun before => (ofEvents domain interpreter before).current) ∧
      ((ofEvents domain interpreter events).current.ShowsMessage ↔
        Listening events ∧ Told events) ∧
      (Fresh domain interpreter events ↔ ¬ Lingers events) := by
  have hshows := showsMessage_current_iff domain interpreter events
  refine ⟨states_ofEvents events, hshows, ?_⟩
  unfold Fresh Lingers
  rw [prevAction_current_iff, hshows]
  constructor
  · rintro hfresh ⟨hlistening, htold, hwaiting⟩
    exact hwaiting (hfresh ⟨hlistening, htold⟩).2
  · rintro hclear ⟨hlistening, htold⟩
    refine ⟨hlistening, ?_⟩
    by_contra hwaiting
    exact hclear ⟨hlistening, htold, hwaiting⟩

theorem not_answered_executed (events : List Event) (action : String) :
    ¬ Answered (events ++ [.executed action]) := by
  unfold Answered
  rw [lately_concat]
  rintro (⟨huser, _⟩ | ⟨hquiet, _⟩)
  · cases huser
  · cases hquiet.1

/-- The greeting was dealt with and the assistant listens again, but the state still shows the
greeting. -/
theorem not_fresh_waiting : ¬ Fresh .empty .ofMessages
    ([.executed listenAction, .uttered "hi" "greet", .executed "utter_greet"] ++
      [.executed listenAction]) := by
  intro hfresh
  exact not_answered_executed _ _ (hfresh (Or.inl (by decide))).2

end History

end Dialogue
