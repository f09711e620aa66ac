import Dialogue.History

/-!
A replay in parts. The history of events that follow others has the turns of both, the later ones
told on from what was remembered; a restart leaves nothing to remember.
-/
namespace Dialogue

variable {domain : Domain} {interpreter : Interpreter}

def Event.isRestart : Event → Bool
  | restarted => true
  | _ => false

namespace Situation

def after (events : List Event) : Situation := events.foldl record {}

@[simp] theorem after_nil : after [] = {} := rfl

@[simp] theorem after_concat (events : List Event) (event : Event) :
    after (events ++ [event]) = (after events).record event := by
  simp [after]

@[simp] theorem after_restart (before since : List Event) :
    after (before ++ .restarted :: since) = after since := by
  simp [after, record]

end Situation

namespace Replay

def after (interpreter : Interpreter) (events : List Event) : Replay :=
  events.foldl (observe interpreter) {}

@[simp] theorem after_nil : after interpreter [] = {} := rfl

@[simp] theorem after_concat (events : List Event) (event : Event) :
    after interpreter (events ++ [event]) = (after interpreter events).observe interpreter event := by
  simp [after]

@[simp] theorem after_restart (before since : List Event) :
    after interpreter (before ++ .restarted :: since) = after interpreter since := by
  simp [after, observe]

theorem observe_of_none {event : Event} (replay : Replay) (haction : event.action? = none) :
    (replay.observe interpreter event).prevAction =
      if event.isRestart then none else replay.prevAction := by
  cases event with
  | actionExecuted name text _ _ =>
    have hnone : (name <|> text) = none := haction
    simp [observe, hnone, Event.isRestart]
  | _ => simp [observe, Event.isRestart]

theorem observe_of_some {event : Event} {action : String} (replay : Replay)
    (haction : event.action? = some action) :
    replay.observe interpreter event = { replay with prevAction := some action } := by
  cases event with
  | actionExecuted name text _ _ =>
    have hsome : (name <|> text) = some action := haction
    simp [observe, hsome]
  | _ => cases haction

end Replay

namespace History

@[simp] theorem current_replayFrom (replay : Replay) (events : List Event) :
    (replayFrom domain interpreter replay events).current =
      (events.foldl (Replay.observe interpreter) replay).state domain := by
  induction events generalizing replay with
  | nil => rfl
  | cons event rest ih =>
    rw [replayFrom]
    cases event.action? with
    | none => exact ih _
    | some action => exact ih _

theorem current_ofEvents (events : List Event) :
    (ofEvents domain interpreter events).current =
      (Replay.after interpreter events).state domain :=
  current_replayFrom {} events

@[simp] theorem turns_replayFrom_append (replay : Replay) (front back : List Event) :
    (replayFrom domain interpreter replay (front ++ back)).turns =
      (replayFrom domain interpreter replay front).turns ++
        (replayFrom domain interpreter (front.foldl (Replay.observe interpreter) replay)
          back).turns := by
  induction front generalizing replay with
  | nil => rfl
  | cons event rest ih =>
    rw [List.cons_append, replayFrom, replayFrom]
    cases event.action? with
    | none => exact ih _
    | some action => simp [ih]

theorem turns_ofEvents_append (front back : List Event) :
    (ofEvents domain interpreter (front ++ back)).turns =
      (ofEvents domain interpreter front).turns ++
        (replayFrom domain interpreter (Replay.after interpreter front) back).turns :=
  turns_replayFrom_append {} front back

/-- A restart ends no turn. The turns before it stay, and those after it are told as from the start. -/
theorem states_restart (before since : List Event) :
    (ofEvents domain interpreter (before ++ .restarted :: since)).states =
      (ofEvents domain interpreter before).turns.map Prod.fst ++
        (ofEvents domain interpreter since).states := by
  have hlater : replayFrom domain interpreter (Replay.after interpreter before)
      (.restarted :: since) = ofEvents domain interpreter since := rfl
  unfold states
  rw [turns_ofEvents_append, hlater, current_ofEvents, current_ofEvents, Replay.after_restart]
  simp

end History

end Dialogue
