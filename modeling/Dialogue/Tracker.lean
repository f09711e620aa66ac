import Dialogue.Event
import Dialogue.Interpreter

/-!
A conversation is the list of its events. What they amount to at the end (slots, latest message,
latest action, running loop) is kept up event by event in a `Situation`.
-/
namespace Dialogue

structure Situation where
  slots : SortedMap Json := ∅
  latestMessage : Option Parse := none
  latestAction : Option String := none
  activeLoop : Option String := none

/-- A restart forgets everything before it. -/
def Situation.record (situation : Situation) : Event → Situation
  | .userUttered text intent entities =>
    { situation with latestMessage := some ⟨text.getD "", intent, entities, intent.toList⟩ }
  | .actionExecuted name text _ _ => { situation with latestAction := name <|> text }
  | .slotSet key value => { situation with slots := situation.slots.insert key value }
  | .activeLoop name => { situation with activeLoop := name }
  | .restarted => {}
  | .botUttered _ | .actionRejected .. | .featurization _ => situation

structure Tracker where
  sender : String
  events : List Event
  /-- The conversation stands for a rule and is no story. -/
  isRule : Bool := false

namespace Tracker

def ofEvents (sender : String) (events : List Event) : Tracker := ⟨sender, events, false⟩

def record (tracker : Tracker) (event : Event) : Tracker :=
  { tracker with events := tracker.events ++ [event] }

def asRule (tracker : Tracker) : Tracker := { tracker with isRule := true }

def situation (tracker : Tracker) : Situation := tracker.events.foldl Situation.record {}

@[simp] theorem situation_record (tracker : Tracker) (event : Event) :
    (tracker.record event).situation = tracker.situation.record event := by
  simp [situation, record]

def slots (tracker : Tracker) : SortedMap Json := tracker.situation.slots

def latestMessage (tracker : Tracker) : Option Parse := tracker.situation.latestMessage

def latestAction (tracker : Tracker) : Option String := tracker.situation.latestAction

def activeLoop (tracker : Tracker) : Option String := tracker.situation.activeLoop

def latestEvent (tracker : Tracker) : Option Event := tracker.events.getLast?

def attempt? : Event → Option (Option String)
  | .actionExecuted .. => some none
  | .actionRejected name _ _ => some (some name)
  | _ => none

/-- The action that refused to run, if nothing was run since. -/
def rejectedAction (tracker : Tracker) : Option String :=
  (tracker.events.reverse.findSome? attempt?).join

def openTexts (tracker : Tracker) : List String := tracker.events.filterMap Event.openText?

def warnings (tracker : Tracker) (interpreter : Interpreter) : List Warning :=
  tracker.openTexts.flatMap interpreter.warnings

end Tracker

end Dialogue
