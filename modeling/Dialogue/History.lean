import Dialogue.Domain
import Dialogue.Tracker
import Dialogue.TurnState

namespace Dialogue

structure Replay where
  prevAction : Option String := none
  userIntent : Option String := none
  userText : Option String := none
  entities : List String := []
  slots : SortedMap Json := ∅
  activeLoop : Option String := none

namespace Replay

def intentName (interpreter : Interpreter) (intent : Option Intent) (text : Option String) :
    Option String :=
  match intent with
  | some intent => some intent.name
  | none => text.bind fun t => (interpreter.parse t).intent.map (·.name)

def entityNames (entities : List Entity) : List String :=
  (SortedMap.ofList (entities.map fun entity => (entity.name, ()))).keys

/-- The text of a message counts only as long as its intent is not known. -/
def observe (interpreter : Interpreter) (replay : Replay) : Event → Replay
  | .userUttered text intent entities =>
    let name := intentName interpreter intent text
    { replay with
      userIntent := name
      userText := if name.isNone then text else none
      entities := entityNames entities }
  | .actionExecuted name text _ _ =>
    match name <|> text with
    | some action => { replay with prevAction := some action }
    | none => replay
  | .slotSet key value => { replay with slots := replay.slots.insert key value }
  | .activeLoop name => { replay with activeLoop := name }
  | .restarted => {}
  | .botUttered _ | .actionRejected .. | .featurization _ => replay

def slotFeatures (domain : Domain) (slots : SortedMap Json) : List (String × String) :=
  slots.entries.filterMap fun (name, value) =>
    ((domain.slot? name).bind (·.feature? value)).map (name, ·)

/-- The message shows only right after a listen. -/
def state (domain : Domain) (replay : Replay) : TurnState :=
  let listening := replay.prevAction == some listenAction
  { prevAction := replay.prevAction
    userIntent := if listening then replay.userIntent else none
    userText := if listening then replay.userText else none
    entities := if listening then replay.entities else []
    slots := slotFeatures domain replay.slots
    activeLoop := replay.activeLoop }

end Replay

structure History where
  /-- The state before each action, and the action. -/
  turns : List (TurnState × String)
  current : TurnState
deriving DecidableEq

namespace History

def replayFrom (domain : Domain) (interpreter : Interpreter) (replay : Replay) :
    List Event → History
  | [] => ⟨[], replay.state domain⟩
  | event :: rest =>
    let later := replayFrom domain interpreter (replay.observe interpreter event) rest
    match event.action? with
    | some action => ⟨(replay.state domain, action) :: later.turns, later.current⟩
    | none => later

def ofEvents (domain : Domain) (interpreter : Interpreter) (events : List Event) : History :=
  replayFrom domain interpreter {} events

def actions (history : History) : List String := history.turns.map Prod.snd

/-- The states before the actions, and the one at the end. -/
def states (history : History) : List TurnState :=
  history.turns.map Prod.fst ++ [history.current]

/-- The states up to each action, and the action. -/
def contexts (history : History) : List (List TurnState × String) :=
  history.turns.zipIdx.map fun ((_, action), i) => (history.states.take (i + 1), action)

theorem length_states (history : History) :
    history.states.length = history.actions.length + 1 := by
  simp [states, actions]

end History

def Tracker.history (tracker : Tracker) (domain : Domain) (interpreter : Interpreter) : History :=
  .ofEvents domain interpreter tracker.events

end Dialogue
