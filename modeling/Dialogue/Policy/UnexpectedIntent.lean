import Dialogue.Policy
import Dialogue.Policy.Options

/-!
The policy that finds an intent unlikely when no story has it right after the latest action of the
assistant, although some story has an intent there.
-/
namespace Dialogue

structure UnexpectedIntentPolicy where
  priority : Int32
  ignoredIntents : List String
  /-- The intents that were seen after an action. -/
  observed : SortedMap (SortedMap Unit) := ∅

namespace UnexpectedIntentPolicy

def typeName : String := "UnexpectedIntentPolicy"

def modulePath : String := "colloquy::policy::unexpected_intent"

def defaultPriority : Int32 := 2

def default : UnexpectedIntentPolicy := ⟨defaultPriority, [], ∅⟩

/-- Stands for the latest action where there was none. -/
def conversationStart : String := "<conversation_start>"

/-- The user's turns after some action: the latest action other than a listen, and the intent. -/
def turnsFrom (interpreter : Interpreter) (latest : String) :
    List Event → List (String × String)
  | [] => []
  | event :: rest =>
    match event with
    | .actionExecuted name text _ _ =>
      let latest := match name <|> text with
        | some action => if action = listenAction then latest else action
        | none => latest
      turnsFrom interpreter latest rest
    | .userUttered text intent _ =>
      match Replay.intentName interpreter intent text with
      | some name => (latest, name) :: turnsFrom interpreter latest rest
      | none => turnsFrom interpreter latest rest
    | .restarted => turnsFrom interpreter conversationStart rest
    | _ => turnsFrom interpreter latest rest

def userTurns (tracker : Tracker) (interpreter : Interpreter) : List (String × String) :=
  turnsFrom interpreter conversationStart tracker.events

def observe (observed : SortedMap (SortedMap Unit)) (turn : String × String) :
    SortedMap (SortedMap Unit) :=
  observed.insert turn.1 (((observed.get? turn.1).getD ∅).insert turn.2 ())

def train (policy : UnexpectedIntentPolicy) (trackers : List Tracker)
    (interpreter : Interpreter) : UnexpectedIntentPolicy :=
  let turns := (stories trackers).flatMap (userTurns · interpreter)
  { policy with observed := turns.foldl observe ∅ }

def wasObserved (policy : UnexpectedIntentPolicy) (action intent : String) : Bool :=
  (policy.observed.get? action).any (·.contains intent)

def isUnlikely (policy : UnexpectedIntentPolicy) (action intent : String) : Bool :=
  !policy.ignoredIntents.contains intent && policy.observed.contains action &&
    !policy.wasObserved action intent

/-- The latest turn of the user, if nothing happened since. -/
def latestTurn (tracker : Tracker) (interpreter : Interpreter) : Option (String × String) :=
  if tracker.latestEvent.any Event.isUser then (userTurns tracker interpreter).getLast? else none

def predict (policy : UnexpectedIntentPolicy) (tracker : Tracker) (domain : Domain)
    (interpreter : Interpreter) : Except DomainError Prediction :=
  match latestTurn tracker interpreter with
  | none => .ok (.abstain policy.priority)
  | some (action, intent) =>
    if policy.isUnlikely action intent then do
      let prediction ← Prediction.ofAction domain unlikelyIntentAction 1.0
      return ({ prediction with priority := policy.priority }.withDiagnostic
        "unlikely_intent" (.str intent)).withDiagnostic "after_action" (.str action)
    else .ok (.abstain policy.priority)

def configOfJson? (value : Json) : Option (List String) := do
  match ← value.record? ["ignore_intents"] 0 with
  | [intents] => Json.defaultField [] (Json.asList? Json.asString?) intents
  | _ => none

def asSet? (value : Json) : Option (SortedMap Unit) :=
  (Json.asList? Json.asString? value).map fun items => SortedMap.ofList (items.map (·, ()))

def toJson (policy : UnexpectedIntentPolicy) : Json :=
  .obj [("priority", Json.ofInt32 policy.priority),
    ("config", .obj [("ignore_intents", Json.strings policy.ignoredIntents)]),
    ("observed", .obj (policy.observed.entries.map fun (action, intents) =>
      (action, Json.strings intents.keys)))]

def ofJson? (value : Json) : Option UnexpectedIntentPolicy := do
  match ← value.record? ["priority", "config", "observed"] 3 with
  | [priority, config, observed] =>
    return ⟨← Json.field Json.asInt32? priority, ← Json.field configOfJson? config,
      ← Json.field (Json.asMap? asSet?) observed⟩
  | _ => none

def ofSpec (spec : Spec) : Except ConfigError UnexpectedIntentPolicy :=
  spec.withOptions do
    let intents ← spec.option "ignore_intents" [] Spec.optionTexts
    return ⟨spec.priority.getD defaultPriority, intents, ∅⟩

instance : Policy UnexpectedIntentPolicy where
  typeName _ := typeName
  modulePath _ := modulePath
  priority := priority
  capabilities _ := {}
  train policy trackers _ interpreter :=
    .ok (policy.train trackers interpreter, (stories trackers).flatMap (·.warnings interpreter))
  predict policy tracker domain interpreter :=
    (policy.predict tracker domain interpreter).mapError .domain
  state policy := some policy.toJson

end UnexpectedIntentPolicy

end Dialogue
