import Dialogue.Message

namespace Dialogue

inductive Event where
  | userUttered (text : Option String) (intent : Option Intent) (entities : List Entity)
  | botUttered (text : Option String)
  /-- An action was run. One that is a plain text has no name. -/
  | actionExecuted (name text policy : Option String) (confidence : Option Float)
  /-- An action that was predicted refused to run. -/
  | actionRejected (name : String) (policy : Option String) (confidence : Option Float)
  | slotSet (key : String) (value : Json)
  /-- A loop was started, or the running one ended. -/
  | activeLoop (name : Option String)
  /-- Says whether the user message before was understood from its text. -/
  | featurization (useText : Bool)
  | restarted

namespace Event

def executed (action : String) : Event := .actionExecuted (some action) none none none

def rejected (action : String) : Event := .actionRejected action none none

def uttered (text intent : String) : Event := .userUttered (some text) (some (.certain intent)) []

def utteredText (text : String) : Event := .userUttered (some text) none []

def ofParse (parse : Parse) : Event := .userUttered (some parse.text) parse.intent parse.entities

def kind : Event → String
  | userUttered .. => "user"
  | botUttered .. => "bot"
  | actionExecuted .. => "action"
  | actionRejected .. => "action_execution_rejected"
  | slotSet .. => "slot"
  | activeLoop .. => "active_loop"
  | featurization .. => "user_featurization"
  | restarted => "restart"

/-- The name of the action that was run, or its text when it has no name. -/
def action? : Event → Option String
  | actionExecuted name text _ _ => name <|> text
  | _ => none

def isUser : Event → Bool
  | userUttered .. => true
  | _ => false

def openText? : Event → Option String
  | userUttered text none _ => text
  | _ => none

/-! ### JSON -/

def text (value : Option String) : Json := Json.ofOption .str value

def number (value : Option Float) : Json := Json.ofOption .float value

def fields : Event → String × List (String × Json)
  | userUttered content intent entities =>
    ("user_uttered", [("text", text content), ("intent", Json.ofOption Intent.toJson intent),
      ("entities", .arr (entities.map Entity.toJson))])
  | botUttered content => ("bot_uttered", [("text", text content)])
  | actionExecuted name content policy confidence =>
    ("action_executed", [("action_name", text name), ("action_text", text content),
      ("policy", text policy), ("confidence", number confidence)])
  | actionRejected name policy confidence =>
    ("action_execution_rejected", [("action_name", .str name), ("policy", text policy),
      ("confidence", number confidence)])
  | slotSet key value => ("slot_set", [("key", .str key), ("value", value)])
  | activeLoop name => ("active_loop", [("name", text name)])
  | featurization useText =>
    ("define_prev_user_uttered_featurization", [("use_text_for_featurization", .bool useText)])
  | restarted => ("restarted", [])

def toJson (event : Event) : Json :=
  .obj (("event", .str event.fields.1) :: event.fields.2)

def optionalText : Option Json → Option (Option String) := Json.optionalField Json.asString?

def optionalNumber : Option Json → Option (Option Float) := Json.optionalField Json.asFloat?

/-- The names of the fields of a form, and how many of them a list of fields has to have. -/
def layout? : String → Option (List String × Nat)
  | "user_uttered" => some (["text", "intent", "entities"], 0)
  | "bot_uttered" => some (["text"], 0)
  | "action_executed" => some (["action_name", "action_text", "policy", "confidence"], 0)
  | "action_execution_rejected" => some (["action_name", "policy", "confidence"], 1)
  | "slot_set" => some (["key", "value"], 2)
  | "active_loop" => some (["name"], 0)
  | "define_prev_user_uttered_featurization" => some (["use_text_for_featurization"], 1)
  | "restarted" => some ([], 0)
  | _ => none

def ofFields? (form : String) (fields : List (Option Json)) : Option Event :=
  match form, fields with
  | "user_uttered", [content, intent, entities] =>
    return .userUttered (← optionalText content) (← Json.optionalField Intent.ofJson? intent)
      (← Json.defaultField [] (Json.asList? Entity.ofJson?) entities)
  | "bot_uttered", [content] => return .botUttered (← optionalText content)
  | "action_executed", [name, content, policy, confidence] =>
    return .actionExecuted (← optionalText name) (← optionalText content) (← optionalText policy)
      (← optionalNumber confidence)
  | "action_execution_rejected", [name, policy, confidence] =>
    return .actionRejected (← Json.field Json.asString? name) (← optionalText policy)
      (← optionalNumber confidence)
  | "slot_set", [key, value] =>
    return .slotSet (← Json.field Json.asString? key) (← Json.field Json.canonical? value)
  | "active_loop", [name] => return .activeLoop (← optionalText name)
  | "define_prev_user_uttered_featurization", [useText] =>
    return .featurization (← Json.field Json.asBool? useText)
  | "restarted", [] => some .restarted
  | _, _ => none

def ofParts? : Json → Option Event
  | .obj members =>
    match members.filter (·.1 == "event") with
    | [(_, .str form)] => do
      let (names, required) ← layout? form
      ofFields? form (← Json.record? names required (.obj members))
    | _ => none
  | .arr (.str form :: items) => do
    let (names, required) ← layout? form
    ofFields? form (← Json.record? names required (.arr items))
  | _ => none

/-- Reads an event: an object that names its form, or a list of the form and the fields. Members
that are no fields are passed over, but have to be readable too. -/
def ofJson? (value : Json) : Option Event :=
  if value.canonical?.isSome then ofParts? value else none

end Event

end Dialogue
