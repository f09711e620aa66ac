import Dialogue.Policy
import Dialogue.Policy.Options

/-!
The policy that falls back to a fixed action when the latest message was not understood well enough.
It also offers its action in place of weak predictions.
-/
namespace Dialogue

structure FallbackConfig where
  /-- The least confidence of an intent. -/
  nluThreshold : Float := 0.3
  /-- The least distance between the two best intents. -/
  ambiguityThreshold : Float := 0.1
  /-- The least confidence of a prediction. -/
  coreThreshold : Float := 0.3
  action : String := fallbackAction

namespace FallbackConfig

def checkThreshold (name : String) (value : Float) : Except OptionFault Unit :=
  if 0.0 ≤ value && value ≤ 1.0 then .ok () else .error (.invalidThreshold name value)

def check (config : FallbackConfig) : Except OptionFault Unit := do
  checkThreshold "nlu_threshold" config.nluThreshold
  checkThreshold "ambiguity_threshold" config.ambiguityThreshold
  checkThreshold "core_threshold" config.coreThreshold
  if Text.isBlankText config.action then throw .blankAction

/-- The options are read in the order of their names. -/
def ofOptions (spec : Spec) : Except OptionFault FallbackConfig := do
  let ambiguity ← spec.option "ambiguity_threshold" 0.1 Spec.optionNumber
  let core ← spec.option "core_threshold" 0.3 Spec.optionNumber
  let action ← spec.option "fallback_action_name" fallbackAction Spec.optionText
  let nlu ← spec.option "nlu_threshold" 0.3 Spec.optionNumber
  return ⟨nlu, ambiguity, core, action⟩

def toJson (config : FallbackConfig) : Json :=
  .obj [("nlu_threshold", .float config.nluThreshold),
    ("ambiguity_threshold", .float config.ambiguityThreshold),
    ("core_threshold", .float config.coreThreshold),
    ("fallback_action_name", .str config.action)]

def ofJson? (value : Json) : Option FallbackConfig := do
  match ← value.record?
      ["nlu_threshold", "ambiguity_threshold", "core_threshold", "fallback_action_name"] 0 with
  | [nlu, ambiguity, core, action] =>
    return ⟨← Json.defaultField 0.3 Json.asFloat? nlu,
      ← Json.defaultField 0.1 Json.asFloat? ambiguity, ← Json.defaultField 0.3 Json.asFloat? core,
      ← Json.defaultField fallbackAction Json.asString? action⟩
  | _ => none

end FallbackConfig

structure FallbackPolicy where
  priority : Int32
  config : FallbackConfig

namespace FallbackPolicy

def typeName : String := "FallbackPolicy"

def modulePath : String := "colloquy::policy::fallback"

def defaultPriority : Int32 := 4

def default : FallbackPolicy := ⟨defaultPriority, {}⟩

def amount (x : Float) : String := Decimal.writeFloat Decimal.plain x

/-- Why a message was not understood well enough, if it was not. -/
def reason? (config : FallbackConfig) (parse : Parse) : Option String :=
  match parse.intent with
  | none => some "no intent was classified"
  | some intent =>
    if intent.confidence < config.nluThreshold then
      some ("intent confidence " ++ amount intent.confidence ++ " is below " ++
        amount config.nluThreshold)
    else match parse.ranking with
      | first :: second :: _ =>
        let gap := first.confidence - second.confidence
        if gap < config.ambiguityThreshold then
          some ("intents '" ++ first.name ++ "' and '" ++ second.name ++ "' are ambiguous (gap " ++
            amount gap ++ ")")
        else none
      | _ => none

/-- A message whose intent is not known yet is understood from its text. -/
def understood (interpreter : Interpreter) (message : Parse) : Parse :=
  if message.intent.isNone && message.text != "" then interpreter.parse message.text else message

def predict (policy : FallbackPolicy) (tracker : Tracker) (domain : Domain)
    (interpreter : Interpreter) : Except DomainError Prediction :=
  if tracker.latestAction = some listenAction then
    match tracker.latestMessage.bind fun m => reason? policy.config (understood interpreter m) with
    | some reason => do
      let prediction ← Prediction.ofAction domain policy.config.action 1.0
      return { prediction with priority := policy.priority }.withDiagnostic
        "fallback_reason" (.str reason)
    | none => .ok (.abstain policy.priority)
  else .ok (.abstain policy.priority)

def toJson (policy : FallbackPolicy) : Json :=
  .obj [("priority", Json.ofInt32 policy.priority), ("config", policy.config.toJson)]

def ofJson? (value : Json) : Option FallbackPolicy := do
  match ← value.record? ["priority", "config"] 2 with
  | [priority, config] =>
    return ⟨← Json.field Json.asInt32? priority, ← Json.field FallbackConfig.ofJson? config⟩
  | _ => none

def ofSpec (spec : Spec) : Except ConfigError FallbackPolicy :=
  spec.withOptions do
    let config ← FallbackConfig.ofOptions spec
    config.check
    return ⟨spec.priority.getD defaultPriority, config⟩

instance : Policy FallbackPolicy where
  typeName _ := typeName
  modulePath _ := modulePath
  priority := priority
  capabilities policy := { fallback := some ⟨policy.config.action, policy.config.coreThreshold⟩ }
  train policy _ _ _ := .ok (policy, [])
  predict policy tracker domain interpreter :=
    (policy.predict tracker domain interpreter).mapError .domain
  state policy := some policy.toJson

end FallbackPolicy

end Dialogue
