import Dialogue.Domain
import Dialogue.Event

namespace Dialogue

structure Prediction where
  /-- Empty when the policy abstains. -/
  scores : List Float
  policyName : Option String
  priority : Int32
  /-- Events that are applied whoever wins. -/
  events : List Event := []
  /-- Events that are applied if this prediction wins. -/
  optionalEvents : List Event := []
  isEndToEnd : Bool := false
  isNoUser : Bool := false
  diagnostics : SortedMap Json := ∅
  hideRuleTurn : Bool := false

namespace Prediction

def defaultPriority : Int32 := 1

def abstain (priority : Int32) : Prediction := { scores := [], policyName := none, priority }

def oneHot (size index : Nat) (score : Float) : List Float :=
  (List.replicate size 0.0).set index score

def ofAction (domain : Domain) (action : String) (score : Float) :
    Except DomainError Prediction := do
  let index ← domain.index action
  return { scores := oneHot domain.size index score, policyName := none,
           priority := defaultPriority }

def withDiagnostic (prediction : Prediction) (key : String) (value : Json) : Prediction :=
  { prediction with diagnostics := prediction.diagnostics.insert key value }

def isAbstention (prediction : Prediction) : Bool := prediction.scores.isEmpty

/-- The largest score above zero; scores that are not numbers are passed over. -/
def maxConfidence (prediction : Prediction) : Float :=
  prediction.scores.foldl (fun best score => if best < score then score else best) 0.0

/-- Keeps the best score so far unless the next one is not below or equal to it. -/
def better (best : Option (Nat × Float)) (next : Nat × Float) : Option (Nat × Float) :=
  match best with
  | some (i, score) => if next.2 ≤ score then some (i, score) else some next
  | none => some next

def bestIndex (prediction : Prediction) : Option Nat :=
  ((prediction.scores.zipIdx.map fun (score, i) => (i, score)).foldl better none).map Prod.fst

/-! ### JSON -/

def fieldNames : List String :=
  ["probabilities", "policy_name", "policy_priority", "events", "optional_events",
    "is_end_to_end_prediction", "is_no_user_prediction", "diagnostic_data", "hide_rule_turn"]

def toJson (prediction : Prediction) : Json :=
  .obj [("probabilities", .arr (prediction.scores.map .float)),
    ("policy_name", Json.ofOption .str prediction.policyName),
    ("policy_priority", Json.ofInt32 prediction.priority),
    ("events", .arr (prediction.events.map Event.toJson)),
    ("optional_events", .arr (prediction.optionalEvents.map Event.toJson)),
    ("is_end_to_end_prediction", .bool prediction.isEndToEnd),
    ("is_no_user_prediction", .bool prediction.isNoUser),
    ("diagnostic_data", Json.ofMap prediction.diagnostics),
    ("hide_rule_turn", .bool prediction.hideRuleTurn)]

def eventsField : Option Json → Option (List Event) :=
  Json.defaultField [] (Json.asList? Event.ofJson?)

def flagField : Option Json → Option Bool := Json.defaultField false Json.asBool?

def ofJson? (value : Json) : Option Prediction := do
  match ← value.record? fieldNames 3 with
  | [scores, policyName, priority, events, optionalEvents, endToEnd, noUser, diagnostics, hide] =>
    return {
      scores := ← Json.field (Json.asList? Json.asFloat?) scores
      policyName := ← Json.optionalField Json.asString? policyName
      priority := ← Json.field Json.asInt32? priority
      events := ← eventsField events
      optionalEvents := ← eventsField optionalEvents
      isEndToEnd := ← flagField endToEnd
      isNoUser := ← flagField noUser
      diagnostics := ← Json.defaultField ∅ (Json.asMap? Json.canonical?) diagnostics
      hideRuleTurn := ← flagField hide }
  | _ => none

end Prediction

end Dialogue
