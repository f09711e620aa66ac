import Dialogue.Ensemble.FanOut
import Dialogue.Ensemble.Ranking
import Dialogue.Policy.Memoization
import Dialogue.Policy.Rule

/-!
The decision of an ensemble: every policy is asked, the best prediction wins, a weak or missing
winner gives way to the fallback, and the events of all policies go with the result.
-/
namespace Dialogue

/-- The winner of a round, and the events that are applied whoever wins. -/
structure Decision where
  winner : Option Prediction
  events : List Event

namespace Decision

def ofPredictions (suppressed : Option Nat) (predictions : List Prediction) : Decision where
  winner := Prediction.pick suppressed predictions
  events := predictions.flatMap (·.events)

def result (decision : Decision) : Prediction :=
  match decision.winner with
  | some winner =>
    { winner with events := decision.events ++ winner.optionalEvents, optionalEvents := [] }
  | none => { Prediction.abstain 0 with events := decision.events }

end Decision

namespace Ensemble

variable {π : Type} [Policy π]

/-- Puts a policy's label and priority on its prediction, which has to be empty or have a score for
each action. -/
def stamp (domain : Domain) (labelled : String × π) (prediction : Prediction) :
    Except Error Prediction :=
  if !prediction.isAbstention && prediction.scores.length != domain.size then
    .error (.wrongLength labelled.1 domain.size prediction.scores.length)
  else .ok { prediction with
    policyName := some labelled.1, priority := Policy.priority labelled.2 }

def stampAll (ensemble : Ensemble π) (domain : Domain) (predictions : List Prediction) :
    Except Error (List Prediction) :=
  (ensemble.labelled.zip predictions).mapM fun (labelled, prediction) =>
    stamp domain labelled prediction

def withoutAction (index : Nat) (prediction : Prediction) : Prediction :=
  { prediction with scores := prediction.scores.set index 0.0 }

/-- An action that has just refused to run has no chance. -/
def excludeRejected (tracker : Tracker) (domain : Domain) (predictions : List Prediction) :
    List Prediction :=
  match tracker.rejectedAction.bind domain.index? with
  | some index => predictions.map (withoutAction index)
  | none => predictions

/-- The unlikely intent is not found twice in a row. -/
def suppressedAction (tracker : Tracker) (domain : Domain) : Option Nat :=
  if tracker.latestAction = some unlikelyIntentAction then domain.index? unlikelyIntentAction
  else none

def fallback? (ensemble : Ensemble π) : Option ((String × π) × Fallback) :=
  ensemble.labelled.findSome? fun labelled =>
    (Policy.capabilities labelled.2).fallback.map (labelled, ·)

/-- Whether the winner gives way to the fallback of the policy with a label: unless it is that
policy's own, it does so when it listens right after a listen and when it is not confident. -/
def givesWay (tracker : Tracker) (domain : Domain) (label : String) (fallback : Fallback) :
    Option Prediction → Bool
  | none => true
  | some winner =>
    winner.policyName != some label &&
      ((tracker.latestAction == some listenAction && winner.bestIndex.isSome &&
        winner.bestIndex == domain.index? listenAction) ||
      winner.maxConfidence < fallback.threshold)

def substitute (domain : Domain) (labelled : String × π) (fallback : Fallback) :
    Except Error Prediction :=
  match Prediction.ofAction domain fallback.action 1.0 with
  | .error error => .error (.domain error)
  | .ok prediction =>
    .ok { prediction with policyName := some labelled.1, priority := Policy.priority labelled.2 }

def applyFallback (ensemble : Ensemble π) (tracker : Tracker) (domain : Domain)
    (decision : Decision) : Except Error Decision :=
  match ensemble.fallback? with
  | none => .ok decision
  | some (labelled, fallback) =>
    if givesWay tracker domain labelled.1 fallback decision.winner then
      (substitute domain labelled fallback).map fun winner =>
        { decision with winner := some winner }
    else .ok decision

/-- After a listen the result says how the message was understood. -/
def markFeaturization (tracker : Tracker) (prediction : Prediction) : Prediction :=
  if tracker.latestAction = some listenAction then
    { prediction with events := prediction.events ++ [.featurization prediction.isEndToEnd] }
  else prediction

/-- The decision of a round as the ranking makes it: all policies are asked, and the best prediction
wins. -/
def round (ensemble : Ensemble π) (tracker : Tracker) (domain : Domain)
    (interpreter : Interpreter) : Except Error Decision := do
  let predictions ← ensemble.ask tracker domain interpreter
  let predictions ← ensemble.stampAll domain predictions
  return .ofPredictions (suppressedAction tracker domain)
    (excludeRejected tracker domain predictions)

def predict (ensemble : Ensemble π) (tracker : Tracker) (domain : Domain)
    (interpreter : Interpreter) : Except Error Prediction := do
  let decision ← ensemble.round tracker domain interpreter
  let decision ← ensemble.applyFallback tracker domain decision
  return markFeaturization tracker decision.result

def memorizing : List String :=
  [RulePolicy.typeName, MemoizationPolicy.typeName, AugmentedMemoizationPolicy.typeName]

def isNotInTrainingData (policyName : Option String) (confidence : Option Float) : Bool :=
  match policyName with
  | none => true
  | some name =>
    !(memorizing.any fun type => ("_" ++ type).toList.isSuffixOf name.toList) ||
      confidence == some 0.0

end Ensemble

end Dialogue
