import Dialogue.Ensemble

/-!
Asking the policies of an ensemble, one after the other or all at once. The answers of policies that
are asked at once come through a channel in any order and are put back in order.
-/
namespace Dialogue

structure Channel (α : Type) where
  capacity : Nat
  held : List α := []

/-- A message for which there is no room is lost. -/
def Channel.send (channel : Channel α) (message : α) : Channel α :=
  if channel.held.length < channel.capacity then
    { channel with held := channel.held ++ [message] }
  else channel

namespace Ensemble

variable {π : Type} [Policy π]

abbrev Outcome := Except Error Prediction

def outcomes (ensemble : Ensemble π) (tracker : Tracker) (domain : Domain)
    (interpreter : Interpreter) : List Outcome :=
  ensemble.policies.map fun policy => Policy.predict policy tracker domain interpreter

/-- The predictions in order, or the first error. -/
def inOrder (outcomes : List Outcome) : Except Error (List Prediction) :=
  outcomes.mapM fun outcome => outcome

def answerOf (arrived : List (Nat × Outcome)) (index : Nat) : Outcome :=
  match arrived.reverse.lookup index with
  | some outcome => outcome
  | none => .error (.internal ("policy " ++ toString index ++ " did not report a prediction"))

def sendAll (outcomes : List Outcome) (arrival : List Nat) : Channel (Nat × Outcome) :=
  (arrival.filterMap fun i => outcomes[i]?.map (i, ·)).foldl Channel.send ⟨outcomes.length, []⟩

def gather (outcomes : List Outcome) (arrival : List Nat) : Except Error (List Prediction) :=
  let arrived := (sendAll outcomes arrival).held
  inOrder ((List.range outcomes.length).map (answerOf arrived))

/-- The prediction of each policy. Policies that are asked at once are taken to answer in order. -/
def ask (ensemble : Ensemble π) (tracker : Tracker) (domain : Domain)
    (interpreter : Interpreter) : Except Error (List Prediction) :=
  let outcomes := ensemble.outcomes tracker domain interpreter
  match ensemble.fanOut with
  | .sequential => inOrder outcomes
  | .parallel => gather outcomes (List.range outcomes.length)

end Ensemble

end Dialogue
