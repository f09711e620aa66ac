import Dialogue.Prediction

/-!
The ranking of predictions: by tier, then by priority, then by confidence, and of equal ones the
first. Only a prediction with some confidence can win, and none of a suppressed action.
-/
namespace Dialogue

structure Rank where
  tier : Nat
  priority : Int32
  confidence : Float

namespace Rank

/-- Predictions that do not depend on the user come first, those from the text itself next. -/
def of (prediction : Prediction) : Rank where
  tier := if prediction.isNoUser then 2 else if prediction.isEndToEnd then 1 else 0
  priority := prediction.priority
  confidence := prediction.maxConfidence

def outranks (a b : Rank) : Bool :=
  b.tier < a.tier || (a.tier == b.tier &&
    (b.priority < a.priority || (a.priority == b.priority && b.confidence < a.confidence)))

end Rank

namespace Prediction

def canWin (suppressed : Option Nat) (prediction : Prediction) : Bool :=
  !prediction.isAbstention && !(prediction.maxConfidence ≤ 0.0) &&
    (suppressed.isNone || prediction.bestIndex != suppressed)

/-- Keeps the best prediction so far unless the next one outranks it. -/
def higher (best : Option Prediction) (next : Prediction) : Option Prediction :=
  match best with
  | none => some next
  | some b => if (Rank.of next).outranks (Rank.of b) then some next else some b

def pick (suppressed : Option Nat) (predictions : List Prediction) : Option Prediction :=
  (predictions.filter (canWin suppressed)).foldl higher none

end Prediction

end Dialogue
