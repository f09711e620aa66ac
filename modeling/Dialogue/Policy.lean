import Dialogue.History
import Dialogue.Json.Reader
import Dialogue.Prediction

/-!
What an ensemble asks of its policies. A type of policies says what each of them is called, how it
learns from conversations, what it predicts, and what it writes to its directory.
-/
namespace Dialogue

/-- What a policy offers to take the place of a weak prediction. -/
structure Fallback where
  action : String
  /-- Predictions below this confidence are weak. -/
  threshold : Float

structure Capabilities where
  /-- The policy learns from rules. -/
  supportsRules : Bool := false
  fallback : Option Fallback := none

class Policy (π : Type) where
  typeName : π → String
  modulePath : π → String
  priority : π → Int32
  capabilities : π → Capabilities
  /-- The policy after training, and what was noticed. -/
  train : π → List Tracker → Domain → Interpreter → Except Error (π × List Warning)
  predict : π → Tracker → Domain → Interpreter → Except Error Prediction
  /-- What the policy writes to its directory, if it writes anything. -/
  state : π → Option Json

namespace Policy

variable {π : Type} [Policy π]

def qualify (modulePath typeName : String) : String := modulePath ++ "::" ++ typeName

def qualifiedName (policy : π) : String := qualify (modulePath policy) (typeName policy)

def stateFile : String := "policy.json"

/-- Reads the state that a policy wrote to a directory. Without the file there is none. -/
def loadState (decode : Json → Option α) (tree : FileTree) (directory : Path) :
    Except Error (Option α) :=
  let path := directory.join stateFile
  if tree.contains path then
    match tree.read path with
    | .error failure => .error (.model (.io path failure))
    | .ok text =>
      match (Json.read? text).bind decode with
      | some state => .ok (some state)
      | none => .error (.model (.unreadable path))
  else .ok none

end Policy

def stories (trackers : List Tracker) : List Tracker := trackers.filter (!·.isRule)

def rules (trackers : List Tracker) : List Tracker := trackers.filter (·.isRule)

def lastOf (n : Nat) (items : List α) : List α := items.drop (items.length - n)

end Dialogue
