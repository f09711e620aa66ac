import Dialogue.Policy
import Dialogue.Policy.Options

/-!
Policies that remember conversations. A memory maps the last states before an action to the action;
states that were followed by two different actions recall none. `MemoizationPolicy` looks up the
longest window only, `AugmentedMemoizationPolicy` forgets the oldest states one by one until it
recalls an action.
-/
namespace Dialogue

structure Memory where
  maxHistory : UInt64
  /-- Windows with several actions have none. -/
  lookup : SortedMap (Option String) := ∅

namespace Memory

/-- The text of a window is its key. -/
def windowKey (window : List TurnState) : String :=
  (Json.arr (window.map TurnState.toJson)).compact

def memorize (lookup : SortedMap (Option String)) (window : List TurnState) (action : String) :
    SortedMap (Option String) :=
  let key := windowKey window
  match lookup.get? key with
  | none => lookup.insert key (some action)
  | some known => if known = some action then lookup else lookup.insert key none

def longest (memory : Memory) (states : List TurnState) : Nat :=
  min states.length memory.maxHistory.toNat

/-- The windows to memorize, shorter ones first. -/
def windows (memory : Memory) (everyLength : Bool) (states : List TurnState) :
    List (List TurnState) :=
  let longest := memory.longest states
  let shortest := if everyLength then 1 else longest
  (List.range' shortest (longest + 1 - shortest)).map fun n => lastOf n states

def lessons (memory : Memory) (everyLength : Bool) (trackers : List Tracker) (domain : Domain)
    (interpreter : Interpreter) : List (List TurnState × String) :=
  (stories trackers).flatMap fun tracker =>
    (tracker.history domain interpreter).contexts.flatMap fun (states, action) =>
      (memory.windows everyLength states).map (·, action)

/-- Forgets what was learned before and learns the stories. -/
def train (memory : Memory) (everyLength : Bool) (trackers : List Tracker) (domain : Domain)
    (interpreter : Interpreter) : Memory × List Warning :=
  let lookup := (memory.lessons everyLength trackers domain interpreter).foldl
    (fun lookup lesson => memorize lookup lesson.1 lesson.2) ∅
  ({ memory with lookup }, (stories trackers).flatMap (·.warnings interpreter))

def recallWindow (memory : Memory) (states : List TurnState) (n : Nat) : Option String :=
  if n = 0 ∨ states.length < n then none
  else (memory.lookup.get? (windowKey (lastOf n states))).join

/-- The action that followed the longest window that recalls one, and the window's length. -/
def recallLongest (memory : Memory) (states : List TurnState) : Option (String × Nat) :=
  (List.range (memory.longest states)).reverse.findSome? fun i =>
    (memory.recallWindow states (i + 1)).map (·, i + 1)

def predictRecalled (domain : Domain) (priority : Int32) :
    Option (String × Nat) → Prediction
  | none => .abstain priority
  | some (action, turns) =>
    match Prediction.ofAction domain action 1.0 with
    | .ok prediction =>
      { prediction with priority }.withDiagnostic "memorized_turns" (.ofNat turns)
    | .error _ => .abstain priority

def toJson (memory : Memory) : Json :=
  .obj [("max_history", Json.ofUInt64 memory.maxHistory),
    ("lookup", .obj (memory.lookup.entries.map fun (key, action) =>
      (key, Json.ofOption .str action)))]

def asAction? : Json → Option (Option String)
  | .null => some none
  | value => value.asString?.map some

def ofJson? (value : Json) : Option Memory := do
  match ← value.record? ["max_history", "lookup"] 2 with
  | [maxHistory, lookup] =>
    return ⟨← Json.field Json.asUInt64? maxHistory, ← Json.field (Json.asMap? asAction?) lookup⟩
  | _ => none

def ofSpec (spec : Spec) : Except ConfigError Memory :=
  spec.withOptions do
    let maxHistory ← spec.option "max_history" 5 Spec.optionCount
    if maxHistory = 0 then throw .emptyHistory
    return ⟨maxHistory, ∅⟩

end Memory

/-- A priority and a memory, as both remembering policies have them. -/
structure MemoizationPolicy where
  priority : Int32
  memory : Memory

namespace MemoizationPolicy

def typeName : String := "MemoizationPolicy"

def modulePath : String := "colloquy::policy::memoization"

def defaultPriority : Int32 := 3

def default : MemoizationPolicy := ⟨defaultPriority, ⟨5, ∅⟩⟩

def toJson (policy : MemoizationPolicy) : Json :=
  .obj [("priority", Json.ofInt32 policy.priority), ("memory", policy.memory.toJson)]

def ofJson? (value : Json) : Option MemoizationPolicy := do
  match ← value.record? ["priority", "memory"] 2 with
  | [priority, memory] =>
    return ⟨← Json.field Json.asInt32? priority, ← Json.field Memory.ofJson? memory⟩
  | _ => none

def ofSpec (spec : Spec) : Except ConfigError MemoizationPolicy := do
  return ⟨spec.priority.getD defaultPriority, ← Memory.ofSpec spec⟩

def predict (policy : MemoizationPolicy) (tracker : Tracker) (domain : Domain)
    (interpreter : Interpreter) : Prediction :=
  let states := (tracker.history domain interpreter).states
  let longest := policy.memory.longest states
  Memory.predictRecalled domain policy.priority
    ((policy.memory.recallWindow states longest).map (·, longest))

instance : Policy MemoizationPolicy where
  typeName _ := typeName
  modulePath _ := modulePath
  priority := priority
  capabilities _ := {}
  train policy trackers domain interpreter :=
    let (memory, warnings) := policy.memory.train false trackers domain interpreter
    .ok ({ policy with memory }, warnings)
  predict policy tracker domain interpreter := .ok (policy.predict tracker domain interpreter)
  state policy := some policy.toJson

end MemoizationPolicy

/-- Remembers the windows of every length. -/
structure AugmentedMemoizationPolicy where
  priority : Int32
  memory : Memory

namespace AugmentedMemoizationPolicy

def typeName : String := "AugmentedMemoizationPolicy"

def modulePath : String := MemoizationPolicy.modulePath

def default : AugmentedMemoizationPolicy := ⟨MemoizationPolicy.defaultPriority, ⟨5, ∅⟩⟩

def ofSpec (spec : Spec) : Except ConfigError AugmentedMemoizationPolicy := do
  return ⟨spec.priority.getD MemoizationPolicy.defaultPriority, ← Memory.ofSpec spec⟩

def toJson (policy : AugmentedMemoizationPolicy) : Json :=
  (MemoizationPolicy.mk policy.priority policy.memory).toJson

def ofJson? (value : Json) : Option AugmentedMemoizationPolicy :=
  (MemoizationPolicy.ofJson? value).map fun policy => ⟨policy.priority, policy.memory⟩

def predict (policy : AugmentedMemoizationPolicy) (tracker : Tracker) (domain : Domain)
    (interpreter : Interpreter) : Prediction :=
  let states := (tracker.history domain interpreter).states
  Memory.predictRecalled domain policy.priority (policy.memory.recallLongest states)

instance : Policy AugmentedMemoizationPolicy where
  typeName _ := typeName
  modulePath _ := modulePath
  priority := priority
  capabilities _ := {}
  train policy trackers domain interpreter :=
    let (memory, warnings) := policy.memory.train true trackers domain interpreter
    .ok ({ policy with memory }, warnings)
  predict policy tracker domain interpreter := .ok (policy.predict tracker domain interpreter)
  state policy := some policy.toJson

end AugmentedMemoizationPolicy

end Dialogue
