import Dialogue.Distinct
import Dialogue.Policy
import Dialogue.Policy.Options

/-!
The policy of rules. A rule is learned from a conversation that stands for rules: conditions on the
latest states and the action they lead to. It holds wherever in a conversation its conditions are
met, and of the rules that hold the one with the most conditions decides.
-/
namespace Dialogue

structure Rule where
  conditions : List TurnState
  action : String
  /-- Some story runs through the conditions to the action. -/
  inStories : Bool := false
deriving DecidableEq

namespace Rule

/-- What the condition leaves open is met by anything. -/
def meets (expected actual : Option String) : Bool :=
  expected.isNone || expected == actual

def conditionMet (condition state : TurnState) : Bool :=
  meets condition.prevAction state.prevAction && meets condition.userIntent state.userIntent &&
    meets condition.userText state.userText && meets condition.activeLoop state.activeLoop &&
    condition.entities.all state.entities.contains && condition.slots.all state.slots.contains

/-- The conditions are met by the latest states, one by one. -/
def holdsAt (rule : Rule) (states : List TurnState) : Bool :=
  rule.conditions.length ≤ states.length &&
    (rule.conditions.zip (lastOf rule.conditions.length states)).all fun (condition, state) =>
      conditionMet condition state

/-- The last condition is on what the user said. -/
def dependsOnUser (rule : Rule) : Bool :=
  rule.conditions.getLast?.any TurnState.hasUserInput

def occursIn (rule : Rule) (history : History) : Bool :=
  history.contexts.any fun (states, action) =>
    action == rule.action && rule.conditions.length ≤ states.length &&
      lastOf rule.conditions.length states == rule.conditions

/-- The rules of one conversation. The start of the conversation is no condition. -/
def ofHistory (history : History) : List Rule :=
  let first := if history.states.head?.any TurnState.isStart then 1 else 0
  (history.contexts.drop first).map fun (states, action) => ⟨states.drop first, action, false⟩

def learn (trackers : List Tracker) (domain : Domain) (interpreter : Interpreter) : List Rule :=
  distinct ((rules trackers).flatMap fun tracker =>
    ofHistory (tracker.history domain interpreter))

def markStories (histories : List History) (rule : Rule) : Rule :=
  { rule with inStories := rule.inStories || histories.any rule.occursIn }

def conditionsInOrder (known : List Rule) : List (List TurnState) :=
  (distinct (known.map (·.conditions))).mergeSort fun a b =>
    (TurnState.compareLists TurnState.order a b).isLE

def actionsOf (known : List Rule) (conditions : List TurnState) : List String :=
  (known.filter (·.conditions == conditions)).map (·.action)

def contradictions (known : List Rule) : List (List TurnState) :=
  (conditionsInOrder known).filter fun conditions => 1 < (actionsOf known conditions).length

def dropContradictions (known : List Rule) : List Rule × List Warning :=
  let contradicting := contradictions known
  (known.filter fun rule => rule.conditions ∉ contradicting,
    contradicting.map fun conditions => .contradictingRules (actionsOf known conditions))

def toJson (rule : Rule) : Json :=
  .obj [("conditions", .arr (rule.conditions.map TurnState.toJson)), ("action", .str rule.action),
    ("in_stories", .bool rule.inStories)]

def ofJson? (value : Json) : Option Rule := do
  match ← value.record? ["conditions", "action", "in_stories"] 2 with
  | [conditions, action, inStories] =>
    return ⟨← Json.field (Json.asList? TurnState.ofJson?) conditions,
      ← Json.field Json.asString? action, ← Json.defaultField false Json.asBool? inStories⟩
  | _ => none

end Rule

structure RulePolicy where
  priority : Int32
  /-- Conditions that lead to several actions make no rule. -/
  dropsContradictions : Bool
  learned : List Rule := []

namespace RulePolicy

def typeName : String := "RulePolicy"

def modulePath : String := "colloquy::policy::rule"

def defaultPriority : Int32 := 6

def default : RulePolicy := ⟨defaultPriority, true, []⟩

def train (policy : RulePolicy) (trackers : List Tracker) (domain : Domain)
    (interpreter : Interpreter) : RulePolicy × List Warning :=
  let histories := (stories trackers).map (·.history domain interpreter)
  let learned := (Rule.learn trackers domain interpreter).map (Rule.markStories histories)
  let heard := (rules trackers ++ stories trackers).flatMap (·.warnings interpreter)
  let (learned, noticed) :=
    if policy.dropsContradictions then Rule.dropContradictions learned else (learned, [])
  ({ policy with learned }, heard ++ noticed)

/-- Keeps the rule with more conditions, the earlier one of two with equally many. -/
def longer (best : Option Rule) (rule : Rule) : Option Rule :=
  match best with
  | none => some rule
  | some b => if b.conditions.length < rule.conditions.length then some rule else some b

/-- The first of the rules with the most conditions among those that hold. -/
def choose (policy : RulePolicy) (states : List TurnState) : Option Rule :=
  (policy.learned.filter (·.holdsAt states)).foldl longer none

def predict (policy : RulePolicy) (tracker : Tracker) (domain : Domain)
    (interpreter : Interpreter) : Prediction :=
  match policy.choose (tracker.history domain interpreter).states with
  | none => .abstain policy.priority
  | some rule =>
    match Prediction.ofAction domain rule.action 1.0 with
    | .error _ => .abstain policy.priority
    | .ok prediction =>
      { prediction with
        priority := policy.priority
        isNoUser := !rule.dependsOnUser
        hideRuleTurn := !rule.inStories }.withDiagnostic
          "rule_turns" (.ofNat rule.conditions.length)

def configToJson (policy : RulePolicy) : Json :=
  .obj [("drop_contradicting_rules", .bool policy.dropsContradictions)]

def configOfJson? (value : Json) : Option Bool := do
  match ← value.record? ["drop_contradicting_rules"] 0 with
  | [drops] => Json.defaultField true Json.asBool? drops
  | _ => none

def toJson (policy : RulePolicy) : Json :=
  .obj [("priority", Json.ofInt32 policy.priority), ("config", policy.configToJson),
    ("rules", .arr (policy.learned.map Rule.toJson))]

def ofJson? (value : Json) : Option RulePolicy := do
  match ← value.record? ["priority", "config", "rules"] 3 with
  | [priority, config, learned] =>
    return ⟨← Json.field Json.asInt32? priority, ← Json.field configOfJson? config,
      ← Json.field (Json.asList? Rule.ofJson?) learned⟩
  | _ => none

def ofSpec (spec : Spec) : Except ConfigError RulePolicy :=
  spec.withOptions do
    let drops ← spec.option "drop_contradicting_rules" true Spec.optionFlag
    return ⟨spec.priority.getD defaultPriority, drops, []⟩

instance : Policy RulePolicy where
  typeName _ := typeName
  modulePath _ := modulePath
  priority := priority
  capabilities _ := { supportsRules := true }
  train policy trackers domain interpreter := .ok (policy.train trackers domain interpreter)
  predict policy tracker domain interpreter := .ok (policy.predict tracker domain interpreter)
  state policy := some policy.toJson

end RulePolicy

end Dialogue
