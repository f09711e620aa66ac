import Dialogue.Distinct
import Dialogue.Policy
import Dialogue.Policy.Spec
import Dialogue.Timestamp

namespace Dialogue

inductive FanOut where
  | sequential
  | parallel
deriving DecidableEq

structure Ensemble (π : Type) where
  policies : List π
  fanOut : FanOut := .sequential
  trainedAt : Option Timestamp := none
  /-- The fingerprint of the domain that the ensemble was trained on. -/
  domainFingerprint : Option String := none

namespace Ensemble

variable {π : Type} [Policy π]

/-- Names a policy of an ensemble in predictions and in the model directory. -/
def label (index : Nat) (typeName : String) : String :=
  "policy_" ++ toString index ++ "_" ++ typeName

def labelled (ensemble : Ensemble π) : List (String × π) :=
  ensemble.policies.zipIdx.map fun (policy, i) => (label i (Policy.typeName policy), policy)

def priorities (ensemble : Ensemble π) : List Int32 :=
  (distinct (ensemble.policies.map Policy.priority)).mergeSort fun a b => decide (a ≤ b)

def typeNamesAt (ensemble : Ensemble π) (priority : Int32) : List String :=
  (ensemble.policies.filter (Policy.priority · == priority)).map Policy.typeName

def collisions (ensemble : Ensemble π) : List (Int32 × List String) :=
  (ensemble.priorities.map fun p => (p, ensemble.typeNamesAt p)).filter fun (_, names) =>
    1 < names.length

def warnings (ensemble : Ensemble π) : List Warning :=
  ensemble.collisions.map fun (priority, names) => .samePriority priority.toInt names

def ofConfig (create : Spec → Except ConfigError π) (config : Json) :
    Except ConfigError (Ensemble π) :=
  match Spec.ofConfig config with
  | .error fault => .error (.invalidConfig fault)
  | .ok specs => do return { policies := ← specs.mapM create }

/-! ### Training -/

def ruleLearners (ensemble : Ensemble π) : List String :=
  (ensemble.policies.filter fun p => (Policy.capabilities p).supportsRules).map Policy.typeName

/-- Rules and policies that learn from rules go together. -/
def report (ensemble : Ensemble π) (trackers : List Tracker) : List Warning :=
  let learners := ensemble.ruleLearners
  match trackers.any (·.isRule), learners.isEmpty with
  | true, true => [.ruleDataWithoutRulePolicy]
  | false, false => [.rulePolicyWithoutRuleData learners]
  | _, _ => []

/-- Trains policies one after the other. The first one that fails ends the training: it and those
after it stay as they were. -/
def trainAll (trackers : List Tracker) (domain : Domain) (interpreter : Interpreter) :
    List π → List π × Except Error (List Warning)
  | [] => ([], .ok [])
  | policy :: rest =>
    match Policy.train policy trackers domain interpreter with
    | .error error => (policy :: rest, .error error)
    | .ok (trained, noticed) =>
      let (others, outcome) := trainAll trackers domain interpreter rest
      (trained :: others, outcome.map (noticed ++ ·))

/-- The ensemble after training, and what was noticed. Only a training that succeeds counts as one
at the given time. -/
def train (ensemble : Ensemble π) (now : Timestamp) (trackers : List Tracker) (domain : Domain)
    (interpreter : Interpreter) : Ensemble π × Except Error (List Warning) :=
  let (policies, outcome) := trainAll trackers domain interpreter ensemble.policies
  match outcome with
  | .error error => ({ ensemble with policies }, .error error)
  | .ok noticed =>
    ({ ensemble with
        policies, trainedAt := some now, domainFingerprint := some domain.fingerprint },
      .ok (ensemble.report trackers ++ noticed))

/-! ### Domain -/

/-- A fallback action that the domain does not know is an error; another domain than the one of the
training is worth a warning. -/
def checkDomain (ensemble : Ensemble π) (domain : Domain) : Except Error (List Warning) := do
  for policy in ensemble.policies do
    match (Policy.capabilities policy).fallback with
    | some fallback =>
      if !domain.hasAction fallback.action then
        throw (.domain (.incompatible (Policy.typeName policy) fallback.action))
    | none => pure ()
  match ensemble.domainFingerprint with
  | some fingerprint => return if fingerprint != domain.fingerprint then [.domainChanged] else []
  | none => return []

end Ensemble

end Dialogue
