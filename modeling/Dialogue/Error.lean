import Dialogue.FileTree
import Dialogue.Json
import Dialogue.Text.Quoted

namespace Dialogue

/-- What is wrong with a configuration as a whole. Entries are counted from 0. -/
inductive ConfigFault where
  | notMapping
  | bothKeys
  | missingKey
  | notList
  | emptyList
  | entryNotMapping (index : Nat) (value : Json)
  | invalidName (index : Nat) (value : Json)
  | missingName (index : Nat)
  | invalidPriority (name : String) (value : Json)

def ConfigFault.message : ConfigFault → String
  | notMapping => "configuration must be a mapping"
  | bothKeys => "only one of 'policy' and 'policies' may be given"
  | missingKey => "configuration needs a 'policies' key"
  | notList => "policies must be given as a list"
  | emptyList => "the list of policies must not be empty"
  | entryNotMapping index value =>
    "policy #" ++ toString index ++ " must be a mapping, got " ++ value.compact
  | invalidName index value =>
    "policy #" ++ toString index ++ " has an invalid name " ++ value.compact
  | missingName index => "policy #" ++ toString index ++ " is missing the required 'name' field"
  | invalidPriority name value =>
    "priority of policy '" ++ name ++ "' must be an integer, got " ++ value.compact

inductive OptionFault where
  | wrongType (found : Json) (wanted : String)
  | outOfRange (found : Int) (wanted : String)
  | emptyHistory
  | invalidThreshold (name : String) (value : Float)
  | blankAction

def describe : Json → String
  | .null => "null"
  | .bool b => "boolean `" ++ toString b ++ "`"
  | .int n => "integer `" ++ toString n ++ "`"
  | .float x => "floating point `" ++ String.ofList (Json.renderFloat x) ++ "`"
  | .str s => "string " ++ Text.quote s
  | .arr _ => "sequence"
  | .obj _ => "map"

def OptionFault.message : OptionFault → String
  | wrongType found wanted => "invalid type: " ++ describe found ++ ", expected " ++ wanted
  | outOfRange found wanted =>
    "invalid value: integer `" ++ toString found ++ "`, expected " ++ wanted
  | emptyHistory => "max_history must be at least 1"
  | invalidThreshold name value =>
    name ++ " must be within [0.0, 1.0], got " ++ Decimal.writeFloat Decimal.plain value
  | blankAction => "fallback_action_name cannot be empty"

inductive ConfigError where
  | invalidConfig (fault : ConfigFault)
  | unknownPolicy (name : String)
  | invalidOptions (policy : String) (fault : OptionFault)
  | unreadable

def ConfigError.message : ConfigError → String
  | invalidConfig fault => "Invalid policy configuration: " ++ fault.message
  | unknownPolicy name =>
    "Module for policy '" ++ name ++ "' could not be found. Please verify the policy name"
  | invalidOptions policy fault =>
    "Invalid options for policy '" ++ policy ++ "': " ++ fault.message
  | unreadable => "Failed to parse configuration"

inductive DomainError where
  | actionNotFound (name : String)
  | indexOutOfRange (index count : Nat)
  | incompatible (typeName action : String)
  | unreadable

def DomainError.message : DomainError → String
  | actionNotFound name =>
    "Cannot access action '" ++ name ++ "', as it is not part of the domain"
  | indexOutOfRange index count =>
    "Action index " ++ toString index ++ " is out of range for a domain with " ++ toString count ++
      " actions"
  | incompatible typeName action =>
    "Domain is incompatible with the policy ensemble: " ++ typeName ++ " predicts '" ++ action ++
      "', which is not an action of the domain"
  | unreadable => "Failed to parse domain"

inductive ModelError where
  | io (path : Path) (failure : FileTree.Failure)
  | unreadable (path : Path)
  | invalidDirectory (directory : String)
  | invalidVersion (version : String)
  | unknownPolicyType (name : String)
  | typeMismatch (expected found : String)
  | fingerprintMismatch (stored computed : String)
  | unsupportedVersion (version minimum : String)

def ModelError.message : ModelError → String
  | io path failure => "I/O error at " ++ path.text ++ ": " ++ failure.message
  | unreadable path => "Invalid ensemble metadata: " ++ path.text
  | invalidDirectory directory =>
    "Invalid ensemble metadata: invalid policy directory '" ++ directory ++ "'"
  | invalidVersion version => "Invalid ensemble metadata: invalid model version '" ++ version ++ "'"
  | unknownPolicyType name => "Persisted policy type '" ++ name ++ "' is not registered"
  | typeMismatch expected found =>
    "Loading policy '" ++ expected ++ "' returned an instance of '" ++ found ++ "'"
  | fingerprintMismatch stored computed =>
    "Ensemble fingerprint mismatch: stored " ++ stored ++ ", computed " ++ computed
  | unsupportedVersion version minimum =>
    "Model version " ++ version ++ " is not supported (minimum compatible version: " ++ minimum ++
      ")"

/-- Any error. A prediction is of the wrong length when it is neither empty nor has a score for
each action. -/
inductive Error where
  | config (error : ConfigError)
  | domain (error : DomainError)
  | model (error : ModelError)
  | wrongLength (label : String) (expected actual : Nat)
  | internal (text : String)

def Error.message : Error → String
  | config error => "Configuration error: " ++ error.message
  | domain error => "Domain error: " ++ error.message
  | model error => "Persistence error: " ++ error.message
  | wrongLength label expected actual =>
    "Prediction error: Policy '" ++ label ++ "' returned " ++ toString actual ++
      " probabilities, expected " ++ toString expected
  | internal text => "Internal error: " ++ text

end Dialogue
