import Dialogue.Text.Quoted

namespace Dialogue

inductive Warning where
  | invalidConfidence (written message : String)
  | invalidPayload (written : String)
  | samePriority (priority : Int) (typeNames : List String)
  | ruleDataWithoutRulePolicy
  | rulePolicyWithoutRuleData (typeNames : List String)
  | contradictingRules (actions : List String)
  | policyNotLoaded (qualifiedName : String)
  | domainChanged
deriving DecidableEq

namespace Warning

def message : Warning → String
  | invalidConfidence written text =>
    "Invalid confidence '" ++ written ++ "' in user message '" ++ text ++ "', using 1.0"
  | invalidPayload written => "Invalid entity payload '" ++ written ++ "' in user message"
  | samePriority priority typeNames =>
    "Found policies " ++ Text.quoteList typeNames ++ " with same priority " ++ toString priority ++
      " in PolicyEnsemble. When personalizing priorities, be sure to give all policies different" ++
      " priorities."
  | ruleDataWithoutRulePolicy =>
    "Found rule-based training data but no policy supporting rule-based data. Please add" ++
      " `RulePolicy` or another policy that supports rule-based data to the policies section" ++
      " of your configuration."
  | rulePolicyWithoutRuleData typeNames =>
    "Found a rule-based policy in your pipeline but no rule-based training data. Please add" ++
      " rule-based stories to your training data or remove the rule-based policy (`" ++
      ", ".intercalate typeNames ++ "`) from your configuration."
  | contradictingRules actions =>
    "Contradicting rules: the same conditions lead to " ++ ", ".intercalate actions ++
      ". These rules are ignored."
  | policyNotLoaded qualifiedName =>
    "Failed to load policy " ++ qualifiedName ++ ": load returned None"
  | domainChanged =>
    "The domain differs from the domain the ensemble was trained on. Retrain the model to pick" ++
      " up domain changes."

end Warning

end Dialogue
