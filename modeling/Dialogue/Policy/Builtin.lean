import Dialogue.Policy.FallbackPolicy
import Dialogue.Policy.Memoization
import Dialogue.Policy.Registry
import Dialogue.Policy.Rule
import Dialogue.Policy.UnexpectedIntent

namespace Dialogue

inductive BuiltinPolicy where
  | memoization (policy : MemoizationPolicy)
  | augmentedMemoization (policy : AugmentedMemoizationPolicy)
  | rule (policy : RulePolicy)
  | unexpectedIntent (policy : UnexpectedIntentPolicy)
  | fallback (policy : FallbackPolicy)

namespace BuiltinPolicy

instance : Policy BuiltinPolicy where
  typeName
    | memoization p => Policy.typeName p
    | augmentedMemoization p => Policy.typeName p
    | rule p => Policy.typeName p
    | unexpectedIntent p => Policy.typeName p
    | fallback p => Policy.typeName p
  modulePath
    | memoization p => Policy.modulePath p
    | augmentedMemoization p => Policy.modulePath p
    | rule p => Policy.modulePath p
    | unexpectedIntent p => Policy.modulePath p
    | fallback p => Policy.modulePath p
  priority
    | memoization p => Policy.priority p
    | augmentedMemoization p => Policy.priority p
    | rule p => Policy.priority p
    | unexpectedIntent p => Policy.priority p
    | fallback p => Policy.priority p
  capabilities
    | memoization p => Policy.capabilities p
    | augmentedMemoization p => Policy.capabilities p
    | rule p => Policy.capabilities p
    | unexpectedIntent p => Policy.capabilities p
    | fallback p => Policy.capabilities p
  train
    | memoization p, ts, d, i => (Policy.train p ts d i).map fun (q, ws) => (memoization q, ws)
    | augmentedMemoization p, ts, d, i =>
      (Policy.train p ts d i).map fun (q, ws) => (augmentedMemoization q, ws)
    | rule p, ts, d, i => (Policy.train p ts d i).map fun (q, ws) => (rule q, ws)
    | unexpectedIntent p, ts, d, i =>
      (Policy.train p ts d i).map fun (q, ws) => (unexpectedIntent q, ws)
    | fallback p, ts, d, i => (Policy.train p ts d i).map fun (q, ws) => (fallback q, ws)
  predict
    | memoization p => Policy.predict p
    | augmentedMemoization p => Policy.predict p
    | rule p => Policy.predict p
    | unexpectedIntent p => Policy.predict p
    | fallback p => Policy.predict p
  state
    | memoization p => Policy.state p
    | augmentedMemoization p => Policy.state p
    | rule p => Policy.state p
    | unexpectedIntent p => Policy.state p
    | fallback p => Policy.state p

def registrations : List (Registration BuiltinPolicy) := [
  (Registration.ofCodec MemoizationPolicy.typeName MemoizationPolicy.modulePath
    MemoizationPolicy.ofSpec MemoizationPolicy.ofJson?).map memoization,
  (Registration.ofCodec AugmentedMemoizationPolicy.typeName AugmentedMemoizationPolicy.modulePath
    AugmentedMemoizationPolicy.ofSpec AugmentedMemoizationPolicy.ofJson?).map augmentedMemoization,
  (Registration.ofCodec RulePolicy.typeName RulePolicy.modulePath RulePolicy.ofSpec
    RulePolicy.ofJson?).map rule,
  (Registration.ofCodec UnexpectedIntentPolicy.typeName UnexpectedIntentPolicy.modulePath
    UnexpectedIntentPolicy.ofSpec UnexpectedIntentPolicy.ofJson?).map unexpectedIntent,
  (Registration.ofCodec FallbackPolicy.typeName FallbackPolicy.modulePath FallbackPolicy.ofSpec
    FallbackPolicy.ofJson?).map fallback]

def defaults : List BuiltinPolicy := [memoization .default, augmentedMemoization .default,
  rule .default, unexpectedIntent .default, fallback .default]

end BuiltinPolicy

def Registry.builtin : Registry BuiltinPolicy := .ofList BuiltinPolicy.registrations

end Dialogue
