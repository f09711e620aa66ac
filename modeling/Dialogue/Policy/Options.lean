import Dialogue.Policy.Spec

/-!
Typed options of a policy. An option that is left out has its default value, and one of the wrong
type is a fault.
-/
namespace Dialogue.Spec

def optionCount : Json → Except OptionFault UInt64
  | .int n =>
    if 0 ≤ n then .ok (UInt64.ofNat n.toNat) else .error (.outOfRange n "usize")
  | value => .error (.wrongType value "usize")

def optionNumber : Json → Except OptionFault Float
  | .int n => .ok (Float.ofInt n)
  | .float x => .ok x
  | value => .error (.wrongType value "f64")

def optionFlag : Json → Except OptionFault Bool
  | .bool b => .ok b
  | value => .error (.wrongType value "a boolean")

def optionText : Json → Except OptionFault String
  | .str s => .ok s
  | value => .error (.wrongType value "a string")

def optionTexts : Json → Except OptionFault (List String)
  | .arr items => items.mapM optionText
  | value => .error (.wrongType value "a sequence")

def option (spec : Spec) (name : String) (default : α) (decode : Json → Except OptionFault α) :
    Except OptionFault α :=
  match spec.options.get? name with
  | some value => decode value
  | none => .ok default

/-- A fault in the options of a policy is an error that names the policy. -/
def withOptions (spec : Spec) (result : Except OptionFault α) : Except ConfigError α :=
  match result with
  | .ok a => .ok a
  | .error fault => .error (.invalidOptions spec.name fault)

end Dialogue.Spec
