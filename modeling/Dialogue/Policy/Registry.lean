import Dialogue.Policy
import Dialogue.Policy.Options

/-!
Registries: how policies are made from a configuration and read from a directory, by the name of
their type. A name that is qualified by a module names one type only; a short name means the type
that was registered last under it.
-/
namespace Dialogue

structure Registration (π : Type) where
  typeName : String
  modulePath : String
  create : Spec → Except ConfigError π
  /-- Reads a policy from a directory. There may be none. -/
  load : FileTree → Path → Except Error (Option π)

namespace Registration

variable {π ρ : Type}

def qualifiedName (entry : Registration π) : String :=
  Policy.qualify entry.modulePath entry.typeName

/-- The registration of a type whose policies have a state file. -/
def ofCodec (typeName modulePath : String) (create : Spec → Except ConfigError π)
    (decode : Json → Option π) : Registration π :=
  ⟨typeName, modulePath, create, Policy.loadState decode⟩

def map (f : π → ρ) (entry : Registration π) : Registration ρ :=
  ⟨entry.typeName, entry.modulePath, fun spec => (entry.create spec).map f,
    fun tree directory => (entry.load tree directory).map (·.map f)⟩

def description (entry : Registration π) : String :=
  "RegisteredPolicy \x7b type_name: " ++ Text.quote entry.typeName ++ ", module_path: " ++
    Text.quote entry.modulePath ++ ", .. \x7d"

end Registration

/-- Registrations, the latest one last. -/
structure Registry (π : Type) where
  entries : List (Registration π) := []

namespace Registry

variable {π ρ : Type}

def empty : Registry π := ⟨[]⟩

/-- Takes the place of a registration with the same qualified name. -/
def register (registry : Registry π) (entry : Registration π) : Registry π :=
  ⟨registry.entries.filter (·.qualifiedName != entry.qualifiedName) ++ [entry]⟩

def ofList (entries : List (Registration π)) : Registry π := entries.foldl register empty

def map (f : π → ρ) (registry : Registry π) : Registry ρ := ⟨registry.entries.map (·.map f)⟩

def hasColonPair : List Char → Bool
  | ':' :: ':' :: _ => true
  | _ :: rest => hasColonPair rest
  | [] => false

def isQualified (name : String) : Bool :=
  hasColonPair name.toList || name.toList.contains '.'

def resolve (registry : Registry π) (name : String) : Option (Registration π) :=
  match registry.entries.find? (·.qualifiedName == name) with
  | some entry => some entry
  | none =>
    if isQualified name then none else registry.entries.reverse.find? (·.typeName == name)

def create (registry : Registry π) (spec : Spec) : Except ConfigError π :=
  match registry.resolve spec.name with
  | some entry => entry.create spec
  | none => .error (.unknownPolicy spec.name)

def typeNames (registry : Registry π) : List String := registry.entries.map (·.typeName)

end Registry

end Dialogue
