import Dialogue.Error
import Dialogue.Json.Record
import Dialogue.Text.Blank

/-!
The configuration of an ensemble: a mapping with one of the keys `policy` and `policies`, which
holds the list of policies. Each has a name, may have a priority, and all its other members are
options.
-/
namespace Dialogue

structure Spec where
  name : String
  priority : Option Int32 := none
  options : SortedMap Json := ∅

namespace Spec

def readName (index : Nat) (members : List (String × Json)) : Except ConfigFault String :=
  match members.lookup "name" with
  | some (.str name) =>
    if Text.isBlankText name then .error (.invalidName index (.str name)) else .ok name
  | some value => .error (.invalidName index value)
  | none => .error (.missingName index)

def readPriority (name : String) (members : List (String × Json)) :
    Except ConfigFault (Option Int32) :=
  match members.lookup "priority" with
  | none | some .null => .ok none
  | some value =>
    match value.asInt32? with
    | some priority => .ok (some priority)
    | none => .error (.invalidPriority name value)

def isOption (member : String × Json) : Bool :=
  member.1 != "name" && member.1 != "priority"

def ofEntry (index : Nat) : Json → Except ConfigFault Spec
  | .obj members => do
    let name ← readName index members
    let priority ← readPriority name members
    return ⟨name, priority, SortedMap.ofList (members.filter isOption)⟩
  | value => .error (.entryNotMapping index value)

def toEntry (spec : Spec) : Json :=
  Json.ofMembers (("name", .str spec.name) ::
    (spec.priority.map fun p => ("priority", Json.ofInt32 p)).toList ++ spec.options.entries)

def entries (members : List (String × Json)) : Except ConfigFault (List Json) :=
  match members.lookup "policy", members.lookup "policies" with
  | some _, some _ => .error .bothKeys
  | none, none => .error .missingKey
  | some value, none | none, some value =>
    match value with
    | .arr [] => .error .emptyList
    | .arr items => .ok items
    | _ => .error .notList

/-- The policies of a configuration, in order; the first fault counts. -/
def ofConfig : Json → Except ConfigFault (List Spec)
  | .obj members => do (← entries members).zipIdx.mapM fun (entry, index) => ofEntry index entry
  | _ => .error .notMapping

end Spec

end Dialogue
