import Dialogue.Json.Record
import Dialogue.Text.Lowercase

namespace Dialogue

inductive SlotType where
  | text
  | bool
  | categorical
  | float
  | list
  | any
deriving DecidableEq

namespace SlotType

def name : SlotType → String
  | text => "text"
  | bool => "bool"
  | categorical => "categorical"
  | float => "float"
  | list => "list"
  | any => "any"

def ofName? (name : String) : Option SlotType :=
  [text, bool, categorical, float, list, any].find? (·.name == name)

def title : SlotType → String
  | text => "Text"
  | bool => "Bool"
  | categorical => "Categorical"
  | float => "Float"
  | list => "List"
  | any => "Any"

end SlotType

structure Slot where
  name : String
  type : SlotType
  /-- Whether the value may show in the state of the dialogue. -/
  influences : Bool
deriving DecidableEq

namespace Slot

/-- Slots influence the conversation, except those of any type. -/
def ofType (name : String) (type : SlotType) : Slot := ⟨name, type, type != .any⟩

/-- What the state shows of a value: that it is there, or the value itself in lower case. Null
shows nothing. -/
def feature? (slot : Slot) (value : Json) : Option String :=
  if !slot.influences || value.isNull then none
  else match slot.type with
    | .any => none
    | .text | .list => some "set"
    | .bool | .categorical | .float =>
      match value with
      | .str s => some (Text.lowercase s)
      | other => some other.compact

def toJson (slot : Slot) : Json :=
  .obj [("name", .str slot.name), ("type", .str slot.type.name),
    ("influence_conversation", .bool slot.influences)]

/-- A type is written as its name, or as an object with the name as its one key and null. -/
def asType? : Json → Option SlotType
  | .str name => SlotType.ofName? name
  | .obj [(name, .null)] => SlotType.ofName? name
  | _ => none

def ofJson? (value : Json) : Option Slot := do
  match ← value.record? ["name", "type", "influence_conversation"] 1 with
  | [name, type, influences] =>
    return ⟨← Json.field Json.asString? name, ← Json.defaultField .text asType? type,
      ← Json.defaultField true Json.asBool? influences⟩
  | _ => none

end Slot

end Dialogue
