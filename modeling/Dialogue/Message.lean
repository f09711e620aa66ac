import Dialogue.Json.Record

namespace Dialogue

structure Intent where
  name : String
  confidence : Float

namespace Intent

def certain (name : String) : Intent := ⟨name, 1.0⟩

def toJson (intent : Intent) : Json :=
  .obj [("name", .str intent.name), ("confidence", .float intent.confidence)]

def ofJson? (value : Json) : Option Intent := do
  match ← value.record? ["name", "confidence"] 1 with
  | [name, confidence] =>
    return ⟨← Json.field Json.asString? name, ← Json.defaultField 1.0 Json.asFloat? confidence⟩
  | _ => none

end Intent

/-- An entity found in a message, with the characters it spans where they are known. -/
structure Entity where
  name : String
  value : Json
  start : Option UInt64
  stop : Option UInt64

namespace Entity

def toJson (entity : Entity) : Json :=
  .obj ([("entity", .str entity.name), ("value", entity.value)] ++
    (entity.start.map fun n => ("start", Json.ofUInt64 n)).toList ++
    (entity.stop.map fun n => ("end", Json.ofUInt64 n)).toList)

def ofJson? (value : Json) : Option Entity := do
  match ← value.record? ["entity", "value", "start", "end"] 2 with
  | [name, value, start, stop] =>
    return ⟨← Json.field Json.asString? name, ← Json.field Json.canonical? value,
      ← Json.optionalField Json.asUInt64? start, ← Json.optionalField Json.asUInt64? stop⟩
  | _ => none

end Entity

/-- A message and what was understood of it. The ranking has the best intent first. -/
structure Parse where
  text : String
  intent : Option Intent
  entities : List Entity
  ranking : List Intent

namespace Parse

def ofText (text : String) : Parse := ⟨text, none, [], []⟩

def toJson (parse : Parse) : Json :=
  .obj [("text", .str parse.text), ("intent", Json.ofOption Intent.toJson parse.intent),
    ("entities", .arr (parse.entities.map Entity.toJson)),
    ("intent_ranking", .arr (parse.ranking.map Intent.toJson))]

def ofJson? (value : Json) : Option Parse := do
  match ← value.record? ["text", "intent", "entities", "intent_ranking"] 2 with
  | [text, intent, entities, ranking] =>
    return ⟨← Json.field Json.asString? text, ← Json.optionalField Intent.ofJson? intent,
      ← Json.defaultField [] (Json.asList? Entity.ofJson?) entities,
      ← Json.defaultField [] (Json.asList? Intent.ofJson?) ranking⟩
  | _ => none

end Parse

end Dialogue
