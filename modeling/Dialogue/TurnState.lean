import Dialogue.Json.Record

namespace Dialogue

structure TurnState where
  prevAction : Option String := none
  userIntent : Option String := none
  userText : Option String := none
  entities : List String := []
  slots : List (String × String) := []
  activeLoop : Option String := none
deriving DecidableEq

namespace TurnState

def isStart (state : TurnState) : Bool := state == {}

def hasUserInput (state : TurnState) : Bool :=
  state.userIntent.isSome || state.userText.isSome

/-! ### Order -/

def compareOption : Option String → Option String → Ordering
  | none, none => .eq
  | none, some _ => .lt
  | some _, none => .gt
  | some a, some b => compare a b

/-- Item by item; of two lists of which one continues the other the shorter one comes first. -/
def compareLists (cmp : α → α → Ordering) : List α → List α → Ordering
  | [], [] => .eq
  | [], _ :: _ => .lt
  | _ :: _, [] => .gt
  | a :: as, b :: bs => (cmp a b).then (compareLists cmp as bs)

def order (a b : TurnState) : Ordering :=
  (compareOption a.prevAction b.prevAction).then <|
  (compareOption a.userIntent b.userIntent).then <|
  (compareOption a.userText b.userText).then <|
  (compareLists compare a.entities b.entities).then <|
  (compareLists (fun x y => (compare x.1 y.1).then (compare x.2 y.2)) a.slots b.slots).then <|
  compareOption a.activeLoop b.activeLoop

/-! ### JSON -/

def textMember (name : String) (value : Option String) : List (String × Json) :=
  (value.map fun s => (name, Json.str s)).toList

def listMember (name : String) (items : List Json) : List (String × Json) :=
  if items.isEmpty then [] else [(name, .arr items)]

/-- Only what is there is written. -/
def toJson (state : TurnState) : Json :=
  .obj (textMember "prev_action" state.prevAction ++ textMember "user_intent" state.userIntent ++
    textMember "user_text" state.userText ++ listMember "entities" (state.entities.map .str) ++
    listMember "slots" (state.slots.map fun (name, feature) => .arr [.str name, .str feature]) ++
    textMember "active_loop" state.activeLoop)

def asPair? : Json → Option (String × String)
  | .arr [.str name, .str feature] => some (name, feature)
  | _ => none

def ofJson? (value : Json) : Option TurnState := do
  match ← value.record?
      ["prev_action", "user_intent", "user_text", "entities", "slots", "active_loop"] 0 with
  | [prevAction, userIntent, userText, entities, slots, activeLoop] =>
    return ⟨← Json.optionalField Json.asString? prevAction,
      ← Json.optionalField Json.asString? userIntent, ← Json.optionalField Json.asString? userText,
      ← Json.defaultField [] (Json.asList? Json.asString?) entities,
      ← Json.defaultField [] (Json.asList? asPair?) slots,
      ← Json.optionalField Json.asString? activeLoop⟩
  | _ => none

end TurnState

end Dialogue
