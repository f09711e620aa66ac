import Dialogue.Domain
import Dialogue.Text.Blank
import Dialogue.Yaml.Document

/-!
Domain files: a YAML mapping with intents, entities, slots, actions, responses and action texts. The
actions of a domain are its actions, the names of its responses in order, and its action texts.
-/
namespace Dialogue

/-- An intent is a name, or a mapping whose keys are names. -/
inductive IntentEntry where
  | name (name : String)
  | configured (names : List String)
deriving DecidableEq

structure SlotEntry where
  type : Option SlotType
  influences : Option Bool
deriving DecidableEq

/-- The sections of a domain file, each in the order of the file. -/
structure DomainFile where
  intents : List IntentEntry := []
  entities : List String := []
  slots : List (String × SlotEntry) := []
  actions : List String := []
  /-- The names of the responses. What they say does not matter here. -/
  responses : List String := []
  actionTexts : List String := []
deriving DecidableEq

def sortedTexts (texts : List String) : List String :=
  (SortedMap.ofList (texts.map (·, ()))).keys

/-- Of a mapping the first key in order is the name; an empty one names no intent. -/
def IntentEntry.intent? : IntentEntry → Option String
  | .name text => some text
  | .configured names => (sortedTexts names).head?

/-- A slot is of type text and influences the conversation unless the file says something else. -/
def SlotEntry.slot (name : String) (entry : SlotEntry) : Slot :=
  ⟨name, entry.type.getD .text, entry.influences.getD true⟩

namespace DomainFile

/-- The slots in the order of their names. Of entries with one name the last counts. -/
def sortedSlots (file : DomainFile) : List Slot :=
  (SortedMap.ofList file.slots).entries.map fun (name, entry) => entry.slot name

def userActions (file : DomainFile) : List String :=
  file.actions ++ sortedTexts file.responses ++ file.actionTexts

def domain (file : DomainFile) : Domain :=
  .ofParts (file.intents.filterMap IntentEntry.intent?) file.entities file.sortedSlots
    file.userActions

/-! ### Reading -/

open Yaml (Document Node Reading)

def readIntent (document : Document) (fuel : Nat) (node : Node) : Reading IntentEntry := do
  match ← document.follow node with
  | .scalar _ tag style text =>
    match Yaml.Tag.ownName? tag, Yaml.meaning? tag style text with
    | none, some .text => return .name (String.ofList text)
    | _, _ => failure
  | .mapping _ tag entries =>
    if (Yaml.Tag.ownName? tag).isSome then failure
    let inner ← Document.descend fuel
    let keys ← entries.mapM fun (key, value) => do
      let _ ← document.identity false inner value
      match ← document.follow key with
      | .scalar _ tag style text =>
        match Yaml.Tag.ownName? tag, Yaml.meaning? tag style text with
        | none, some .text => return String.ofList text
        | _, _ => failure
      | _ => failure
    return .configured keys
  | _ => failure

def readIntents (document : Document) (fuel : Nat) (node : Node) : Reading (List IntentEntry) := do
  let items ← document.items node
  let inner ← Document.descend fuel
  items.mapM (readIntent document inner)

def readTexts (document : Document) (node : Node) : Reading (List String) := do
  (← document.items node).mapM document.text

def readSlot (document : Document) (node : Node) : Reading SlotEntry := do
  match ← document.record ["type", "influence_conversation"] node with
  | [type, influences] =>
    let type ← type.mapM fun node => do
      match SlotType.ofName? (← document.name node) with
      | some type => return type
      | none => failure
    let influences ← influences.mapM document.bool
    return ⟨type, influences⟩
  | _ => failure

def readSlots (document : Document) (node : Node) : Reading (List (String × SlotEntry)) := do
  (← document.entries node).mapM fun (key, value) => do
    let name ← document.text key
    return (name, ← readSlot document value)

def readResponses (document : Document) (fuel : Nat) (node : Node) : Reading (List String) := do
  let entries ← document.entries node
  let inner ← Document.descend fuel
  entries.mapM fun (key, value) => do
    let name ← document.text key
    let _ ← document.identity true inner value
    return name

def orNone (read : Node → Reading (List α)) : Option Node → Reading (List α)
  | some node => read node
  | none => return []

def read (document : Document) (fuel : Nat) (node : Node) : Reading DomainFile := do
  let names := ["intents", "entities", "slots", "actions", "responses", "action_texts"]
  match ← document.record names node with
  | [intents, entities, slots, actions, responses, actionTexts] =>
    let fuel ← Document.descend fuel
    return {
      intents := ← orNone (readIntents document fuel) intents
      entities := ← orNone (readTexts document) entities
      slots := ← orNone (readSlots document) slots
      actions := ← orNone (readTexts document) actions
      responses := ← orNone (readResponses document fuel) responses
      actionTexts := ← orNone (readTexts document) actionTexts }
  | _ => failure

/-- The sections of a file's text. A blank text has none. -/
def ofYaml? (text : String) : Option DomainFile :=
  if Text.isBlankText text then some {}
  else do
    match ← Yaml.read? text with
    | none => return {}
    | some root =>
      let document := Document.ofNode root
      document.run? (read document)

end DomainFile

namespace Domain

def ofYaml (text : String) : Except DomainError Domain :=
  match DomainFile.ofYaml? text with
  | some file => .ok file.domain
  | none => .error .unreadable

def load (tree : FileTree) (path : Path) : Except Error Domain :=
  match tree.read path with
  | .error failure => .error (.model (.io path failure))
  | .ok text => (ofYaml text).mapError .domain

end Domain

end Dialogue
