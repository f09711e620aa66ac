import Dialogue.Json
import Dialogue.Yaml.Node
import Dialogue.Yaml.Schema

/-!
Reading values off a document. Aliases are followed, but only so many times; collections are read to
a depth of 128 only.
-/
namespace Dialogue.Yaml

/-- A document, and the nodes that have an anchor, the latest one first. -/
structure Document where
  root : Node
  anchored : List (Nat × Node)

namespace Node

def anchorEntry (node : Node) : Option Nat → List (Nat × Node)
  | some anchor => [(anchor, node)]
  | none => []

mutual

def anchored : Node → List (Nat × Node)
  | scalar anchor tag style text => anchorEntry (scalar anchor tag style text) anchor
  | sequence anchor tag items =>
    anchorEntry (sequence anchor tag items) anchor ++ anchoredItems items
  | mapping anchor tag entries =>
    anchorEntry (mapping anchor tag entries) anchor ++ anchoredEntries entries
  | reference _ => []

def anchoredItems : List Node → List (Nat × Node)
  | [] => []
  | item :: rest => anchored item ++ anchoredItems rest

def anchoredEntry : Node × Node → List (Nat × Node)
  | (key, value) => anchored key ++ anchored value

def anchoredEntries : List (Node × Node) → List (Nat × Node)
  | [] => []
  | entry :: rest => anchoredEntry entry ++ anchoredEntries rest

end

mutual

/-- How much a node counts for the number of aliases that may be followed: one for a scalar or an
alias, two more than its parts for a collection. -/
def weight : Node → Nat
  | scalar .. => 1
  | reference _ => 1
  | sequence _ _ items => 2 + itemsWeight items
  | mapping _ _ entries => 2 + entriesWeight entries

def itemsWeight : List Node → Nat
  | [] => 0
  | item :: rest => weight item + itemsWeight rest

def entryWeight : Node × Node → Nat
  | (key, value) => weight key + weight value

def entriesWeight : List (Node × Node) → Nat
  | [] => 0
  | entry :: rest => entryWeight entry + entriesWeight rest

end

end Node

def Document.ofNode (root : Node) : Document := ⟨root, root.anchored.reverse⟩

/-- Reading keeps the number of aliases that may still be followed. -/
abbrev Reading := StateT Nat Option

namespace Document

def fullDepth : Nat := 129

def run? (document : Document) (read : Nat → Node → Reading α) : Option α :=
  (read fullDepth document.root).run' (100 * document.root.weight)

def follow (document : Document) : Node → Reading Node
  | .reference anchor => do
    match ← get with
    | 0 => failure
    | left + 1 => set left
    match document.anchored.lookup anchor with
    | some node => return node
    | none => failure
  | node => return node

def descend : Nat → Reading Nat
  | fuel + 2 => return fuel + 1
  | _ => failure

def isEmptyScalar (style : Style) (text : List Char) : Bool := style == .plain && text.isEmpty

def items (document : Document) (node : Node) : Reading (List Node) := do
  match ← document.follow node with
  | .sequence _ _ items => return items
  | .scalar _ _ style text => if isEmptyScalar style text then return [] else failure
  | _ => failure

def entries (document : Document) (node : Node) : Reading (List (Node × Node)) := do
  match ← document.follow node with
  | .mapping _ _ entries => return entries
  | .scalar _ _ style text => if isEmptyScalar style text then return [] else failure
  | _ => failure

def text (document : Document) (node : Node) : Reading String := do
  match ← document.follow node with
  | .scalar _ _ _ text => return String.ofList text
  | _ => failure

def bool (document : Document) (node : Node) : Reading Bool := do
  match ← document.follow node with
  | .scalar _ tag style text =>
    if style == .plain || (style == .literal && tag == some .bool) then
      match readBool? text with
      | some b => return b
      | none => failure
    else failure
  | _ => failure

/-- The name of a scalar that is one of several names: its text, or else its own tag on nothing. -/
def name (document : Document) (node : Node) : Reading String := do
  match ← document.follow node with
  | .scalar _ tag style text =>
    match Tag.ownName? tag with
    | some name =>
      if style == .plain && (text.isEmpty || isNull text) then return name else failure
    | none => return String.ofList text
  | _ => failure

def record (document : Document) (names : List String) (node : Node) :
    Reading (List (Option Node)) := do
  let members ← (← document.entries node).mapM fun (key, value) => do
    return (← document.text key, value)
  names.mapM fun name =>
    match members.filter (·.1 == name) with
    | [] => return none
    | [(_, value)] => return some value
    | _ => failure

/-! ### JSON -/

def scalarJson? (tag : Option Tag) (style : Style) (text : List Char) : Option Json := do
  match ← meaning? tag style text with
  | .null => return .null
  | .bool b => return .bool b
  | .int n => return .int n
  | .wide => failure
  | .float x => return if x.isFinite then .float x else .null
  | .text => return .str (String.ofList text)

/-- The JSON value of a node. Keys are texts, and of entries with one key the last counts. Tags of
the document's own have no JSON form, nor do integers of more than 64 bits. -/
def json (document : Document) : Nat → Node → Reading Json
  | 0, _ => failure
  | fuel + 1, node => do
    match ← document.follow node with
    | .scalar _ tag style text =>
      if (Tag.ownName? tag).isSome then failure
      match scalarJson? tag style text with
      | some value => return value
      | none => failure
    | .sequence _ tag items =>
      if (Tag.ownName? tag).isSome || fuel = 0 then failure
      return .arr (← items.mapM (document.json fuel))
    | .mapping _ tag entries =>
      if (Tag.ownName? tag).isSome || fuel = 0 then failure
      let members ← entries.mapM fun (key, value) => do
        return (← document.text key, ← document.json fuel value)
      return Json.ofMembers members
    | .reference _ => failure

/-! ### Values of any kind -/

def meaningIdentity? (text : List Char) : Meaning → Option (List Char)
  | .null => some ['n']
  | .bool b => some ('b' :: (toString b).toList)
  | .int n => some ('i' :: (toString n).toList)
  | .wide => none
  | .float x => some ('f' :: (toString (if x == 0.0 then 0.0 else x).toBits).toList)
  | .text => some ('s' :: Json.renderString (String.ofList text))

def joinIdentities (parts : List (List Char)) : List Char :=
  '[' :: (parts.flatMap (· ++ [','])) ++ [']']

/-- A text that tells values of any kind apart. Entries of a mapping have no order, and no two of
them may have the same key. Tags of the document's own are refused where `ownTags` does not
hold. -/
def identity (document : Document) (ownTags : Bool) : Nat → Node → Reading (List Char)
  | 0, _ => failure
  | fuel + 1, node => do
    let node ← document.follow node
    let tag := match node with
      | .scalar _ tag _ _ | .sequence _ tag _ | .mapping _ tag _ => tag
      | .reference _ => none
    let own := Tag.ownName? tag
    if own.isSome && !ownTags then failure
    let mark := match own with
      | some name => '!' :: Json.renderString (Tag.nameKey name)
      | none => []
    match node with
    | .scalar _ tag style text =>
      match (meaning? tag style text).bind (meaningIdentity? text) with
      | some identity => return mark ++ identity
      | none => failure
    | .sequence _ _ items =>
      if fuel = 0 then failure
      return mark ++ 'l' :: joinIdentities (← items.mapM (document.identity ownTags fuel))
    | .mapping _ _ entries =>
      if fuel = 0 then failure
      let members ← entries.mapM fun (key, value) => do
        return (String.ofList (← document.identity ownTags fuel key),
          ← document.identity ownTags fuel value)
      if decide (members.map Prod.fst).Nodup then
        return mark ++ 'm' :: joinIdentities
          ((SortedMap.ofList members).entries.map fun (key, value) => key.toList ++ ':' :: value)
      else failure
    | .reference _ => failure

end Document

def json? (text : String) : Option Json := do
  match ← read? text with
  | none => return .null
  | some root =>
    let document := Document.ofNode root
    document.run? document.json

end Dialogue.Yaml
