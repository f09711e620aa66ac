import Dialogue.Yaml.Lexer

/-!
The nodes of a document and how tokens form them. An anchor has a number, by which an alias refers
to its node.
-/
namespace Dialogue.Yaml

inductive Node where
  | scalar (anchor : Option Nat) (tag : Option Tag) (style : Style) (text : List Char)
  | sequence (anchor : Option Nat) (tag : Option Tag) (items : List Node)
  | mapping (anchor : Option Nat) (tag : Option Tag) (entries : List (Node × Node))
  | reference (anchor : Nat)
deriving Inhabited

structure Remaining where
  tokens : List Token
  handles : List (List Char × List UInt8)
  anchors : List (List Char × Nat) := []

namespace Remaining

def next (r : Remaining) : Remaining := { r with tokens := r.tokens.drop 1 }

/-- Gives an anchor the number of names before it. A name that is used again gets a new number, and
the next new name then shares it. -/
def addAnchor (r : Remaining) (name : List Char) : Nat × Remaining :=
  let number := r.anchors.length
  (number, { r with anchors := (name, number) :: r.anchors.filter (·.1 != name) })

def addOptional (r : Remaining) : Option (List Char) → Option Nat × Remaining
  | none => (none, r)
  | some name => (some (r.addAnchor name).1, (r.addAnchor name).2)

def tag? (r : Remaining) (tag : WrittenTag) : Option Tag :=
  if tag.handle.isEmpty then some (Tag.ofBytes tag.suffix)
  else (r.handles.lookup tag.handle).map fun start => Tag.ofBytes (start ++ tag.suffix)

end Remaining

structure Properties where
  anchor : Option (List Char) := none
  tag : Option WrittenTag := none

def readProperties (tokens : List Token) : Properties × List Token :=
  match tokens with
  | .anchor name :: .tag tag :: rest => (⟨some name, some tag⟩, rest)
  | .tag tag :: .anchor name :: rest => (⟨some name, some tag⟩, rest)
  | .anchor name :: rest => (⟨some name, none⟩, rest)
  | .tag tag :: rest => (⟨none, some tag⟩, rest)
  | rest => ({}, rest)

def Node.missing : Node := .scalar none none .plain []

def endsMappingNode : List Token → Bool
  | .key :: _ | .value :: _ | .blockEnd :: _ => true
  | _ => false

def endsEntry : List Token → Bool
  | .blockEntry :: _ | .blockEnd :: _ => true
  | _ => false

def endsFlowNode (close : Token) (tokens : List Token) : Bool :=
  match tokens with
  | .flowEntry :: _ => true
  | token :: _ => token == close
  | [] => false

mutual

/-- Reads a node. Block collections count only if `block` holds. If `compact` holds, a sequence may
stand without an indentation of its own. -/
def readNode? (fuel : Nat) (block compact : Bool) (r : Remaining) : Option (Node × Remaining) :=
  match fuel with
  | 0 => none
  | fuel + 1 =>
    match r.tokens with
    | .reference name :: _ => (r.anchors.lookup name).map fun number => (.reference number, r.next)
    | tokens => do
      let (properties, rest) := readProperties tokens
      let tag ← match properties.tag with
        | some tag => (r.tag? tag).map some
        | none => some none
      let (anchor, r) := { r with tokens := rest }.addOptional properties.anchor
      match rest with
      | .scalar text style :: _ =>
        return (.scalar anchor tag style text, r.next)
      | .flowSequence :: _ =>
        let (items, r) ← readFlowSequence? fuel true r.next
        return (.sequence anchor tag items, r)
      | .flowMapping :: _ =>
        let (entries, r) ← readFlowMapping? fuel true r.next
        return (.mapping anchor tag entries, r)
      | token :: _ =>
        if compact && token == .blockEntry then
          let (items, r) ← readCompactSequence? fuel r
          return (.sequence anchor tag items, r)
        else if block && token == .blockSequence then
          let (items, r) ← readBlockSequence? fuel r.next
          return (.sequence anchor tag items, r)
        else if block && token == .blockMapping then
          let (entries, r) ← readBlockMapping? fuel r.next
          return (.mapping anchor tag entries, r)
        else readMissing? properties anchor tag r
      | [] => readMissing? properties anchor tag r

def readMissing? (properties : Properties) (anchor : Option Nat) (tag : Option Tag)
    (r : Remaining) : Option (Node × Remaining) :=
  if properties.anchor.isSome || properties.tag.isSome then
    some (.scalar anchor tag .plain [], r)
  else none

def readBlockSequence? (fuel : Nat) (r : Remaining) : Option (List Node × Remaining) :=
  match fuel with
  | 0 => none
  | fuel + 1 =>
    match r.tokens with
    | .blockEnd :: _ => some ([], r.next)
    | .blockEntry :: rest => do
      let (item, r) ←
        if endsEntry rest then some (.missing, r.next) else readNode? fuel true false r.next
      let (items, r) ← readBlockSequence? fuel r
      return (item :: items, r)
    | _ => none

/-- The entries of a sequence that has the indentation of the mapping it stands in. -/
def readCompactSequence? (fuel : Nat) (r : Remaining) : Option (List Node × Remaining) :=
  match fuel with
  | 0 => none
  | fuel + 1 =>
    match r.tokens with
    | .blockEntry :: rest => do
      let (item, r) ←
        if endsEntry rest || endsMappingNode rest then some (.missing, r.next)
        else readNode? fuel true false r.next
      let (items, r) ← readCompactSequence? fuel r
      return (item :: items, r)
    | _ => some ([], r)

def readBlockMapping? (fuel : Nat) (r : Remaining) : Option (List (Node × Node) × Remaining) :=
  match fuel with
  | 0 => none
  | fuel + 1 =>
    match r.tokens with
    | .blockEnd :: _ => some ([], r.next)
    | .key :: rest => do
      let (key, r) ←
        if endsMappingNode rest then some (.missing, r.next) else readNode? fuel true true r.next
      let (value, r) ← readBlockValue? fuel r
      let (entries, r) ← readBlockMapping? fuel r
      return ((key, value) :: entries, r)
    | _ => none

def readBlockValue? (fuel : Nat) (r : Remaining) : Option (Node × Remaining) :=
  match fuel with
  | 0 => none
  | fuel + 1 =>
    match r.tokens with
    | .value :: rest =>
      if endsMappingNode rest then some (.missing, r.next) else readNode? fuel true true r.next
    | _ => some (.missing, r)

/-- The entries of a flow sequence up to its end. One that is a key alone makes a mapping of one
entry. -/
def readFlowSequence? (fuel : Nat) (first : Bool) (r : Remaining) :
    Option (List Node × Remaining) :=
  match fuel with
  | 0 => none
  | fuel + 1 =>
    match r.tokens with
    | .flowSequenceEnd :: _ => some ([], r.next)
    | tokens => do
      let r ← if first then some r else match tokens with
        | .flowEntry :: _ => some r.next
        | _ => none
      match r.tokens with
      | .flowSequenceEnd :: _ => return ([], r.next)
      | .key :: _ =>
        let (entry, r) ← readFlowPair? fuel r.next
        let (items, r) ← readFlowSequence? fuel false r
        return (.mapping none none [entry] :: items, r)
      | _ =>
        let (item, r) ← readNode? fuel false false r
        let (items, r) ← readFlowSequence? fuel false r
        return (item :: items, r)

/-- The key and the value of a mapping of one entry. Where the key is missing, the token in its
place is passed over. -/
def readFlowPair? (fuel : Nat) (r : Remaining) : Option ((Node × Node) × Remaining) :=
  match fuel with
  | 0 => none
  | fuel + 1 => do
    let (key, r) ← match r.tokens with
      | .value :: _ | .flowEntry :: _ | .flowSequenceEnd :: _ => some (.missing, r.next)
      | _ => readNode? fuel false false r
    let (value, r) ← readFlowValue? fuel .flowSequenceEnd r
    return ((key, value), r)

def readFlowValue? (fuel : Nat) (close : Token) (r : Remaining) : Option (Node × Remaining) :=
  match fuel with
  | 0 => none
  | fuel + 1 =>
    match r.tokens with
    | .value :: rest =>
      if endsFlowNode close rest then some (.missing, r.next)
      else readNode? fuel false false r.next
    | _ => some (.missing, r)

/-- The entries of a flow mapping up to its end. One without a mark of a key has no value. -/
def readFlowMapping? (fuel : Nat) (first : Bool) (r : Remaining) :
    Option (List (Node × Node) × Remaining) :=
  match fuel with
  | 0 => none
  | fuel + 1 =>
    match r.tokens with
    | .flowMappingEnd :: _ => some ([], r.next)
    | tokens => do
      let r ← if first then some r else match tokens with
        | .flowEntry :: _ => some r.next
        | _ => none
      match r.tokens with
      | .flowMappingEnd :: _ => return ([], r.next)
      | .key :: rest =>
        let (key, r) ← match rest with
          | .value :: _ | .flowEntry :: _ | .flowMappingEnd :: _ => some (.missing, r.next)
          | _ => readNode? fuel false false r.next
        let (value, r) ← readFlowValue? fuel .flowMappingEnd r
        let (entries, r) ← readFlowMapping? fuel false r
        return ((key, value) :: entries, r)
      | _ =>
        let (key, r) ← readNode? fuel false false r
        let (entries, r) ← readFlowMapping? fuel false r
        return ((key, .missing) :: entries, r)

end

/-! ### Documents -/

def defaultHandles : List (List Char × List UInt8) :=
  [(['!'], Tag.bytes "!"), (['!', '!'], Tag.standardStart)]

/-- Directives before a document: one version at most, which is 1.1 or 1.2, and one meaning a
handle. -/
def readDirectives? (version : Bool) (handles : List (List Char × List UInt8)) :
    List Token → Option (List (List Char × List UInt8) × List Token)
  | .versionDirective major minor :: rest =>
    if version || major != 1 || (minor != 1 && minor != 2) then none
    else readDirectives? true handles rest
  | .tagDirective handle start :: rest =>
    if (handles.lookup handle).isSome then none
    else readDirectives? version ((handle, start) :: handles) rest
  | rest => some (handles, rest)

def startsDirective : List Token → Bool
  | .versionDirective .. :: _ | .tagDirective .. :: _ => true
  | _ => false

/-- A document behind its mark may have no content. -/
def endsDocument : List Token → Bool
  | [] | .documentStart :: _ | .documentEnd :: _ => true
  | tokens => startsDirective tokens

def readStream? (tokens : List Token) : Option (Option Node) :=
  let fuel := 4 * tokens.length + 8
  let finish (node : Node) (r : Remaining) : Option (Option Node) :=
    if (r.tokens.dropWhile (· == .documentEnd)).isEmpty then some (some node) else none
  match tokens with
  | [] => some none
  | _ =>
    if startsDirective tokens || tokens.head? == some .documentStart then do
      let (handles, rest) ← readDirectives? false [] tokens
      match rest with
      | .documentStart :: rest =>
        let r : Remaining := { tokens := rest, handles := handles ++ defaultHandles }
        if endsDocument rest then finish .missing r
        else
          let (node, r) ← readNode? fuel true false r
          finish node r
      | _ => none
    else do
      let (node, r) ← readNode? fuel true false { tokens, handles := defaultHandles }
      finish node r

def read? (text : String) : Option (Option Node) :=
  (tokens? text).bind readStream?

end Dialogue.Yaml
