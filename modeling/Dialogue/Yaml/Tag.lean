import Dialogue.Yaml.Scalar

/-!
The tags of YAML nodes. A tag is a handle and a suffix, and what the handle stands for comes from
directives; together they are bytes that name a meaning of the node.
-/
namespace Dialogue.Yaml

/-- A tag as it is written. One in angle brackets has no handle, nor has an exclamation mark that
stands alone. -/
structure WrittenTag where
  handle : List Char
  suffix : List UInt8
deriving DecidableEq

inductive Tag where
  | null
  | bool
  | int
  | float
  /-- A tag of the document's own. -/
  | own (name : String)
  /-- A tag of the document's own whose name is no text. It says nothing. -/
  | nameless
  | other
deriving DecidableEq

namespace Tag

def bytes (text : String) : List UInt8 := text.toUTF8.data.toList

def standardStart : List UInt8 := bytes "tag:yaml.org,2002:"

/-- A document's own tag is an exclamation mark and a name. Without a name the mark is the name. -/
def ofBytes (tag : List UInt8) : Tag :=
  if tag = standardStart ++ bytes "null" then .null
  else if tag = standardStart ++ bytes "bool" then .bool
  else if tag = standardStart ++ bytes "int" then .int
  else if tag = standardStart ++ bytes "float" then .float
  else match tag with
    | mark :: name =>
      if [mark] = bytes "!" then
        match String.fromUTF8? (if name.isEmpty then tag else name).toByteArray with
        | some name => .own name
        | none => .nameless
      else .other
    | [] => .other

def ownName? : Option Tag → Option String
  | some (own name) => some name
  | _ => none

/-- What tells names apart: an exclamation mark in front of a name does not count. -/
def nameKey (name : String) : String :=
  match name.toList with
  | '!' :: c :: rest => String.ofList (c :: rest)
  | _ => name

end Tag

/-! ### Reading -/

/-- The characters of a tag. Some of them count only between angle brackets. -/
def isTagChar (verbatim : Bool) (c : Char) : Bool :=
  isNameChar c ||
    [';', '/', '?', ':', '@', '&', '=', '+', '$', '.', '!', '~', '*', '\'', '(', ')'].contains c ||
    (verbatim && [',', '[', ']'].contains c)

def byteCount (byte : Nat) : Nat :=
  if byte < 0x80 then 1
  else if byte / 32 = 6 then 2
  else if byte / 16 = 14 then 3
  else if byte / 8 = 30 then 4
  else 0

def readByte? : List Char → Option (Nat × List Char)
  | '%' :: a :: b :: rest => (readHex? [a, b]).map (·, rest)
  | _ => none

def readContinuation? : Nat → List Char → Option (List UInt8 × List Char)
  | 0, cs => some ([], cs)
  | n + 1, cs => do
    let (byte, cs) ← readByte? cs
    if byte / 64 != 2 then failure
    let (bytes, cs) ← readContinuation? n cs
    return (.ofNat byte :: bytes, cs)

def readEscaped? (cs : List Char) : Option (List UInt8 × List Char) := do
  let (byte, cs) ← readByte? cs
  if byteCount byte = 0 then failure
  let (bytes, cs) ← readContinuation? (byteCount byte - 1) cs
  return (.ofNat byte :: bytes, cs)

def readTagBytes? (verbatim : Bool) : Nat → List Char → Option (List UInt8 × List Char)
  | 0, cs => some ([], cs)
  | fuel + 1, cs =>
    match cs with
    | [] => some ([], [])
    | c :: rest =>
      if c == '%' then do
        let (escaped, rest) ← readEscaped? cs
        let (more, rest) ← readTagBytes? verbatim fuel rest
        return (escaped ++ more, rest)
      else if isTagChar verbatim c then
        (readTagBytes? verbatim fuel rest).map fun (more, rest) => (.ofNat c.toNat :: more, rest)
      else some ([], cs)

/-- A tag or a part of one. A byte that is zero ends it, though more may be written. -/
structure TagPart where
  written : List UInt8
  after : Cursor

def TagPart.bytes (part : TagPart) : List UInt8 := part.written.takeWhile (· != 0)

def readTagPart? (verbatim : Bool) (cursor : Cursor) : Option TagPart := do
  let (written, rest) ← readTagBytes? verbatim cursor.rest.length cursor.rest
  return ⟨written, cursor.advance (cursor.rest.length - rest.length)⟩

def readHandle? (cursor : Cursor) : Option (List Char × Cursor) :=
  if cursor.startsWith '!' then
    let name := cursor.next.rest.takeWhile isNameChar
    let after := cursor.next.advance name.length
    if after.startsWith '!' then some ('!' :: (name ++ ['!']), after.next)
    else some ('!' :: name, after)
  else none

def isHandle (handle : List Char) : Bool :=
  2 ≤ handle.length && handle.getLast? == some '!'

/-- A tag without angle brackets. What starts like a handle may be the start of the suffix. -/
def readShortTag? (cursor : Cursor) : Option (WrittenTag × Cursor) := do
  let (handle, after) ← readHandle? cursor
  let part ← readTagPart? false after
  if isHandle handle then
    if part.written.isEmpty then failure
    return (⟨handle, part.bytes⟩, part.after)
  let suffix := Tag.bytes (String.ofList (handle.drop 1)) ++ part.bytes
  return (if suffix.isEmpty then ⟨[], Tag.bytes "!"⟩ else ⟨['!'], suffix⟩, part.after)

def readVerbatimTag? (cursor : Cursor) : Option (WrittenTag × Cursor) := do
  let part ← readTagPart? true (cursor.advance 2)
  if part.written.isEmpty || !part.after.startsWith '>' then failure
  return (⟨[], part.bytes⟩, part.after.next)

def readTag? (flow : Bool) (cursor : Cursor) : Option (WrittenTag × Cursor) := do
  let (tag, after) ←
    if cursor.rest.take 2 == ['!', '<'] then readVerbatimTag? cursor else readShortTag? cursor
  if startsGap after.rest || (flow && after.startsWith ',') then return (tag, after)
  failure

end Dialogue.Yaml
