import Dialogue.Yaml.Tag

namespace Dialogue.Yaml

inductive Token where
  | versionDirective (major minor : Nat)
  | tagDirective (handle : List Char) (start : List UInt8)
  | documentStart
  | documentEnd
  | blockSequence
  | blockMapping
  | blockEnd
  | flowSequence
  | flowSequenceEnd
  | flowMapping
  | flowMappingEnd
  | blockEntry
  | flowEntry
  | key
  | value
  | reference (name : List Char)
  | anchor (name : List Char)
  | tag (tag : WrittenTag)
  | scalar (text : List Char) (style : Style)
deriving DecidableEq

/-! ### Names of anchors -/

def endsName : List Char → Bool
  | [] => true
  | c :: _ => isGap c || ['?', ':', ',', ']', '\x7d', '%', '@', '\x60'].contains c

def readName? (cursor : Cursor) : Option (List Char × Cursor) :=
  let name := cursor.next.rest.takeWhile isNameChar
  let after := cursor.next.advance name.length
  if name.isEmpty || !endsName after.rest then none else some (name, after)

/-! ### Directives -/

def isDigit (c : Char) : Bool := '0' ≤ c && c ≤ '9'

def readVersionNumber? (cursor : Cursor) : Option (Nat × Cursor) :=
  let digits := cursor.rest.takeWhile isDigit
  if digits.isEmpty || 9 < digits.length then none
  else
    some (digits.foldl (fun n c => 10 * n + (c.toNat - '0'.toNat)) 0, cursor.advance digits.length)

def readVersion? (cursor : Cursor) : Option (Token × Cursor) := do
  let (major, cursor) ← readVersionNumber? (cursor.skipWhile isSpacing)
  if !cursor.startsWith '.' then failure
  let (minor, cursor) ← readVersionNumber? cursor.next
  return (.versionDirective major minor, cursor)

/-- The handle of a directive is an exclamation mark or has one at both ends. -/
def readTagDirective? (cursor : Cursor) : Option (Token × Cursor) := do
  let (handle, cursor) ← readHandle? (cursor.skipWhile isSpacing)
  if handle != ['!'] && !isHandle handle then failure
  if !cursor.rest.head?.any isSpacing then failure
  let start ← readTagPart? true (cursor.skipWhile isSpacing)
  if start.written.isEmpty || !startsGap start.after.rest then failure
  return (.tagDirective handle start.bytes, start.after)

def readDirective? (cursor : Cursor) : Option (Token × Cursor) := do
  let name := cursor.next.rest.takeWhile isNameChar
  let after := cursor.next.advance name.length
  if name.isEmpty || !startsGap after.rest then failure
  let (token, after) ←
    if name == "YAML".toList then readVersion? after
    else if name == "TAG".toList then readTagDirective? after
    else none
  return (token, ← after.endLine?)

end Dialogue.Yaml
