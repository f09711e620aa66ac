/-!
The text of a YAML document and a place in it. Carriage returns and the next-line character count as
line feeds, so a line ends with a line feed, a line separator or a paragraph separator.
-/
namespace Dialogue.Yaml

def lineSeparator : Char := '\u2028'

def paragraphSeparator : Char := '\u2029'

def byteOrderMark : Char := '\uFEFF'

def isBreak (c : Char) : Bool := c == '\n' || c == lineSeparator || c == paragraphSeparator

def isSpacing (c : Char) : Bool := c == ' ' || c == '\t'

def isGap (c : Char) : Bool := isSpacing c || isBreak c

def isNameChar (c : Char) : Bool := c.isAlphanum || c == '_' || c == '-'

def startsGap : List Char → Bool
  | [] => true
  | c :: _ => isGap c

def isAllowed (c : Char) : Bool :=
  let n := c.toNat
  n == 0x9 || n == 0xA || n == 0xD || (0x20 ≤ n && n ≤ 0x7E) || n == 0x85 ||
    (0xA0 ≤ n && n ≤ 0xFFFD) || 0x10000 ≤ n

def unifyBreaks : List Char → List Char
  | '\r' :: '\n' :: rest => '\n' :: unifyBreaks rest
  | '\r' :: rest => '\n' :: unifyBreaks rest
  | '\u0085' :: rest => '\n' :: unifyBreaks rest
  | c :: rest => c :: unifyBreaks rest
  | [] => []

/-- A place in a text. Lines and columns count characters, the index counts bytes. -/
structure Cursor where
  rest : List Char
  line : Nat := 0
  column : Nat := 0
  index : Nat := 0

namespace Cursor

def next (cursor : Cursor) : Cursor :=
  match cursor.rest with
  | [] => cursor
  | c :: rest =>
    if isBreak c then ⟨rest, cursor.line + 1, 0, cursor.index + c.utf8Size⟩
    else ⟨rest, cursor.line, cursor.column + 1, cursor.index + c.utf8Size⟩

def advance (cursor : Cursor) : Nat → Cursor
  | 0 => cursor
  | n + 1 => cursor.next.advance n

def skipWhile (cursor : Cursor) (p : Char → Bool) : Cursor :=
  cursor.advance (cursor.rest.takeWhile p).length

def startsWith (cursor : Cursor) (c : Char) : Bool := cursor.rest.head? == some c

/-- Past a byte order mark at the start of a line. It takes up a column. -/
def skipMark (cursor : Cursor) : Cursor :=
  if cursor.column == 0 && cursor.startsWith byteOrderMark then cursor.next else cursor

def skipLine (cursor : Cursor) : Cursor := cursor.skipWhile (!isBreak ·)

def skipComment (cursor : Cursor) : Cursor :=
  if cursor.startsWith '#' then cursor.skipLine else cursor

def atMark (cursor : Cursor) (c : Char) : Bool :=
  cursor.column == 0 && cursor.rest.take 3 == [c, c, c] && startsGap (cursor.rest.drop 3)

def atDocumentMark (cursor : Cursor) : Bool := cursor.atMark '-' || cursor.atMark '.'

def endLine? (cursor : Cursor) : Option Cursor :=
  let cursor := (cursor.skipWhile isSpacing).skipComment
  match cursor.rest with
  | [] => some cursor
  | c :: _ => if isBreak c then some cursor.next else none

end Cursor

def open? (text : String) : Option Cursor :=
  let cs := text.toList
  if cs.all isAllowed then some { rest := unifyBreaks cs } else none

end Dialogue.Yaml
