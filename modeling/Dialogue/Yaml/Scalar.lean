import Dialogue.Yaml.Cursor

/-!
The scalars of YAML: plain ones, those in quotes, and blocks of lines. Lines of one scalar are
folded: a single line break becomes a blank, and of several the first is left out.
-/
namespace Dialogue.Yaml

inductive Style where
  | plain
  | quoted
  | literal
  | folded
deriving DecidableEq

/-! ### Gaps between words -/

/-- Blanks and line breaks between two words. Blanks count only if no line break follows. -/
structure Gap where
  blanks : List Char := []
  breaks : List Char := []
  after : Cursor

/-- Reads a gap. Behind a line break no tab may stand before the given column. -/
def readGap? (column : Nat) : Nat → Gap → Option Gap
  | 0, gap => some gap
  | fuel + 1, gap =>
    match gap.after.rest with
    | [] => some gap
    | c :: _ =>
      if isBreak c then
        readGap? column fuel { blanks := [], breaks := gap.breaks ++ [c], after := gap.after.next }
      else if isSpacing c then
        if gap.breaks.isEmpty then
          readGap? column fuel { gap with blanks := gap.blanks ++ [c], after := gap.after.next }
        else if c == '\t' && gap.after.column < column then none
        else readGap? column fuel { gap with after := gap.after.next }
      else some gap

def gapAt? (column : Nat) (cursor : Cursor) : Option Gap :=
  readGap? column cursor.rest.length { after := cursor }

def fold : List Char → List Char
  | ['\n'] => [' ']
  | '\n' :: rest => rest
  | breaks => breaks

def Gap.text (gap : Gap) : List Char :=
  if gap.breaks.isEmpty then gap.blanks else fold gap.breaks

/-! ### Plain scalars -/

def isFlowMark (c : Char) : Bool := [',', '[', ']', '\x7b', '\x7d'].contains c

/-- The characters of a word. A colon ends it before a gap, and in a flow collection its marks do;
there a colon right before a mark is refused. -/
def plainWord? (flow : Bool) : List Char → Option (List Char)
  | [] => some []
  | c :: rest =>
    if isGap c then some []
    else if flow && c == ':' && rest.head?.any (fun d => d == '?' || isFlowMark d) then none
    else if (c == ':' && startsGap rest) || (flow && isFlowMark c) then some []
    else (plainWord? flow rest).map (c :: ·)

/-- A scalar that was read. A plain one `endsLine` if it was read past the end of its last line. -/
structure Scanned where
  text : List Char
  endsLine : Bool := false
  after : Cursor

def plainFrom? (flow : Bool) (column : Nat) : Nat → List Char → Gap → Option Scanned
  | 0, _, _ => none
  | fuel + 1, text, gap =>
    let cursor := gap.after
    if cursor.atDocumentMark || cursor.startsWith '#' then
      some ⟨text, !gap.breaks.isEmpty, cursor⟩
    else do
      let word ← plainWord? flow cursor.rest
      if word.isEmpty then return ⟨text, !gap.breaks.isEmpty, cursor⟩
      let text := text ++ gap.text ++ word
      let next ← gapAt? column (cursor.advance word.length)
      if next.blanks.isEmpty && next.breaks.isEmpty then return ⟨text, false, next.after⟩
      if !flow && next.after.column < column then
        return ⟨text, !next.breaks.isEmpty, next.after⟩
      plainFrom? flow column fuel text next

def readPlain? (flow : Bool) (column : Nat) (cursor : Cursor) : Option Scanned :=
  plainFrom? flow column (cursor.rest.length + 1) [] { after := cursor }

/-! ### Quoted scalars -/

/-- A part of a quoted scalar without gaps. It may end with an escaped line break. -/
structure Piece where
  text : List Char
  size : Nat
  breaks : Bool := false

def Piece.cons (c : Char) (size : Nat) (piece : Piece) : Piece :=
  { piece with text := c :: piece.text, size := size + piece.size }

def singlePiece : List Char → Piece
  | '\'' :: '\'' :: rest => (singlePiece rest).cons '\'' 2
  | [] => ⟨[], 0, false⟩
  | c :: rest => if c == '\'' || isGap c then ⟨[], 0, false⟩ else (singlePiece rest).cons c 1

def escapes : List (Char × Char) := [
  ('0', '\x00'), ('a', '\x07'), ('b', '\x08'), ('t', '\t'), ('\t', '\t'), ('n', '\n'),
  ('v', '\x0b'), ('f', '\x0c'), ('r', '\r'), ('e', '\x1b'), (' ', ' '), ('"', '"'), ('/', '/'),
  ('\\', '\\'), ('N', '\u0085'), ('_', '\u00A0'), ('L', '\u2028'), ('P', '\u2029')]

def codeLength : Char → Nat
  | 'x' => 2
  | 'u' => 4
  | 'U' => 8
  | _ => 0

def hexValue? (c : Char) : Option Nat :=
  if '0' ≤ c && c ≤ '9' then some (c.toNat - '0'.toNat)
  else if 'a' ≤ c && c ≤ 'f' then some (c.toNat - 'a'.toNat + 10)
  else if 'A' ≤ c && c ≤ 'F' then some (c.toNat - 'A'.toNat + 10)
  else none

def readHex? (digits : List Char) : Option Nat :=
  digits.foldlM (fun n c => (hexValue? c).map (16 * n + ·)) 0

def codeChar? (n : Nat) : Option Char :=
  if n < 0xD800 || (0xDFFF < n && n ≤ 0x10FFFF) then some (Char.ofNat n) else none

def doublePiece? (cs : List Char) : Option Piece :=
  match cs with
  | [] => some ⟨[], 0, false⟩
  | ['\\'] => none
  | '\\' :: e :: rest =>
    if isBreak e then some ⟨[], 2, true⟩
    else match escapes.lookup e with
      | some c => (doublePiece? rest).map (·.cons c 2)
      | none =>
        let length := codeLength e
        if length = 0 || rest.length < length then none
        else
          match (readHex? (rest.take length)).bind codeChar? with
          | some c => (doublePiece? (rest.drop length)).map (·.cons c (2 + length))
          | none => none
  | c :: rest =>
    if c == '"' || isGap c then some ⟨[], 0, false⟩ else (doublePiece? rest).map (·.cons c 1)
termination_by cs.length
decreasing_by all_goals simp [List.length_drop]; try omega

def piece? (quote : Char) (cs : List Char) : Option Piece :=
  if quote == '"' then doublePiece? cs else some (singlePiece cs)

def quotedFrom? (quote : Char) : Nat → List Char → Cursor → Option Scanned
  | 0, _, _ => none
  | fuel + 1, text, cursor =>
    if cursor.atDocumentMark || cursor.rest.isEmpty then none
    else do
      let piece ← piece? quote cursor.rest
      let text := text ++ piece.text
      let cursor := cursor.advance piece.size
      if cursor.startsWith quote then return ⟨text, false, cursor.next⟩
      let gap ← gapAt? 0 cursor
      quotedFrom? quote fuel (text ++ if piece.breaks then gap.breaks else gap.text) gap.after

def readQuoted? (quote : Char) (cursor : Cursor) : Option Scanned :=
  quotedFrom? quote (cursor.rest.length + 1) [] cursor.next

/-! ### Blocks of lines -/

inductive Chomping where
  | strip
  | clip
  | keep
deriving DecidableEq

structure BlockHeader where
  chomping : Chomping := .clip
  /-- How much further the lines are indented, where that is given. -/
  indent : Option Nat := none
  after : Cursor

def chomping? : Char → Option Chomping
  | '+' => some .keep
  | '-' => some .strip
  | _ => none

def readChomping (header : BlockHeader) : BlockHeader :=
  match header.after.rest.head?.bind chomping? with
  | some chomping => { header with chomping, after := header.after.next }
  | none => header

def readIndent? (header : BlockHeader) : Option BlockHeader :=
  match header.after.rest with
  | c :: _ =>
    if '1' ≤ c && c ≤ '9' then
      some { header with indent := some (c.toNat - '0'.toNat), after := header.after.next }
    else if c == '0' then none
    else some header
  | [] => some header

def readHeader? (cursor : Cursor) : Option BlockHeader := do
  let first := readChomping { after := cursor }
  let header ← readIndent? first
  let header := if first.after.index == cursor.index then readChomping header else header
  return { header with after := ← header.after.endLine? }

/-- Empty lines of a block. `widest` is the widest indentation among them. -/
structure EmptyLines where
  breaks : List Char := []
  widest : Nat := 0
  after : Cursor

/-- Reads empty lines, each indented to a column at most, to any column if none is given. No tab may
stand in the indentation. -/
def readEmptyLines? (column : Option Nat) : Nat → EmptyLines → Option EmptyLines
  | 0, _ => none
  | fuel + 1, lines =>
    let blanks := (lines.after.rest.takeWhile (· == ' ')).length
    let cursor := lines.after.advance (match column with
      | some column => min blanks (column - lines.after.column)
      | none => blanks)
    let lines := { lines with widest := max lines.widest cursor.column, after := cursor }
    match cursor.rest with
    | [] => some lines
    | c :: _ =>
      if c == '\t' && column.all (cursor.column < ·) then none
      else if isBreak c then
        readEmptyLines? column fuel
          { lines with breaks := lines.breaks ++ [c], after := cursor.next }
      else some lines

def emptyLinesAt? (column : Option Nat) (cursor : Cursor) : Option EmptyLines :=
  readEmptyLines? column (cursor.rest.length + 1) { after := cursor }

/-- What a block has read so far: its text, the break after its last line, whether that line started
with a blank, and the empty lines since. -/
structure Block where
  text : List Char := []
  lineBreak : List Char := []
  startsBlank : Bool := false
  empty : List Char

/-- The text up to a line that starts with a blank or does not. Between two lines that do not, a
folded block has a blank for a single line break. -/
def Block.join (block : Block) (style : Style) (blank : Bool) : List Char :=
  let joined :=
    if style == .folded && block.lineBreak == ['\n'] && !block.startsBlank && !blank then
      if block.empty.isEmpty then [' '] else []
    else block.lineBreak
  block.text ++ joined ++ block.empty

def blockFrom? (style : Style) (column : Nat) : Nat → Block → Cursor → Option (Block × Cursor)
  | 0, _, _ => none
  | fuel + 1, block, cursor =>
    if cursor.column != column || cursor.rest.isEmpty then some (block, cursor)
    else do
      let blank := cursor.rest.head?.any isSpacing
      let line := cursor.rest.takeWhile (!isBreak ·)
      let cursor := cursor.advance line.length
      let lineBreak := cursor.rest.take 1
      let lines ← emptyLinesAt? (some column) cursor.next
      blockFrom? style column fuel
        ⟨block.join style blank ++ line, lineBreak, blank, lines.breaks⟩ lines.after

/-- Reads a block below a collection that is indented to `parent`, `-1` if there is none. -/
def readBlock? (style : Style) (parent : Int) (cursor : Cursor) : Option Scanned := do
  let header ← readHeader? cursor.next
  let given := header.indent.map fun n => (max parent 0).toNat + n
  let lines ← emptyLinesAt? given header.after
  let column := given.getD (max (max lines.widest (parent + 1).toNat) 1)
  let (block, after) ←
    blockFrom? style column (cursor.rest.length + 1) { empty := lines.breaks } lines.after
  let ending := match header.chomping with
    | .strip => []
    | .clip => block.lineBreak
    | .keep => block.lineBreak ++ block.empty
  return ⟨block.text ++ ending, false, after⟩

end Dialogue.Yaml
