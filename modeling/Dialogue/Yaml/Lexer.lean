import Dialogue.Yaml.Token

/-!
The tokens of a text. Indentation opens and closes block collections, and a colon makes a key of the
node that stands before it in its line: only then it is known that the node was one.
-/
namespace Dialogue.Yaml

/-- A node that may turn out to be a key. -/
structure KeyPlace where
  /-- The number of tokens before it. -/
  number : Nat
  /-- It stands where nothing but a key may stand. -/
  required : Bool
  cursor : Cursor

structure Lexer where
  cursor : Cursor
  /-- The tokens so far, the latest one first. -/
  tokens : List Token := []
  /-- The column of the innermost block collection, `-1` outside of all of them. -/
  indent : Int := -1
  /-- The columns of the block collections around it. -/
  outer : List Int := []
  /-- Whether a key may start here. -/
  keyAllowed : Bool := true
  /-- The latest node that may be a key, outside of all flow collections. -/
  place : Option KeyPlace := none
  /-- The same for each open flow collection, the innermost one first. -/
  flowPlaces : List (Option KeyPlace) := []

namespace Lexer

def inFlow (lexer : Lexer) : Bool := !lexer.flowPlaces.isEmpty

def emit (lexer : Lexer) (token : Token) : Lexer := { lexer with tokens := token :: lexer.tokens }

def insert (lexer : Lexer) (number : Nat) (token : Token) : Lexer :=
  let later := lexer.tokens.length - number
  { lexer with tokens := lexer.tokens.take later ++ token :: lexer.tokens.drop later }

/-! ### Gaps -/

/-- To the next token. Tabs count as blanks where no key may start. A line break lets a key
start. -/
def skipGap : Nat → Lexer → Lexer
  | 0, lexer => lexer
  | fuel + 1, lexer =>
    let tabs := lexer.inFlow || !lexer.keyAllowed
    let cursor := lexer.cursor.skipMark.skipWhile fun c => c == ' ' || (tabs && c == '\t')
    let cursor := cursor.skipComment
    if cursor.rest.head?.any isBreak then
      skipGap fuel { lexer with
        cursor := cursor.next, keyAllowed := lexer.keyAllowed || !lexer.inFlow }
    else { lexer with cursor }

/-! ### Keys -/

/-- A key stands in one line and has at most 1024 bytes. -/
def isStale (cursor : Cursor) (place : KeyPlace) : Bool :=
  place.cursor.line < cursor.line || place.cursor.index + 1024 < cursor.index

/-- A place that is no key any more is given up, unless a key is required there. -/
def refresh? (cursor : Cursor) : Option KeyPlace → Option (Option KeyPlace)
  | none => some none
  | some place =>
    if isStale cursor place then if place.required then none else some none
    else some (some place)

def dropStale? (lexer : Lexer) : Option Lexer := do
  let place ← refresh? lexer.cursor lexer.place
  let flowPlaces ← lexer.flowPlaces.mapM (refresh? lexer.cursor)
  return { lexer with place, flowPlaces }

def innermost (lexer : Lexer) : Option KeyPlace :=
  match lexer.flowPlaces with
  | [] => lexer.place
  | place :: _ => place

def setInnermost (lexer : Lexer) (place : Option KeyPlace) : Lexer :=
  match lexer.flowPlaces with
  | [] => { lexer with place }
  | _ :: rest => { lexer with flowPlaces := place :: rest }

def dropPlace? (lexer : Lexer) : Option Lexer :=
  if lexer.innermost.any (·.required) then none else some (lexer.setInnermost none)

def savePlace? (lexer : Lexer) : Option Lexer :=
  if lexer.keyAllowed then do
    let required := !lexer.inFlow && lexer.indent == lexer.cursor.column
    let lexer ← lexer.dropPlace?
    return lexer.setInnermost (some ⟨lexer.tokens.length, required, lexer.cursor⟩)
  else some lexer

/-! ### Indentation -/

def openBlock (lexer : Lexer) (column number : Nat) (token : Token) : Lexer :=
  if !lexer.inFlow && lexer.indent < column then
    { lexer with indent := column, outer := lexer.indent :: lexer.outer }.insert number token
  else lexer

def closeBlocks (column : Int) (lexer : Lexer) : List Int → Lexer
  | [] => lexer
  | indent :: outer =>
    if column < lexer.indent then
      closeBlocks column ({ lexer with indent, outer }.emit .blockEnd) outer
    else lexer

def closeTo (lexer : Lexer) (column : Int) : Lexer :=
  if lexer.inFlow then lexer else closeBlocks column lexer lexer.outer

/-! ### Tokens -/

def leaveDocument? (lexer : Lexer) : Option Lexer := do
  let lexer ← (lexer.closeTo (-1)).dropPlace?
  return { lexer with keyAllowed := false }

def lexMark? (lexer : Lexer) (token : Token) : Option Lexer := do
  let lexer ← lexer.leaveDocument?
  return { lexer with cursor := lexer.cursor.advance 3 }.emit token

def lexDirective? (lexer : Lexer) : Option Lexer := do
  let lexer ← lexer.leaveDocument?
  let (token, cursor) ← readDirective? lexer.cursor
  return { lexer with cursor }.emit token

def lexFlowStart? (lexer : Lexer) (token : Token) : Option Lexer := do
  let lexer ← lexer.savePlace?
  return { lexer with
    cursor := lexer.cursor.next
    keyAllowed := true
    flowPlaces := none :: lexer.flowPlaces }.emit token

def lexFlowEnd? (lexer : Lexer) (token : Token) : Option Lexer := do
  let lexer ← lexer.dropPlace?
  return { lexer with
    cursor := lexer.cursor.next
    keyAllowed := false
    flowPlaces := lexer.flowPlaces.drop 1 }.emit token

def lexFlowEntry? (lexer : Lexer) : Option Lexer := do
  let lexer ← lexer.dropPlace?
  return { lexer with cursor := lexer.cursor.next, keyAllowed := true }.emit .flowEntry

def openHere? (lexer : Lexer) (token : Token) : Option Lexer :=
  if lexer.inFlow then some lexer
  else if lexer.keyAllowed then
    some (lexer.openBlock lexer.cursor.column lexer.tokens.length token)
  else none

def lexBlockEntry? (lexer : Lexer) : Option Lexer := do
  let lexer ← (← lexer.openHere? .blockSequence).dropPlace?
  return { lexer with cursor := lexer.cursor.next, keyAllowed := true }.emit .blockEntry

def lexKey? (lexer : Lexer) : Option Lexer := do
  let lexer ← (← lexer.openHere? .blockMapping).dropPlace?
  return { lexer with cursor := lexer.cursor.next, keyAllowed := !lexer.inFlow }.emit .key

def lexValue? (lexer : Lexer) : Option Lexer :=
  match lexer.innermost with
  | some place =>
    let keyed := (lexer.insert place.number .key).openBlock place.cursor.column place.number
      .blockMapping
    some ({ keyed.setInnermost none with
      cursor := lexer.cursor.next, keyAllowed := false }.emit .value)
  | none => do
    let lexer ← lexer.openHere? .blockMapping
    return { lexer with cursor := lexer.cursor.next, keyAllowed := !lexer.inFlow }.emit .value

/-- A token that may start a key, and behind which none may start. -/
def lexNode? (lexer : Lexer) (read : Cursor → Option (Token × Cursor)) : Option Lexer := do
  let lexer ← lexer.savePlace?
  let (token, cursor) ← read lexer.cursor
  return { lexer with cursor, keyAllowed := false }.emit token

def lexBlock? (lexer : Lexer) (style : Style) : Option Lexer := do
  let lexer ← lexer.dropPlace?
  let scanned ← readBlock? style lexer.indent lexer.cursor
  return { lexer with cursor := scanned.after, keyAllowed := true }.emit
    (.scalar scanned.text style)

def lexQuoted? (lexer : Lexer) (quote : Char) : Option Lexer :=
  lexer.lexNode? fun cursor =>
    (readQuoted? quote cursor).map fun scanned => (.scalar scanned.text .quoted, scanned.after)

/-- A plain scalar may be read to the start of a line, where a key may start. -/
def lexPlain? (lexer : Lexer) : Option Lexer := do
  let lexer ← lexer.savePlace?
  let scanned ← readPlain? lexer.inFlow (lexer.indent + 1).toNat lexer.cursor
  return { lexer with cursor := scanned.after, keyAllowed := scanned.endsLine }.emit
    (.scalar scanned.text .plain)

def isIndicator (c : Char) : Bool :=
  ['-', '?', ':', ',', '[', ']', '\x7b', '\x7d', '#', '&', '*', '!', '|', '>', '\'', '"', '%', '@',
    '\x60'].contains c

def startsPlain (flow : Bool) (c : Char) (rest : List Char) : Bool :=
  !(isGap c || isIndicator c) || (c == '-' && !rest.head?.any isSpacing) ||
    (!flow && (c == '?' || c == ':') && !startsGap rest)

def lexToken? (lexer : Lexer) (c : Char) (rest : List Char) : Option Lexer :=
  let cursor := lexer.cursor
  let alone := startsGap rest
  if cursor.column == 0 && c == '%' then lexer.lexDirective?
  else if cursor.atMark '-' then lexer.lexMark? .documentStart
  else if cursor.atMark '.' then lexer.lexMark? .documentEnd
  else if c == '[' then lexer.lexFlowStart? .flowSequence
  else if c == '\x7b' then lexer.lexFlowStart? .flowMapping
  else if c == ']' then lexer.lexFlowEnd? .flowSequenceEnd
  else if c == '\x7d' then lexer.lexFlowEnd? .flowMappingEnd
  else if c == ',' then lexer.lexFlowEntry?
  else if c == '-' && alone then lexer.lexBlockEntry?
  else if c == '?' && (lexer.inFlow || alone) then lexer.lexKey?
  else if c == ':' && (lexer.inFlow || alone) then lexer.lexValue?
  else if c == '*' then
    lexer.lexNode? fun cursor =>
      (readName? cursor).map fun (name, after) => (.reference name, after)
  else if c == '&' then
    lexer.lexNode? fun cursor =>
      (readName? cursor).map fun (name, after) => (.anchor name, after)
  else if c == '!' then
    lexer.lexNode? fun cursor =>
      (readTag? lexer.inFlow cursor).map fun (tag, after) => (.tag tag, after)
  else if c == '|' && !lexer.inFlow then lexer.lexBlock? .literal
  else if c == '>' && !lexer.inFlow then lexer.lexBlock? .folded
  else if c == '\'' || c == '"' then lexer.lexQuoted? c
  else if startsPlain lexer.inFlow c rest then lexer.lexPlain?
  else none

/-- At the end of the text everything is closed; a key that is required is missing then. -/
def finish? (lexer : Lexer) : Option (List Token) :=
  (lexer.closeTo (-1)).dropPlace?.map fun lexer => lexer.tokens.reverse

def run? : Nat → Lexer → Option (List Token)
  | 0, _ => none
  | fuel + 1, lexer => do
    let lexer ← (lexer.skipGap (lexer.cursor.rest.length + 1)).dropStale?
    let lexer := lexer.closeTo lexer.cursor.column
    match lexer.cursor.rest with
    | [] => lexer.finish?
    | c :: rest => run? fuel (← lexer.lexToken? c rest)

end Lexer

def tokens? (text : String) : Option (List Token) := do
  let cursor ← open? text
  Lexer.run? (cursor.rest.length + 1) { cursor }

end Dialogue.Yaml
