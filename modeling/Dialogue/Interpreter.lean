import Dialogue.Json.Reader
import Dialogue.Message
import Dialogue.Text.Blank
import Dialogue.Warning

/-!
Interpreters, which understand user messages, and the interpreter of messages that name their intent
themselves: a slash and the name, then if wanted an at sign with the confidence and an object with
the entities.
-/
namespace Dialogue

/-- Understands any text. What it warns of while doing so is told apart from the result. -/
structure Interpreter where
  parse : String → Parse
  warnings : String → List Warning

namespace Interpreter

structure Written where
  name : List Char
  confidence : Option (List Char)
  payload : Option (List Char)
deriving DecidableEq

def isNameChar (c : Char) : Bool :=
  c != '\x7b' && c != '@'

def isNumberChar (c : Char) : Bool :=
  Decimal.isDigit c || c == '.'

/-- A payload runs from an opening brace to a closing one at the end, all in one line. -/
def readPayload? : List Char → Option (Option (List Char))
  | [] => some none
  | cs =>
    if cs.head? == some '\x7b' && cs.getLast? == some '\x7d' && 2 ≤ cs.length && !cs.contains '\n'
    then some (some cs)
    else none

def readTail? (name : List Char) : List Char → Option Written
  | '@' :: rest =>
    let number := rest.takeWhile isNumberChar
    if number.isEmpty then none
    else (readPayload? (rest.dropWhile isNumberChar)).map fun payload =>
      ⟨name, some number, payload⟩
  | rest => (readPayload? rest).map fun payload => ⟨name, none, payload⟩

def readWritten? : List Char → Option Written
  | '/' :: rest =>
    let name := rest.takeWhile isNameChar
    if name.isEmpty then none else readTail? name (rest.dropWhile isNameChar)
  | _ => none

def clamp (x : Float) : Float :=
  if x < 0.0 then 0.0 else if 1.0 < x then 1.0 else x

/-- Without a number that can be read the confidence is 1. -/
def confidenceOf (number : Option (List Char)) : Float :=
  match number.bind Decimal.readFloat? with
  | some x => clamp x
  | none => 1.0

/-- Each element of a list is an entity of its own. -/
def entitiesOf (name : String) : Json → List Entity
  | .arr items => items.map fun item => ⟨name, item, none, none⟩
  | value => [⟨name, value, none, none⟩]

def readEntities? (payload : List Char) : Option (List Entity) :=
  match Json.parse? (String.ofList payload) with
  | some (.obj members) => some (members.flatMap fun (name, value) => entitiesOf name value)
  | _ => none

def parseMessage (text : String) : Parse :=
  match readWritten? (Text.trimChars text.toList) with
  | none => .ofText text
  | some written =>
    let name := String.ofList (Text.trimChars written.name)
    let intent : Intent := ⟨name, confidenceOf written.confidence⟩
    ⟨text, some intent, (written.payload.bind readEntities?).getD [], [intent]⟩

def messageWarnings (text : String) : List Warning :=
  let trimmed := Text.trimChars text.toList
  match readWritten? trimmed with
  | none => []
  | some written =>
    let number := match written.confidence with
      | some cs =>
        if (Decimal.readFloat? cs).isNone then
          [.invalidConfidence (String.ofList cs) (String.ofList trimmed)]
        else []
      | none => []
    let payload := match written.payload with
      | some cs => if (readEntities? cs).isNone then [.invalidPayload (String.ofList cs)] else []
      | none => []
    number ++ payload

/-- Understands messages that name their intent, and nothing of any other text. -/
def ofMessages : Interpreter := ⟨parseMessage, messageWarnings⟩

def withKnown (known : SortedMap Parse) (other : Interpreter) : Interpreter where
  parse text := (known.get? text).getD (other.parse text)
  warnings text := if known.contains text then [] else other.warnings text

end Interpreter

end Dialogue
