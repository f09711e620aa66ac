import Dialogue.Decimal
import Dialogue.SortedMap

/-!
JSON values and their text. An object holds its members in a list; a value is canonical when the
members of each of its objects have increasing names. Integers and floats are told apart: a float
is written so that it is recognised as one.
-/
namespace Dialogue

inductive Json where
  | null
  | bool (value : Bool)
  | int (value : Int)
  | float (value : Float)
  | str (value : String)
  | arr (items : List Json)
  | obj (members : List (String × Json))
deriving Inhabited

namespace Json

def isNull : Json → Bool
  | null => true
  | _ => false

/-- An object whose members are put in order; of members with one name the last counts. -/
def ofMembers (members : List (String × Json)) : Json :=
  .obj (SortedMap.ofList members).entries

def ofMap (map : SortedMap Json) : Json :=
  .obj map.entries

def ofOption (f : α → Json) : Option α → Json
  | none => .null
  | some a => f a

def ofNat (n : Nat) : Json := .int n

def strings (items : List String) : Json :=
  .arr (items.map .str)

/-! ### Text -/

/-- Floats are positional from 0.00001 up to 16 digits, and a whole one ends in a zero place. -/
def floatLayout : Decimal.Layout := ⟨fun e => -5 ≤ e && e < 16, ".0"⟩

/-- What is no finite number has no JSON form and becomes null. -/
def renderFloat (x : Float) : List Char :=
  if x.isFinite then (Decimal.writeFloat floatLayout x).toList else "null".toList

def hexDigit (n : Nat) : Char :=
  Char.ofNat (if n < 10 then '0'.toNat + n else 'a'.toNat + (n - 10))

/-- Quotes, backslashes and the controls below U+0020 are escaped. -/
def escape (c : Char) : List Char :=
  if c = '"' then ['\\', '"']
  else if c = '\\' then ['\\', '\\']
  else if c = '\n' then ['\\', 'n']
  else if c = '\r' then ['\\', 'r']
  else if c = '\t' then ['\\', 't']
  else if c = '\x08' then ['\\', 'b']
  else if c = '\x0c' then ['\\', 'f']
  else if c.toNat < 0x20 then
    ['\\', 'u', '0', '0', hexDigit (c.toNat / 16), hexDigit (c.toNat % 16)]
  else [c]

def renderString (s : String) : List Char :=
  '"' :: (s.toList.flatMap escape ++ ['"'])

mutual

def render : Json → List Char
  | null => "null".toList
  | bool true => "true".toList
  | bool false => "false".toList
  | int n => (toString n).toList
  | float x => renderFloat x
  | str s => renderString s
  | arr [] => ['[', ']']
  | arr (item :: rest) => '[' :: (render item ++ renderItems rest)
  | obj [] => ['\x7b', '\x7d']
  | obj (member :: rest) => '\x7b' :: (renderMember member ++ renderMembers rest)

def renderItems : List Json → List Char
  | [] => [']']
  | item :: rest => ',' :: (render item ++ renderItems rest)

def renderMember : String × Json → List Char
  | (name, value) => renderString name ++ ':' :: render value

def renderMembers : List (String × Json) → List Char
  | [] => ['\x7d']
  | member :: rest => ',' :: (renderMember member ++ renderMembers rest)

end

def compact (value : Json) : String :=
  String.ofList value.render

def newline (depth : Nat) : List Char :=
  '\n' :: List.replicate (2 * depth) ' '

mutual

def renderPretty (depth : Nat) : Json → List Char
  | arr (item :: rest) =>
    '[' :: (newline (depth + 1) ++ renderPretty (depth + 1) item ++ prettyItems depth rest)
  | obj (member :: rest) =>
    '\x7b' :: (newline (depth + 1) ++ prettyMember (depth + 1) member ++ prettyMembers depth rest)
  | arr [] => ['[', ']']
  | obj [] => ['\x7b', '\x7d']
  | null => render null
  | bool b => render (bool b)
  | int n => render (int n)
  | float x => render (float x)
  | str s => render (str s)

def prettyItems (depth : Nat) : List Json → List Char
  | [] => newline depth ++ [']']
  | item :: rest =>
    ',' :: (newline (depth + 1) ++ renderPretty (depth + 1) item ++ prettyItems depth rest)

def prettyMember (depth : Nat) : String × Json → List Char
  | (name, value) => renderString name ++ ':' :: ' ' :: renderPretty depth value

def prettyMembers (depth : Nat) : List (String × Json) → List Char
  | [] => newline depth ++ ['\x7d']
  | member :: rest =>
    ',' :: (newline (depth + 1) ++ prettyMember (depth + 1) member ++ prettyMembers depth rest)

end

/-- The text of a value with one item or member a line, each level indented by two blanks. -/
def pretty (value : Json) : String :=
  String.ofList (value.renderPretty 0)

/-! ### Canonical values -/

mutual

/-- The value that a written text denotes: members in order, the last of a repeated name, and no
number beyond the range of floats. -/
def canonical? : Json → Option Json
  | float x => if x.isFinite then some (float x) else none
  | arr items => (canonicalItems? items).map arr
  | obj members => (canonicalMembers? members).map ofMembers
  | null => some null
  | bool b => some (bool b)
  | int n => some (int n)
  | str s => some (str s)

def canonicalItems? : List Json → Option (List Json)
  | [] => some []
  | item :: rest => do return (← canonical? item) :: (← canonicalItems? rest)

def canonicalMember? : String × Json → Option (String × Json)
  | (name, value) => (canonical? value).map fun v => (name, v)

def canonicalMembers? : List (String × Json) → Option (List (String × Json))
  | [] => some []
  | member :: rest => do return (← canonicalMember? member) :: (← canonicalMembers? rest)

end

end Json

end Dialogue
