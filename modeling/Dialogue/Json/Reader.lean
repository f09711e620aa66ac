import Dialogue.Json.Number

/-!
Reading JSON text. `read?` gives the tree as it is written, repeated names and all; `parse?` gives
the value it denotes. What is well formed but denotes nothing is `unreadable` in the tree, where it
does no harm unless somebody looks at it.
-/
namespace Dialogue.Json

/-- Stands for what no value is denoted by: half a surrogate pair, a number out of range, a value
that is nested too deep. It is a number that no text denotes. -/
def unreadable : Json := .float (1.0 / 0.0)

def isSpace (c : Char) : Bool :=
  c = ' ' || c = '\t' || c = '\n' || c = '\r'

def skipSpace (cs : List Char) : List Char :=
  cs.dropWhile isSpace

def hexValue? (c : Char) : Option Nat :=
  if '0' ≤ c && c ≤ '9' then some (c.toNat - '0'.toNat)
  else if 'a' ≤ c && c ≤ 'f' then some (c.toNat - 'a'.toNat + 10)
  else if 'A' ≤ c && c ≤ 'F' then some (c.toNat - 'A'.toNat + 10)
  else none

def hex4? (a b c d : Char) : Option Nat := do
  return ((← hexValue? a) * 16 + (← hexValue? b)) * 256 + (← hexValue? c) * 16 + (← hexValue? d)

def simpleEscape? (c : Char) : Option Char :=
  if c = '"' || c = '\\' || c = '/' then some c
  else if c = 'b' then some '\x08'
  else if c = 'f' then some '\x0c'
  else if c = 'n' then some '\n'
  else if c = 'r' then some '\r'
  else if c = 't' then some '\t'
  else none

/-- Reads the codes of a string up to its closing quote. An escape may be half a surrogate pair. -/
def readCodes : List Char → Option (List Nat × List Char)
  | [] => none
  | '"' :: rest => some ([], rest)
  | '\\' :: 'u' :: a :: b :: c :: d :: rest => do
    let n ← hex4? a b c d
    (readCodes rest).map fun (codes, rest) => (n :: codes, rest)
  | '\\' :: c :: rest => do
    let e ← simpleEscape? c
    (readCodes rest).map fun (codes, rest) => (e.toNat :: codes, rest)
  | c :: rest =>
    if c = '\\' || c.toNat < 0x20 then none
    else (readCodes rest).map fun (codes, rest) => (c.toNat :: codes, rest)

def isHighSurrogate (n : Nat) : Bool := 0xD800 ≤ n && n < 0xDC00
def isLowSurrogate (n : Nat) : Bool := 0xDC00 ≤ n && n < 0xE000

/-- The characters of codes. Two halves make one character, and a half alone makes none. -/
def ofCodes? : List Nat → Option (List Char)
  | [] => some []
  | [n] => if isHighSurrogate n || isLowSurrogate n then none else some [Char.ofNat n]
  | n :: low :: rest =>
    if isHighSurrogate n && isLowSurrogate low then
      (ofCodes? rest).map (Char.ofNat (0x10000 + (n - 0xD800) * 1024 + (low - 0xDC00)) :: ·)
    else if isHighSurrogate n || isLowSurrogate n then none
    else (ofCodes? (low :: rest)).map (Char.ofNat n :: ·)

def readString (cs : List Char) : Option (Option String × List Char) :=
  (readCodes cs).map fun (codes, rest) => ((ofCodes? codes).map String.ofList, rest)

def ofText : Option String → Json
  | some text => .str text
  | none => unreadable

def within (depth : Nat) (value : Json) : Json :=
  if depth = 0 then unreadable else value

def ofEntries (entries : List (Option String × Json)) : Json :=
  match entries.mapM fun (name, value) => name.map (·, value) with
  | some members => .obj members
  | none => unreadable

mutual

/-- Reads a value, which may have `depth` levels of arrays and objects. `fuel` bounds the number of
values and is never less than the length of the text. -/
def readValue : Nat → Nat → List Char → Option (Json × List Char)
  | 0, _, _ => none
  | fuel + 1, depth, cs =>
    match skipSpace cs with
    | 'n' :: 'u' :: 'l' :: 'l' :: rest => some (.null, rest)
    | 't' :: 'r' :: 'u' :: 'e' :: rest => some (.bool true, rest)
    | 'f' :: 'a' :: 'l' :: 's' :: 'e' :: rest => some (.bool false, rest)
    | '"' :: rest => (readString rest).map fun (text, rest) => (ofText text, rest)
    | '[' :: rest =>
      match skipSpace rest with
      | ']' :: rest => some (within depth (.arr []), rest)
      | rest => (readItems fuel (depth - 1) rest).map fun (items, rest) =>
          (within depth (.arr items), rest)
    | '\x7b' :: rest =>
      match skipSpace rest with
      | '\x7d' :: rest => some (within depth (.obj []), rest)
      | rest => (readMembers fuel (depth - 1) rest).map fun (entries, rest) =>
          (within depth (ofEntries entries), rest)
    | rest => readNumber? rest

def readItems : Nat → Nat → List Char → Option (List Json × List Char)
  | 0, _, _ => none
  | fuel + 1, depth, cs => do
    let (item, rest) ← readValue fuel depth cs
    match skipSpace rest with
    | ']' :: rest => return ([item], rest)
    | ',' :: rest =>
      let (items, rest) ← readItems fuel depth rest
      return (item :: items, rest)
    | _ => none

def readMembers : Nat → Nat → List Char → Option (List (Option String × Json) × List Char)
  | 0, _, _ => none
  | fuel + 1, depth, cs =>
    match skipSpace cs with
    | '"' :: rest => do
      let (name, rest) ← readString rest
      match skipSpace rest with
      | ':' :: rest =>
        let (value, rest) ← readValue fuel depth rest
        match skipSpace rest with
        | '\x7d' :: rest => return ([(name, value)], rest)
        | ',' :: rest =>
          let (members, rest) ← readMembers fuel depth rest
          return ((name, value) :: members, rest)
        | _ => none
      | _ => none
    | _ => none

end

def maxDepth : Nat := 127

def read? (text : String) : Option Json :=
  let cs := text.toList
  match readValue (2 * cs.length + 2) maxDepth cs with
  | some (value, rest) => if (skipSpace rest).isEmpty then some value else none
  | none => none

def parse? (text : String) : Option Json :=
  (read? text).bind canonical?

end Dialogue.Json
