import Dialogue.Decimal
import Dialogue.Yaml.Tag

/-!
What scalars mean: a plain one may be null, a truth value or a number, unless a tag says what it is.
-/
namespace Dialogue.Yaml

inductive Meaning where
  | null
  | bool (value : Bool)
  | int (value : Int)
  /-- An integer of more than 64 bits. -/
  | wide
  | float (value : Float)
  | text
deriving Inhabited

def isNull (cs : List Char) : Bool :=
  ["null", "Null", "NULL", "~"].contains (String.ofList cs)

def readBool? (cs : List Char) : Option Bool :=
  if ["true", "True", "TRUE"].contains (String.ofList cs) then some true
  else if ["false", "False", "FALSE"].contains (String.ofList cs) then some false
  else none

/-! ### Integers -/

def isSign (c : Char) : Bool := c == '+' || c == '-'

def dropSign : List Char → List Char
  | c :: rest => if isSign c then rest else c :: rest
  | [] => []

/-- Digits behind a zero are no number. -/
def isPaddedNumber (cs : List Char) : Bool :=
  let digits := dropSign cs
  1 < digits.length && digits.head? == some '0' && digits.all Decimal.isDigit

def readRadix? (radix : Nat) (cs : List Char) : Option Nat :=
  if cs.isEmpty then none
  else cs.foldlM (fun n c =>
    (hexValue? c).bind fun d => if d < radix then some (radix * n + d) else none) 0

def readBased? : List Char → Option Nat
  | '0' :: 'x' :: rest => readRadix? 16 rest
  | '0' :: 'o' :: rest => readRadix? 8 rest
  | '0' :: 'b' :: rest => readRadix? 2 rest
  | _ => none

def readNatural? (cs : List Char) : Option Nat :=
  match readBased? cs with
  | some n => some n
  | none => if isPaddedNumber cs then none else readRadix? 10 cs

def upTo (bound n : Nat) : Option Nat := if n ≤ bound then some n else none

def maxNatural : Nat := Nat.pow 2 128 - 1

def readInteger? : List Char → Option Int
  | '-' :: rest => ((readNatural? rest).bind (upTo (Nat.pow 2 127))).map fun n => -(n : Int)
  | '+' :: rest => ((readNatural? rest).bind (upTo maxNatural)).map Int.ofNat
  | cs => ((readNatural? cs).bind (upTo maxNatural)).map Int.ofNat

def integer (n : Int) : Meaning :=
  if Int64.minValue.toInt ≤ n && n < UInt64.size then .int n else .wide

/-! ### Floats -/

/-- Only a finite number counts when it is written in digits. -/
def readNumber? (cs : List Char) : Option Float :=
  (Decimal.readFloat? cs).bind fun x => if x.isFinite then some x else none

def readFloat? (cs : List Char) : Option Float :=
  let unsigned := match cs with
    | '+' :: rest => rest
    | cs => cs
  if cs.head? == some '+' && unsigned.head?.any isSign then none
  else if [".inf", ".Inf", ".INF"].contains (String.ofList unsigned) then some (1.0 / 0.0)
  else if ["-.inf", "-.Inf", "-.INF"].contains (String.ofList cs) then some (-1.0 / 0.0)
  else if [".nan", ".NaN", ".NAN"].contains (String.ofList cs) then some (0.0 / 0.0)
  else readNumber? unsigned

/-! ### Scalars -/

def plainMeaning (cs : List Char) : Meaning :=
  if cs.isEmpty || isNull cs then .null
  else match readBool? cs with
    | some b => .bool b
    | none => match readInteger? cs with
      | some n => integer n
      | none =>
        if isPaddedNumber cs then .text
        else match readFloat? cs with
          | some x => .float x
          | none => .text

/-- The meaning of a scalar, none if its text does not fit its tag. A tag of the document's own says
nothing about it. -/
def meaning? (tag : Option Tag) (style : Style) (cs : List Char) : Option Meaning :=
  match tag with
  | none | some (.own _) | some .nameless =>
    some (if style == .plain then plainMeaning cs else .text)
  | some .null => if isNull cs then some .null else none
  | some .bool => (readBool? cs).map .bool
  | some .int => (readInteger? cs).map integer
  | some .float => (readFloat? cs).map .float
  | some .other => some .text

end Dialogue.Yaml
