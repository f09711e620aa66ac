/-!
Decimal numbers: a coefficient and a power of ten. `ofFloat` is the shortest decimal that reads back
as a given finite float, `toFloat` the nearest float of a decimal, and a `Layout` says where a
decimal is written with an exponent.
-/
namespace Dialogue

/-- The number `coefficient * 10 ^ exponent`. -/
structure Decimal where
  coefficient : Nat
  exponent : Int
deriving Repr, DecidableEq

namespace Decimal

def powerOfTen (e : Int) : Nat × Nat :=
  (Nat.pow 10 e.toNat, Nat.pow 10 (-e).toNat)

def powerOfTwo (e : Int) : Nat × Nat :=
  (Nat.pow 2 e.toNat, Nat.pow 2 (-e).toNat)

def digitCount (n : Nat) : Nat :=
  (Nat.toDigits 10 n).length

/-- Trailing zeros move into the exponent; `fuel` bounds their number. -/
def stripZeros : Nat → Nat → Int → Decimal
  | 0, c, e => ⟨c, e⟩
  | fuel + 1, c, e => if c % 10 = 0 then stripZeros fuel (c / 10) (e + 1) else ⟨c, e⟩

/-- A binary number `mantissa * 2 ^ exponent`. `narrow` says that the next smaller float is only
half as far away as the next larger one. -/
structure Binary where
  mantissa : Nat
  exponent : Int
  narrow : Bool

namespace Binary

def magnitude (x : Binary) : Int :=
  let (up, down) := powerOfTwo x.exponent
  let num := x.mantissa * up
  if down ≤ num then (digitCount (num / down) : Int) - 1 else -(digitCount (down / num) : Int)

/-- Whether `c * 10 ^ e` reads as this number: it lies between the midpoints to the neighbouring
floats, the midpoints included when the mantissa is even. -/
def readsAs (x : Binary) (c : Nat) (e : Int) : Bool :=
  let (tenUp, tenDown) := powerOfTen e
  let (twoUp, twoDown) := powerOfTwo (x.exponent - 2)
  let value := c * tenUp * twoDown
  let low := (4 * x.mantissa - (if x.narrow then 1 else 2)) * twoUp * tenDown
  let high := (4 * x.mantissa + 2) * twoUp * tenDown
  if x.mantissa % 2 = 0 then low ≤ value && value ≤ high else low < value && value < high

/-- The decimal with `n` digits that reads as this number, the nearer one if there are two, the
even one of two that are equally near. -/
def withDigits? (x : Binary) (n : Nat) : Option Decimal :=
  let e := x.magnitude - (n - 1)
  let (tenUp, tenDown) := powerOfTen e
  let (twoUp, twoDown) := powerOfTwo x.exponent
  let num := x.mantissa * twoUp * tenDown
  let den := twoDown * tenUp
  let below := num / den
  let rest := 2 * (num % den)
  let low := x.readsAs below e
  let high := x.readsAs (below + 1) e
  let preferLow := rest < den || (rest == den && below % 2 == 0)
  if low && (preferLow || !high) then some (stripZeros n below e)
  else if high then some (stripZeros (n + 1) (below + 1) e)
  else none

/-- The fewest digits that read back. Seventeen always do. -/
def shortest (x : Binary) : Decimal :=
  ((List.range 17).findSome? fun i => x.withDigits? (i + 1)).getD ⟨0, 0⟩

end Binary

/-- The leading bit of a mantissa. It is stored only in numbers that are so small that they lack
it. -/
def leadingBit : Nat := 0x10000000000000

def binaryOfBits (bits : Nat) : Binary :=
  let fraction : Nat := bits % leadingBit
  let biased : Nat := bits / leadingBit % 0x800
  if biased = 0 then ⟨fraction, -1074, false⟩
  else ⟨fraction + leadingBit, (biased : Int) - 1075, fraction == 0 && biased != 1⟩

/-- The shortest decimal that reads back as the magnitude of a finite float. -/
def ofFloat (x : Float) : Decimal :=
  let b := binaryOfBits x.toBits.toNat
  if b.mantissa = 0 then ⟨0, 0⟩ else b.shortest

/-- The nearest float. Decimals outside the range of floats are told by their number of digits. -/
def toFloat (d : Decimal) : Float :=
  let size := digitCount d.coefficient + d.exponent
  if d.coefficient = 0 ∨ size < -330 then 0.0
  else if 320 < size then 1.0 / 0.0
  else Float.ofScientific d.coefficient (d.exponent < 0) d.exponent.natAbs

def isNegative (x : Float) : Bool :=
  x.toBits >>> 63 == 1

/-! ### Writing -/

/-- How a decimal is written. `positional` holds for the exponents of scientific notation that are
written out with zeros instead, `integral` ends a number without fraction. -/
structure Layout where
  positional : Int → Bool
  integral : String

def plain : Layout := ⟨fun _ => true, ""⟩

def zeros (n : Int) : String :=
  String.ofList (List.replicate n.toNat '0')

def write (layout : Layout) (d : Decimal) : String :=
  let digits := (Nat.toDigits 10 d.coefficient)
  let point : Int := digits.length + d.exponent
  if layout.positional (point - 1) then
    if 0 ≤ d.exponent then String.ofList digits ++ zeros d.exponent ++ layout.integral
    else if 0 < point then
      String.ofList (digits.take point.toNat) ++ "." ++ String.ofList (digits.drop point.toNat)
    else "0." ++ zeros (-point) ++ String.ofList digits
  else
    let fraction := if digits.length = 1 then "" else "." ++ String.ofList (digits.drop 1)
    let sign := if point - 1 < 0 then "-" else "+"
    String.ofList (digits.take 1) ++ fraction ++ "e" ++ sign ++ toString (point - 1).natAbs

def writeFloat (layout : Layout) (x : Float) : String :=
  if x.isNaN then "NaN"
  else
    let sign := if isNegative x then "-" else ""
    if x.isInf then sign ++ "inf" else sign ++ write layout (ofFloat x)

/-! ### Reading -/

def isDigit (c : Char) : Bool :=
  '0' ≤ c && c ≤ '9'

def digitValue (c : Char) : Nat :=
  c.toNat - '0'.toNat

def ofDigits (cs : List Char) : Nat :=
  cs.foldl (fun n c => 10 * n + digitValue c) 0

/-- The exponent of a number: a mark, a sign if any, and digits. Nothing at all is exponent 0. -/
def readExponent? : List Char → Option Int
  | [] => some 0
  | mark :: rest =>
    let (negative, digits) := match rest with
      | '+' :: ds => (false, ds)
      | '-' :: ds => (true, ds)
      | ds => (false, ds)
    if (mark == 'e' || mark == 'E') && !digits.isEmpty && digits.all isDigit then
      some (if negative then -(ofDigits digits : Int) else ofDigits digits)
    else none

/-- Reads digits with at most one point among or around them, then an exponent if any. There has to
be a digit. -/
def read? (cs : List Char) : Option Decimal :=
  let whole := cs.takeWhile isDigit
  let rest := cs.dropWhile isDigit
  let (fraction, rest) := match rest with
    | '.' :: more => (more.takeWhile isDigit, more.dropWhile isDigit)
    | _ => ([], rest)
  if whole.isEmpty && fraction.isEmpty then none
  else (readExponent? rest).map fun e =>
    ⟨ofDigits (whole ++ fraction), e - (fraction.length : Int)⟩

def readFloat? : List Char → Option Float
  | '-' :: cs => (read? cs).map fun d => -d.toFloat
  | '+' :: cs => (read? cs).map toFloat
  | cs => (read? cs).map toFloat

end Decimal

end Dialogue
