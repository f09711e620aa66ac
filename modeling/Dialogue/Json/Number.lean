import Dialogue.Json

/-!
The numbers of JSON text. A number without point and exponent is an integer as long as it fits 64
bits. Of any other number the digits are kept that fit 64 bits, and its float is made of them by one
multiplication or division by a power of ten, so the last place may differ from the nearest float.
-/
namespace Dialogue.Json

/-! ### The digits that are kept -/

/-- Adds the digits before the point. Once one does not fit, it and all behind it count as zeros. -/
def keepWhole (kept : Nat) : List Char → Decimal
  | [] => ⟨kept, 0⟩
  | c :: rest =>
    let n := 10 * kept + Decimal.digitValue c
    if n < UInt64.size then keepWhole n rest else ⟨kept, rest.length + 1⟩

/-- Adds the digits behind the point. Once one does not fit, it and all behind it are left out. -/
def keepFraction (kept : Decimal) : List Char → Decimal
  | [] => kept
  | c :: rest =>
    let n := 10 * kept.coefficient + Decimal.digitValue c
    if n < UInt64.size then keepFraction ⟨n, kept.exponent - 1⟩ rest else kept

/-! ### Floats -/

def maxPower : Nat := 308

def floatPower (e : Nat) : Float := Decimal.toFloat ⟨1, e⟩

/-- Divides by a power of ten, by the largest one again and again if that is not a float. -/
def scaleDown (x : Float) (e : Nat) : Float :=
  if e ≤ maxPower then x / floatPower e
  else if x == 0.0 then x
  else scaleDown (x / floatPower maxPower) (e - maxPower)
termination_by e
decreasing_by simp only [maxPower] at *; omega

/-- Multiplies by a power of ten. Only zero may be multiplied by one that is not a float. -/
def scaleUp (x : Float) (e : Nat) : Float :=
  if e ≤ maxPower then x * floatPower e else if x == 0.0 then x else 1.0 / 0.0

def scaled (d : Decimal) : Float :=
  let x := d.coefficient.toFloat
  if d.exponent < 0 then scaleDown x d.exponent.natAbs else scaleUp x d.exponent.natAbs

def signed (negative : Bool) (x : Float) : Json := .float (if negative then -x else x)

/-- The value of an integer's digits. A negative zero is a float. -/
def ofInteger (negative : Bool) (digits : List Char) : Json :=
  let kept := keepWhole 0 digits
  let n := kept.coefficient
  if kept.exponent = 0 then
    if !negative then .int n
    else if n ≠ 0 ∧ Int64.minValue.toInt ≤ -(n : Int) then .int (-n)
    else signed negative n.toFloat
  else signed negative (scaled kept)

/-! ### Reading -/

def readFraction? : List Char → Option (Option (List Char) × List Char)
  | '.' :: rest =>
    let digits := rest.takeWhile Decimal.isDigit
    if digits.isEmpty then none else some (some digits, rest.dropWhile Decimal.isDigit)
  | cs => some (none, cs)

def readExponent? : List Char → Option (Option Int × List Char)
  | mark :: rest =>
    if mark = 'e' || mark = 'E' then
      let (negative, rest) := match rest with
        | '+' :: rest => (false, rest)
        | '-' :: rest => (true, rest)
        | rest => (false, rest)
      let digits := rest.takeWhile Decimal.isDigit
      let n : Int := Decimal.ofDigits digits
      if digits.isEmpty then none
      else some (some (if negative then -n else n), rest.dropWhile Decimal.isDigit)
    else some (none, mark :: rest)
  | [] => some (none, [])

def readMagnitude? (negative : Bool) (cs : List Char) : Option (Json × List Char) := do
  let whole := cs.takeWhile Decimal.isDigit
  if whole.isEmpty || (whole.head? == some '0' && whole.length ≠ 1) then none
  let (fraction, rest) ← readFraction? (cs.dropWhile Decimal.isDigit)
  let (exponent, rest) ← readExponent? rest
  if fraction.isNone && exponent.isNone then return (ofInteger negative whole, rest)
  let kept := keepFraction (keepWhole 0 whole) (fraction.getD [])
  return (signed negative (scaled { kept with
    exponent := kept.exponent + exponent.getD 0 }), rest)

/-- Reads a number. One beyond the range of floats is read as infinity. -/
def readNumber? : List Char → Option (Json × List Char)
  | '-' :: cs => readMagnitude? true cs
  | cs => readMagnitude? false cs

end Dialogue.Json
