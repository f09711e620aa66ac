import Dialogue.Decimal
import Dialogue.Text.Blank

/-!
Points in time to the nanosecond, in coordinated universal time, and their text: date and time with
an offset. Reading takes blanks between the parts; writing leaves out the fraction of a whole second
and else gives it in three, six or nine digits.
-/
namespace Dialogue

/-- A date and a time of day. A second that was inserted is second 60 of its minute. -/
structure Timestamp where
  year : Int
  month : Nat
  day : Nat
  hour : Nat
  minute : Nat
  second : Nat
  nanosecond : Nat
deriving DecidableEq

namespace Timestamp

def isLeapYear (year : Int) : Bool :=
  year % 4 == 0 && (year % 100 != 0 || year % 400 == 0)

def daysInMonth (year : Int) (month : Nat) : Nat :=
  if month = 2 then if isLeapYear year then 29 else 28
  else if [4, 6, 9, 11].contains month then 30 else 31

def isYear (year : Int) : Bool := -262143 ≤ year && year ≤ 262142

def nextDay (time : Timestamp) : Timestamp :=
  if time.day < daysInMonth time.year time.month then { time with day := time.day + 1 }
  else if time.month < 12 then { time with month := time.month + 1, day := 1 }
  else { time with year := time.year + 1, month := 1, day := 1 }

def previousDay (time : Timestamp) : Timestamp :=
  if 1 < time.day then { time with day := time.day - 1 }
  else if 1 < time.month then
    { time with month := time.month - 1, day := daysInMonth time.year (time.month - 1) }
  else { time with year := time.year - 1, month := 12, day := 31 }

/-- Sets the clock to a minute of the day that may lie in the day before or after. -/
def atMinute (time : Timestamp) (minute : Int) : Timestamp :=
  let moved :=
    if minute < 0 then time.previousDay else if 1440 ≤ minute then time.nextDay else time
  let ofDay := (minute % 1440).toNat
  { moved with hour := ofDay / 60, minute := ofDay % 60 }

/-- The point in time that a clock shows which is some minutes ahead. -/
def ofLocal? (time : Timestamp) (offset : Int) : Option Timestamp :=
  let moved := time.atMinute (60 * time.hour + time.minute - offset)
  if offset.natAbs < 1440 && isYear moved.year then some moved else none

/-! ### Reading -/

def skipBlanks (cs : List Char) : List Char := cs.dropWhile Text.isBlank

def readNumber? (most : Nat) (cs : List Char) : Option (Nat × List Char) :=
  let digits := ((skipBlanks cs).take most).takeWhile Decimal.isDigit
  if digits.isEmpty then none
  else some (Decimal.ofDigits digits, (skipBlanks cs).drop digits.length)

def readDigits? (cs : List Char) : Option (Nat × List Char) :=
  let digits := cs.takeWhile Decimal.isDigit
  if digits.isEmpty then none else some (Decimal.ofDigits digits, cs.dropWhile Decimal.isDigit)

/-- Four digits at most, or any number of them after a sign. -/
def readYear? (cs : List Char) : Option (Int × List Char) :=
  match skipBlanks cs with
  | '-' :: rest => (readDigits? rest).map fun (n, rest) => (-(n : Int), rest)
  | '+' :: rest => (readDigits? rest).map fun (n, rest) => ((n : Int), rest)
  | rest => (readNumber? 4 rest).map fun (n, rest) => ((n : Int), rest)

def readMark? (mark : Char) (cs : List Char) : Option (List Char) :=
  match skipBlanks cs with
  | c :: rest => if c = mark then some rest else none
  | [] => none

/-- The fraction of a second, in nanoseconds. Digits beyond the ninth do not count. -/
def readFraction? : List Char → Option (Nat × List Char)
  | '.' :: rest =>
    let digits := rest.takeWhile Decimal.isDigit
    if digits.isEmpty then none
    else
      let counted := digits.take 9
      let scale := Nat.pow 10 (9 - counted.length)
      some (Decimal.ofDigits counted * scale, rest.dropWhile Decimal.isDigit)
  | rest => some (0, rest)

def isOffsetMark (c : Char) : Bool := c == ':' || Text.isBlank c

def readClock? : List Char → Option (Nat × List Char)
  | h₁ :: h₂ :: rest =>
    match rest.dropWhile isOffsetMark with
    | m₁ :: m₂ :: rest =>
      if [h₁, h₂, m₁, m₂].all Decimal.isDigit && m₁ < '6' then
        some (60 * Decimal.ofDigits [h₁, h₂] + Decimal.ofDigits [m₁, m₂], rest)
      else none
    | _ => none
  | _ => none

def readOffset? (cs : List Char) : Option (Int × List Char) :=
  match skipBlanks cs with
  | 'Z' :: rest | 'z' :: rest => some (0, rest)
  | '+' :: rest => (readClock? rest).map fun (n, rest) => ((n : Int), rest)
  | '-' :: rest | '−' :: rest => (readClock? rest).map fun (n, rest) => (-(n : Int), rest)
  | c₁ :: c₂ :: c₃ :: rest =>
    if [c₁, c₂, c₃].map Char.toUpper = ['U', 'T', 'C'] then some (0, rest) else none
  | _ => none

def isDate (year : Int) (month day : Nat) : Bool :=
  isYear year && 1 ≤ month && month ≤ 12 && 1 ≤ day && day ≤ daysInMonth year month

def isTime (hour minute second : Nat) : Bool :=
  hour < 24 && minute < 60 && second ≤ 60

def ofText? (text : String) : Option Timestamp := do
  let (year, cs) ← readYear? text.toList
  let (month, cs) ← readNumber? 2 (← readMark? '-' cs)
  let (day, cs) ← readNumber? 2 (← readMark? '-' cs)
  let cs ← match cs with
    | 'T' :: rest | 't' :: rest | ' ' :: rest => some rest
    | _ => none
  let (hour, cs) ← readNumber? 2 cs
  let (minute, cs) ← readNumber? 2 (← readMark? ':' cs)
  let (second, cs) ← readNumber? 2 (← readMark? ':' cs)
  let (nanosecond, cs) ← readFraction? cs
  let (offset, cs) ← readOffset? cs
  if isDate year month day && isTime hour minute second && (skipBlanks cs).isEmpty then
    ofLocal? ⟨year, month, day, hour, minute, second, nanosecond⟩ offset
  else none

/-! ### Writing -/

def padded (width n : Nat) : List Char :=
  let digits := Nat.toDigits 10 n
  List.replicate (width - digits.length) '0' ++ digits

/-- Years of more or less than four digits have a sign. -/
def writeYear (year : Int) : List Char :=
  if 0 ≤ year ∧ year ≤ 9999 then padded 4 year.toNat
  else (if year < 0 then '-' else '+') :: padded 4 year.natAbs

def writeFraction (nanosecond : Nat) : List Char :=
  if nanosecond = 0 then []
  else if nanosecond % 1000000 = 0 then '.' :: padded 3 (nanosecond / 1000000)
  else if nanosecond % 1000 = 0 then '.' :: padded 6 (nanosecond / 1000)
  else '.' :: padded 9 nanosecond

def toText (time : Timestamp) : String :=
  String.ofList (writeYear time.year ++ '-' :: padded 2 time.month ++ '-' :: padded 2 time.day ++
    'T' :: padded 2 time.hour ++ ':' :: padded 2 time.minute ++ ':' :: padded 2 time.second ++
    writeFraction time.nanosecond ++ ['Z'])

end Timestamp

end Dialogue
