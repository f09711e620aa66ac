import Dialogue.Decimal

/-!
Version numbers: three numbers, then if wanted a pre-release after a hyphen and a build after a plus
sign. A pre-release comes before its release.
-/
namespace Dialogue

structure Version where
  major : Nat
  minor : Nat
  patch : Nat
  /-- The parts of the pre-release. -/
  pre : List (List Char) := []
  /-- The parts of the build. -/
  build : List (List Char) := []
deriving DecidableEq

namespace Version

/-- A number that fits into 64 bits and has no zero in front. -/
def readNumber? (cs : List Char) : Option (Nat × List Char) :=
  let digits := cs.takeWhile Decimal.isDigit
  let n := Decimal.ofDigits digits
  let padded := digits.head? == some '0' && 1 < digits.length
  if digits.isEmpty || padded || UInt64.size ≤ n then none
  else some (n, cs.dropWhile Decimal.isDigit)

def readDot? : List Char → Option (List Char)
  | '.' :: rest => some rest
  | _ => none

def isPartChar (c : Char) : Bool := c.isAlphanum || c == '-'

def splitDots : List Char → List (List Char)
  | [] => [[]]
  | c :: rest =>
    match splitDots rest with
    | [] => [[c]]
    | part :: parts => if c = '.' then [] :: part :: parts else (c :: part) :: parts

def isPart (part : List Char) : Bool := !part.isEmpty && part.all isPartChar

/-- A part of a pre-release that is a number has no zero in front. -/
def isPrePart (part : List Char) : Bool :=
  isPart part && !(part.all Decimal.isDigit && part.head? == some '0' && 1 < part.length)

/-- A pre-release ends where a build starts. -/
def readPre? : List Char → Option (List (List Char) × List Char)
  | '-' :: rest =>
    let parts := splitDots (rest.takeWhile (· != '+'))
    if parts.all isPrePart then some (parts, rest.dropWhile (· != '+')) else none
  | rest => some ([], rest)

def readBuild? : List Char → Option (List (List Char))
  | [] => some []
  | '+' :: rest => if (splitDots rest).all isPart then some (splitDots rest) else none
  | _ => none

def ofText? (text : String) : Option Version := do
  let (major, cs) ← readNumber? text.toList
  let (minor, cs) ← readNumber? (← readDot? cs)
  let (patch, cs) ← readNumber? (← readDot? cs)
  let (pre, cs) ← readPre? cs
  return ⟨major, minor, patch, pre, ← readBuild? cs⟩

/-- Whether a version comes before the release with some numbers. -/
def precedes (version : Version) (major minor patch : Nat) : Bool :=
  version.major < major || (version.major == major &&
    (version.minor < minor || (version.minor == minor &&
      (version.patch < patch || (version.patch == patch && !version.pre.isEmpty)))))

end Version

end Dialogue
