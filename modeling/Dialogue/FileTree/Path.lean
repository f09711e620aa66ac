namespace Dialogue

/-- A path as it was put together. Messages show its text, look-ups follow its segments. -/
structure Path where
  text : String
deriving DecidableEq

namespace Path

def splitParts : List Char → List (List Char)
  | [] => [[]]
  | c :: rest =>
    match splitParts rest with
    | [] => [[c]]
    | part :: parts => if c = '/' then [] :: part :: parts else (c :: part) :: parts

def parts (path : Path) : List String :=
  (splitParts path.text.toList).map String.ofList

/-- The steps of a walk: names, one dot to stay in a directory, two dots to leave it. -/
def segments (path : Path) : List String :=
  path.parts.filter (· != "")

/-- Whether the path ends with a separator, so that it can lead to directories only. -/
def endsOpen (path : Path) : Bool :=
  path.text.toList.getLast? == some '/'

/-- A path inside a directory. An absolute path stands for itself. -/
def join (path : Path) (name : String) : Path :=
  if name.toList.head? = some '/' then ⟨name⟩
  else if path.text = "" ∨ path.text.toList.getLast? = some '/' then ⟨path.text ++ name⟩
  else ⟨path.text ++ "/" ++ name⟩

/-- A relative path that leads one step down: one name, then nothing that leads elsewhere. -/
def isSingleName (path : Path) : Bool :=
  match path.parts with
  | first :: rest =>
    !(["", ".", ".."].contains first) && rest.all fun part => part == "" || part == "."
  | [] => false

/-! ### Segments -/

def isInvalidSegment (segment : String) : Bool :=
  segment.toList.contains '\x00'

def dropStays : List String → List String
  | [] => []
  | segment :: rest =>
    match dropStays rest with
    | [] => if segment == "." then [] else [segment]
    | kept => segment :: kept

def parentSegments (segments : List String) : List String :=
  dropStays (dropStays segments).dropLast

theorem length_dropStays_le (segments : List String) :
    (dropStays segments).length ≤ segments.length := by
  induction segments with
  | nil => simp [dropStays]
  | cons segment rest ih =>
    rw [dropStays]
    split
    · split <;> simp
    · simp only [List.length_cons]; omega

theorem length_parentSegments_lt {segments : List String} (h : segments ≠ []) :
    (parentSegments segments).length < segments.length := by
  have h₁ := length_dropStays_le (dropStays segments).dropLast
  have h₂ := length_dropStays_le segments
  have h₃ := List.length_pos_iff.2 h
  rw [List.length_dropLast] at h₁
  rw [parentSegments]
  omega

end Path

end Dialogue
