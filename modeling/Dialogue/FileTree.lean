import Dialogue.FileTree.Path
import Dialogue.SortedMap

/-!
Trees of directories and text files, and the operations of a model directory on them: look up, read,
write, make directories, remove. A path is walked step by step, so each of its directories has to be
there, also one that it leaves again.
-/
namespace Dialogue

inductive FileTree where
  | file (text : String)
  | directory (entries : List (String × FileTree))
deriving Inhabited

namespace FileTree

inductive Failure where
  | notFound
  | occupied
  | notDirectory
  | isDirectory
  /-- The last step of the path cannot be undone. -/
  | staysInPlace
  | nameTooLong
  | invalidName
deriving DecidableEq

def Failure.message : Failure → String
  | notFound => "No such file or directory (os error 2)"
  | occupied => "File exists (os error 17)"
  | notDirectory => "Not a directory (os error 20)"
  | isDirectory => "Is a directory (os error 21)"
  | staysInPlace => "Invalid argument (os error 22)"
  | nameTooLong => "File name too long (os error 36)"
  | invalidName => "file name contained an unexpected NUL byte"

def empty : FileTree := .directory []

/-! ### Names -/

def find : FileTree → List String → Except Failure FileTree
  | tree, [] => .ok tree
  | .file _, _ :: _ => .error .notDirectory
  | .directory entries, name :: rest =>
    match entries.lookup name with
    | none => .error .notFound
    | some tree => tree.find rest

def put : FileTree → List String → FileTree → FileTree
  | _, [], node => node
  | .file text, _ :: _, _ => .file text
  | .directory entries, name :: rest, node =>
    let inner := ((entries.lookup name).getD empty).put rest node
    .directory (SortedMap.insertEntry name inner entries)

def erase : FileTree → List String → FileTree
  | .directory entries, [name] => .directory (entries.filter (·.1 != name))
  | .directory entries, name :: rest =>
    match entries.lookup name with
    | some tree => .directory (SortedMap.insertEntry name (tree.erase rest) entries)
    | none => .directory entries
  | tree, _ => tree

/-! ### Paths -/

def maxNameSize : Nat := 255

/-- The names that lead to the end of a walk, which starts at the end of other names. The last of
them may be one that is not there. -/
def walk (tree : FileTree) (names : List String) : List String → Except Failure (List String)
  | [] => .ok names
  | segment :: rest =>
    match tree.find names with
    | .error failure => .error failure
    | .ok (.file _) => .error .notDirectory
    | .ok (.directory _) =>
      if segment = "." then tree.walk names rest
      else if segment = ".." then tree.walk names.dropLast rest
      else if maxNameSize < segment.utf8ByteSize then .error .nameTooLong
      else tree.walk (names ++ [segment]) rest

def locate (tree : FileTree) (path : Path) : Except Failure (List String) :=
  if path.segments.any Path.isInvalidSegment then .error .invalidName
  else tree.walk [] path.segments

def lookUp (tree : FileTree) (path : Path) : Except Failure FileTree := do
  match ← tree.find (← tree.locate path) with
  | .file text => if path.endsOpen then .error .notDirectory else return .file text
  | found => return found

def contains (tree : FileTree) (path : Path) : Bool :=
  match tree.lookUp path with
  | .ok _ => true
  | .error _ => false

def read (tree : FileTree) (path : Path) : Except Failure String := do
  match ← tree.lookUp path with
  | .file text => return text
  | .directory _ => .error .isDirectory

/-- Writes a file. Its directory has to be there. -/
def write (tree : FileTree) (path : Path) (text : String) : Except Failure FileTree := do
  let names ← tree.locate path
  match tree.find names with
  | .ok (.directory _) => .error .isDirectory
  | _ => if path.endsOpen then .error .isDirectory else return tree.put names (.file text)

/-! ### Directories -/

def makeDirectory (tree : FileTree) (segments : List String) : Except Failure FileTree := do
  let names ← tree.walk [] segments
  match tree.find names with
  | .ok (.directory _) => return tree
  | .ok (.file _) => .error .occupied
  | .error _ => return tree.put names empty

/-- Makes a directory and those on the way to it, as far as they are not there. What was made stays
when the rest fails. -/
def makeDirectoriesAt (tree : FileTree) (segments : List String) :
    FileTree × Except Failure Unit :=
  match tree.makeDirectory segments with
  | .ok tree => (tree, .ok ())
  | .error .notFound =>
    if _h : segments = [] then (tree, .error .notFound)
    else
      match tree.makeDirectoriesAt (Path.parentSegments segments) with
      | (tree, .error failure) => (tree, .error failure)
      | (tree, .ok _) =>
        match tree.makeDirectory segments with
        | .ok tree => (tree, .ok ())
        | .error failure => (tree, .error failure)
  | .error failure => (tree, .error failure)
termination_by segments.length
decreasing_by exact Path.length_parentSegments_lt ‹_›

def makeDirectories (tree : FileTree) (segments : List String) : FileTree × Except Failure Unit :=
  if segments.any Path.isInvalidSegment then (tree, .error .invalidName)
  else tree.makeDirectoriesAt segments

/-! ### Removal -/

/-- Removes a file, or a directory with all that it holds. A directory is emptied first, and one
that the path ends in by a dot stays: by one dot it cannot be removed, by two dots the way to it is
gone by then. -/
def remove (tree : FileTree) (path : Path) : FileTree × Except Failure Unit :=
  match tree.locate path with
  | .error failure => (tree, .error failure)
  | .ok names =>
    match tree.find names with
    | .error failure => (tree, .error failure)
    | .ok (.file _) =>
      if path.endsOpen then (tree, .error .notDirectory) else (tree.erase names, .ok ())
    | .ok (.directory _) =>
      match path.segments.getLast? with
      | some "." => (tree.put names empty, .error .staysInPlace)
      | some ".." => (tree.put names empty, .ok ())
      | _ => (tree.erase names, .ok ())

end FileTree

end Dialogue
