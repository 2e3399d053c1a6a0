import Checklist.FileTree
import Checklist.FileTree.Error

namespace Checklist

namespace FileTree

def maxNameBytes : Nat := 255

/-- A path must have fewer bytes than this. -/
def maxPathBytes : Nat := 4096

/-- Follows names from a place. Each name is looked up in a directory, and the last one need not
    be there. Two dots lead to the directory above, and from the root to the root. -/
def walk (tree : FileTree) : Location → List String → Except Refusal Location
  | place, [] => .ok place
  | place, name :: rest =>
    match tree.get? place with
    | none => .error .missing
    | some (.file _) => .error .notDirectory
    | some .directory =>
      if name = ".." then walk tree place.dropLast rest
      else if name.utf8ByteSize ≤ maxNameBytes then walk tree (place ++ [name]) rest
      else .error .nameTooLong

def locate (tree : FileTree) (directory : Location) (path : Path) : Except Refusal Location :=
  if path.toString.utf8ByteSize < maxPathBytes then
    tree.walk (if path.anchor = .here then directory else []) path.parts
  else .error .nameTooLong

def find (tree : FileTree) (directory : Location) (path : Path) : Except Refusal Entry := do
  match tree.get? (← tree.locate directory path) with
  | some entry => .ok entry
  | none => .error .missing

/-- What stands where a path leads, if anything. A path that is blocked on its way leads to
    nothing, but one that is too long is an error. -/
def peek? (tree : FileTree) (directory : Location) (path : Path) :
    Except FileError (Option Entry) :=
  if path.hasNul then .ok none
  else
    match tree.find directory path with
    | .ok entry => .ok (some entry)
    | .error .nameTooLong => .error (.refused .nameTooLong path)
    | .error _ => .ok none

/-- Runs a step on the place of a path and gives its refusal the path. -/
def atPath {α : Type} (tree : FileTree) (directory : Location) (path : Path)
    (step : Location → Except Refusal α) : Except FileError α :=
  if path.hasNul then .error .nulInPath
  else
    match tree.locate directory path with
    | .ok place => (step place).mapError (.refused · path)
    | .error reason => .error (.refused reason path)

/-- A place, provided that nothing stands there yet. -/
def vacancy (tree : FileTree) (place : Location) : Except Refusal Location :=
  match tree.get? place with
  | some _ => .error .occupied
  | none => .ok place

def makeDirectory (tree : FileTree) (directory : Location) (path : Path) :
    Except FileError FileTree :=
  tree.atPath directory path fun place => do
    return tree.put (← tree.vacancy place) .directory

/-- The outcome of a step that can fail after it changed the tree. -/
abbrev Change := FileTree × Except FileError Unit

/-- A refusal to make a directory does not count where a directory already stands. -/
def settle (tree : FileTree) (directory : Location) (path : Path) (error : FileError) : Change :=
  if error.isSystem then
    match tree.peek? directory path with
    | .ok (some .directory) => (tree, .ok ())
    | .ok _ => (tree, .error error)
    | .error other => (tree, .error other)
  else (tree, .error error)

/-- Makes a directory that was missing a moment ago, now that its parent is there. -/
def makeLast (tree : FileTree) (directory : Location) (path : Path) : Change :=
  match tree.makeDirectory directory path with
  | .ok made => (made, .ok ())
  | .error (.refused .missing blocked) => (tree, .error (.refused .missing blocked))
  | .error error => tree.settle directory path error

/-- Makes the directory of an anchor and parts, which are given last part first, and every missing
    directory on the way. What was made stays when a later one cannot be. -/
def makeDirectoriesFrom (tree : FileTree) (directory : Location) (anchor : Anchor) :
    List String → Change
  | [] =>
    match tree.makeDirectory directory ⟨anchor, []⟩ with
    | .ok made => (made, .ok ())
    | .error (.refused .missing path) => (tree, .error (.refused .missing path))
    | .error error => tree.settle directory ⟨anchor, []⟩ error
  | name :: above =>
    let path : Path := ⟨anchor, (name :: above).reverse⟩
    match tree.makeDirectory directory path with
    | .ok made => (made, .ok ())
    | .error (.refused .missing _) =>
      match makeDirectoriesFrom tree directory anchor above with
      | (grown, .ok ()) => grown.makeLast directory path
      | (grown, .error error) => (grown, .error error)
    | .error error => tree.settle directory path error

def makeDirectories (tree : FileTree) (directory : Location) (path : Path) : Change :=
  tree.makeDirectoriesFrom directory path.anchor path.parts.reverse

def read (tree : FileTree) (directory : Location) (path : Path) : Except FileError (List UInt8) :=
  tree.atPath directory path fun place =>
    match tree.get? place with
    | some (.file content) => .ok content
    | some .directory => .error .isDirectory
    | none => .error .missing

/-- The place of a file that is opened for writing. It is made if it is not there, in a directory
    that must be. -/
def openable (tree : FileTree) (place : Location) : Except Refusal (Location × List UInt8) :=
  match tree.get? place with
  | some (.file content) => .ok (place, content)
  | some .directory => .error .isDirectory
  | none => .ok (place, [])

/-- Opens a file for writing from its start: it is empty then. -/
def create (tree : FileTree) (directory : Location) (path : Path) :
    Except FileError (FileTree × Location) :=
  tree.atPath directory path fun place => do
    let (place, _) ← tree.openable place
    return (tree.put place (.file []), place)

/-- Opens a file for writing at its end: it keeps what it holds. -/
def openEnd (tree : FileTree) (directory : Location) (path : Path) :
    Except FileError (FileTree × Location) :=
  tree.atPath directory path fun place => do
    let (place, content) ← tree.openable place
    return (tree.put place (.file content), place)

/-- Adds bytes at the end of an open file. -/
def append (tree : FileTree) (place : Location) (bytes : List UInt8) : FileTree :=
  match tree.get? place with
  | some (.file content) => tree.put place (.file (content ++ bytes))
  | _ => tree

/-- Writes bytes into an open file behind its first ones, of which there are `start`, over what it
    has there. What lies beyond them stays. -/
def overwrite (tree : FileTree) (place : Location) (start : Nat) (bytes : List UInt8) : FileTree :=
  match tree.get? place with
  | some (.file content) =>
    tree.put place (.file (content.take start ++ bytes ++ content.drop (start + bytes.length)))
  | _ => tree

/-- Whether a path ends in two dots or has no parts, so that it cannot be renamed. -/
def isFixed (path : Path) : Bool :=
  path.name == ".." || path.name == ""

/-- Moves a file onto another place in one step. A directory is neither moved nor replaced. The
    two places are given back. -/
def rename (tree : FileTree) (directory : Location) (source target : Path) :
    Except FileError (FileTree × Location × Location) :=
  if source.hasNul || target.hasNul then .error .nulInPath
  else
    (do
      let origin ← tree.locate directory source
      let goal ← tree.locate directory target
      if isFixed source || isFixed target then .error .busy
      else
        match tree.get? origin, tree.get? goal with
        | none, _ => .error .missing
        | some (.file content), some (.file _) | some (.file content), none =>
          .ok ((tree.erase origin).put goal (.file content), origin, goal)
        | _, _ => .error .isDirectory).mapError
      (.renameRefused · source target)

/-- Deletes a file. The place it had is given back. -/
def unlink (tree : FileTree) (directory : Location) (path : Path) :
    Except FileError (FileTree × Location) :=
  tree.atPath directory path fun place =>
    match tree.get? place with
    | some (.file _) => .ok (tree.erase place, place)
    | some .directory => .error .isDirectory
    | none => .error .missing

/-- Why a directory cannot be deleted by this path, if it cannot by any such path: a single dot or a
    root, or two dots at the end. -/
def undeletable? (path : Path) : Option Refusal :=
  match path.anchor, path.parts with
  | .here, [] => some .invalid
  | _, [] => some .busy
  | _, _ => if path.name = ".." then some .notEmpty else none

def remove (tree : FileTree) (directory : Location) (path : Path) : Except FileError FileTree :=
  tree.atPath directory path fun place =>
    match tree.get? place with
    | some (.file _) => .ok (tree.erase place)
    | some .directory =>
      match undeletable? path with
      | some reason => .error reason
      | none => if tree.hasChildren place then .error .notEmpty else .ok (tree.erase place)
    | none => .error .missing

end FileTree

end Checklist
