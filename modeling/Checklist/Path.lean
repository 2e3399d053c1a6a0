import Checklist.Text.Pieces

namespace Checklist

/-- Where a path starts: in the current directory, or at the root. A root written with exactly
    two slashes is kept apart. -/
inductive Anchor where
  | here
  | root
  | doubleRoot
  deriving Repr, DecidableEq

def Anchor.text : Anchor → String
  | .here => ""
  | .root => "/"
  | .doubleRoot => "//"

/-- A path in normal form: no part is empty or a single dot. Two dots are a part like any other. -/
structure Path where
  anchor : Anchor
  parts : List String
  deriving Repr, DecidableEq

namespace Path

/-- The anchor that the leading slashes of a text stand for. -/
def anchorOf : List Char → Anchor
  | '/' :: '/' :: '/' :: _ => .root
  | '/' :: '/' :: _ => .doubleRoot
  | '/' :: _ => .root
  | _ => .here

/-- The path a text stands for. Repeated and trailing slashes and single dots do not count. -/
def ofString (text : String) : Path where
  anchor := anchorOf text.toList
  parts := ((Text.pieces '/' text.toList).map String.ofList).filter fun part =>
    part != "" && part != "."

/-- The path as text. The path without parts is a dot where it has no root. -/
def toString (path : Path) : String :=
  if path.anchor = .here ∧ path.parts = [] then "."
  else path.anchor.text ++ "/".intercalate path.parts

instance : ToString Path := ⟨toString⟩

def name (path : Path) : String :=
  path.parts.getLast?.getD ""

/-- The path without its last part. A path without parts is its own parent. -/
def parent (path : Path) : Path :=
  { path with parts := path.parts.dropLast }

def child (path : Path) (part : String) : Path :=
  { path with parts := path.parts ++ [part] }

/-- The path with another last part, if it has a last part. -/
def withName? (path : Path) (name : String) : Option Path :=
  if path.name = "" then none else some (path.parent.child name)

/-- The parts that are left when each pair of dots takes away the part before it. -/
def collapse (parts : List String) : List String :=
  parts.foldl (fun kept part => if part = ".." then kept.dropLast else kept ++ [part]) []

/-- The path from the root that a path stands for in a directory, found without looking at any
    directory. -/
def absolute (directory : List String) (path : Path) : Path :=
  match path.anchor with
  | .here => ⟨.root, collapse (directory ++ path.parts)⟩
  | anchor => ⟨anchor, collapse path.parts⟩

def hasNul (path : Path) : Bool :=
  path.parts.any fun part => part.toList.contains '\x00'

example : toString (ofString "a//b/./c/") = "a/b/c" ∧ toString (ofString "") = "." ∧
    toString (ofString "///x") = "/x" ∧ toString (ofString "//x") = "//x" := ⟨rfl, rfl, rfl, rfl⟩

end Path

end Checklist
