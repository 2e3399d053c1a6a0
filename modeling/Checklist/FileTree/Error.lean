import Checklist.Path
import Checklist.Text.Quoted

namespace Checklist

/-- Why the system refuses an operation on files. -/
inductive Refusal where
  | missing
  | busy
  | occupied
  | notDirectory
  | isDirectory
  | invalid
  | nameTooLong
  | notEmpty
  deriving Repr, DecidableEq

def Refusal.number : Refusal → Nat
  | .missing => 2
  | .busy => 16
  | .occupied => 17
  | .notDirectory => 20
  | .isDirectory => 21
  | .invalid => 22
  | .nameTooLong => 36
  | .notEmpty => 39

def Refusal.text : Refusal → String
  | .missing => "No such file or directory"
  | .busy => "Device or resource busy"
  | .occupied => "File exists"
  | .notDirectory => "Not a directory"
  | .isDirectory => "Is a directory"
  | .invalid => "Invalid argument"
  | .nameTooLong => "File name too long"
  | .notEmpty => "Directory not empty"

/-- How an operation on files fails. A fault is a failure from outside, known by its message only.
    A path with a NUL never reaches the system. -/
inductive FileError where
  | refused (reason : Refusal) (path : Path)
  | renameRefused (reason : Refusal) (source target : Path)
  | fault (message : String)
  | nulInPath
  deriving Repr, DecidableEq

def FileError.message : FileError → String
  | .refused reason path =>
    s!"[Errno {reason.number}] {reason.text}: " ++ Text.quote path.toString
  | .renameRefused reason source target =>
    s!"[Errno {reason.number}] {reason.text}: " ++ Text.quote source.toString ++ " -> " ++
      Text.quote target.toString
  | .fault message => message
  | .nulInPath => "embedded null byte"

/-- Whether the failure comes from the system, or from outside as if it did. -/
def FileError.isSystem : FileError → Bool
  | .nulInPath => false
  | _ => true

end Checklist
