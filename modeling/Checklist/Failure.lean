import Checklist.FileTree.Error
import Checklist.Numeral
import Checklist.Task
import Checklist.Text.Template.Value

namespace Checklist

/-- Everything that can go wrong after the command line was understood. -/
inductive Failure where
  | file (error : FileError)
  /-- A stored line is malformed and the file is read strictly. -/
  | corruptLine (path : Path) (lineNumber : Nat) (line : String)
  /-- A stored number has too many digits to be read. -/
  | overlongNumber (digits : Nat)
  /-- A number has too many digits to be written. -/
  | unwritableNumber
  /-- A text to be written has lone surrogates. -/
  | unencodable (text : Text.RawText)
  /-- No number is left for a new task. -/
  | idsExhausted (lastId : Int)
  /-- A file is asked for at a path that names none. -/
  | emptyName (path : Path)
  /-- The tasks to be saved stopped coming. -/
  | sourceFailed (message : String)
  /-- A field that is needed was not given. -/
  | missingField (owner field : String)
  | unknownLevel (name : String)
  /-- A log level was asked for by something that is neither a number nor a name. -/
  | notALevel (shown : String)
  /-- A path starts in the home directory of nobody known. -/
  | unknownHome
  | badTemplate (error : Text.TemplateError)
  /-- The help of a command, filled in, consists of blanks. -/
  | blankHelp
  deriving Repr, DecidableEq

def Failure.message : Failure → String
  | .file error => error.message
  | .corruptLine path lineNumber line =>
    s!"{path}:{lineNumber}: malformed task line: " ++ Text.quote line
  | .overlongNumber digits =>
    s!"Exceeds the limit ({Numeral.maxDigits} digits) for integer string conversion: " ++
      s!"value has {digits} digits; use sys.set_int_max_str_digits() to increase the limit"
  | .unwritableNumber =>
    s!"Exceeds the limit ({Numeral.maxDigits} digits) for integer string conversion; " ++
      "use sys.set_int_max_str_digits() to increase the limit"
  | .unencodable text => Text.encodingComplaint text
  | .idsExhausted lastId => s!"no task id left after {lastId} (max is {Task.maxId})"
  | .emptyName path => "PosixPath(" ++ Text.quote path.toString ++ ") has an empty name"
  | .sourceFailed message => message
  | .missingField owner field =>
    "'" ++ owner ++ "' object has no attribute '" ++ field ++ "'"
  | .unknownLevel name => "Unknown level: " ++ Text.quote name
  | .notALevel shown => "Level not an integer or a valid string: " ++ shown
  | .unknownHome => "Could not determine home directory."
  | .badTemplate error => error.message
  | .blankHelp => "list index out of range"

/-- Whether a command ends with an error message because of the failure. Any other failure is not
    expected and ends the program. -/
def Failure.isExpected : Failure → Bool
  | .file error => error.isSystem
  | .corruptLine .. => true
  | .idsExhausted _ => true
  | _ => false

end Checklist
