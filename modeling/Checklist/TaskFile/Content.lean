import Checklist.Failure
import Checklist.Task
import Checklist.Text.Pieces
import Checklist.Text.Utf8

namespace Checklist

/-- What a line of a task file holds. A malformed line is known by its text, in which invalid bytes
    are replaced. -/
inductive Line where
  | blank
  | task (task : Task)
  | malformed (text : String)
  | overlong (digits : Nat)
  deriving Repr, DecidableEq

namespace Line

/-- The ASCII blanks. Only they make a line blank. -/
def isBlankByte (byte : UInt8) : Bool :=
  byte == 0x20 || (0x09 ≤ byte && byte ≤ 0x0D)

/-- Reads one line, without the line feed that ends it. -/
def ofBytes (raw : List UInt8) : Line :=
  if raw.all isBlankByte then .blank
  else
    match Text.Utf8.decode? raw with
    | none => .malformed (Text.Utf8.decodeLossy raw)
    | some text =>
      match LineReading.ofLine text with
      | .task stored => .task stored
      | .malformed => .malformed text
      | .overlong digits => .overlong digits

end Line

structure Skip where
  lineNumber : Nat
  text : String
  deriving Repr, DecidableEq

/-- What came of reading lines: those passed over, and the tasks unless reading had to stop. -/
structure Reading where
  skips : List Skip
  outcome : Except Failure (List Task)

namespace Reading

/-- Reads numbered lines. The strict reader stops at the first malformed line, the other one goes
    past it; both stop at an overlong number. -/
def ofLines (strict : Bool) (path : Path) : Nat → List Line → Reading
  | _, [] => ⟨[], .ok []⟩
  | number, .blank :: rest => ofLines strict path (number + 1) rest
  | number, .task task :: rest =>
    let reading := ofLines strict path (number + 1) rest
    ⟨reading.skips, reading.outcome.map (task :: ·)⟩
  | number, .malformed text :: rest =>
    if strict then ⟨[], .error (.corruptLine path number text)⟩
    else
      let reading := ofLines strict path (number + 1) rest
      ⟨⟨number, text⟩ :: reading.skips, reading.outcome⟩
  | _, .overlong digits :: _ => ⟨[], .error (.overlongNumber digits)⟩

/-- Reads the content of a file. Line feeds separate lines, and the first line has number one. -/
def ofBytes (strict : Bool) (path : Path) (content : List UInt8) : Reading :=
  ofLines strict path 1 ((Text.pieces 0x0A content).map Line.ofBytes)

end Reading

end Checklist
