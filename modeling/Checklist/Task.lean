import Checklist.Log.Record
import Checklist.Numeral
import Checklist.Text.Raw

namespace Checklist

/-- One entry of the list. The number is any integer; only those from zero to the largest 64-bit
    number can be read back from a file. -/
structure Task where
  id : Int
  text : Text.RawText
  done : Bool := false
  deriving Repr, DecidableEq

/-- The largest number a stored task can have, which is the largest of 64 bits. -/
def Task.maxId : Int := 18446744073709551615

example : Task.maxId = UInt64.size - 1 := rfl

def Task.complete (task : Task) : Task :=
  { task with done := true }

def Task.row (task : Task) : Text.RawText :=
  s!"{task.id} [" ++ (if task.done then "x" else " ") ++ "] " ++ task.text

/-- The mark for a task that is done or not. -/
def Task.flag (task : Task) : Char :=
  if task.done then '1' else '0'

/-- The stored form of a task: number, flag and text with bars between them. Nothing in the text
    is escaped. -/
def Task.line (task : Task) : Text.RawText :=
  s!"{task.id}|{task.flag}|" ++ task.text

/-- Whether the number is short enough to be written. -/
def Task.isWritable (task : Task) : Bool :=
  Numeral.digitCount task.id ≤ Numeral.maxDigits

def Task.hasLineBreak (task : Task) : Bool :=
  task.text.any fun point => point == .char '\n' || point == .char '\r'

def Task.lineRecords (task : Task) : List Log.Record :=
  if task.hasLineBreak then
    [Log.Topic.taskLine.record Log.warning
      s!"Task {task.id} text contains a line break; it will not load back intact"]
  else []

/-- What a stored line turns out to be. An overlong number is a failure of its own. -/
inductive LineReading where
  | task (task : Task)
  | malformed
  | overlong (digits : Nat)
  deriving Repr, DecidableEq

namespace LineReading

open Text (RawText)

/-- The line without any line feeds at its end, and without one carriage return before them. -/
def body (line : RawText) : RawText :=
  match line.reverse.dropWhile (· == .char '\n') with
  | .char '\r' :: rest => rest.reverse
  | rest => rest.reverse

/-- The parts before and after the first bar. -/
def cut? (s : RawText) : Option (RawText × RawText) :=
  match s.dropWhile (· != .char '|') with
  | [] => none
  | _ :: rest => some (s.takeWhile (· != .char '|'), rest)

/-- The number, flag and text fields. Only the first two bars separate fields. -/
def fields? (s : RawText) : Option (RawText × RawText × RawText) := do
  let (number, rest) ← cut? s
  let (flag, text) ← cut? rest
  return (number, flag, text)

/-- The digits of a field that consists of ASCII digits, at least one. -/
def digits? (field : RawText) : Option (List Char) :=
  if !field.isEmpty && field.all (·.char?.any Char.isDigit) then some (Text.characters field)
  else none

/-- Which flag a field is, if it is one. -/
def flag? : RawText → Option Bool
  | [.char '0'] => some false
  | [.char '1'] => some true
  | _ => none

/-- Reads the three fields. The number is looked at before the flag. -/
def ofFields (number flag text : RawText) : LineReading :=
  match digits? number with
  | some digits =>
    if digits.length ≤ Numeral.maxDigits then
      if (Numeral.value digits : Int) ≤ Task.maxId then
        match flag? flag with
        | some done => .task ⟨Numeral.value digits, text, done⟩
        | none => .malformed
      else .malformed
    else .overlong digits.length
  | none => .malformed

/-- Reads a stored line. -/
def ofLine (line : RawText) : LineReading :=
  match fields? (body line) with
  | some (number, flag, text) => ofFields number flag text
  | none => .malformed

end LineReading

example : LineReading.ofLine "007|1|a|b\r\n" = .task ⟨7, "a|b", true⟩ := by rfl

example : LineReading.ofLine "7|2|a" = .malformed := by rfl

end Checklist
