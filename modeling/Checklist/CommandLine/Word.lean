import Checklist.Text.Character
import Checklist.Text.Raw

namespace Checklist.CommandLine

open Text (Point RawText)

/-- What a word of the command line is before a parameter is filled. The word of two dashes is not
    among them: it is looked for first. -/
inductive Word where
  | argument
  /-- A way to write the option for help. -/
  | help
  /-- The option for help with something attached that it does not take. -/
  | helpWith (attached : RawText)
  | unknownOption
  deriving Repr, DecidableEq

namespace Word

def isDecimalDigit (point : Point) : Bool :=
  point.char?.any Text.isDecimalDigit

/-- Whether a word is a negative number, with or without a point. One line feed may follow. -/
def isNegativeNumber : RawText → Bool
  | .char '-' :: rest =>
    let number := if rest.getLast? = some (.char '\n') then rest.dropLast else rest
    let fraction := number.dropWhile isDecimalDigit
    match fraction with
    | [] => !number.isEmpty
    | .char '.' :: decimals => !decimals.isEmpty && decimals.all isDecimalDigit
    | _ => false
  | _ => false

/-- Reads letters that are attached to the short option for help. The same letter again asks for
    help again, and nothing else is taken. -/
def ofAttached : RawText → Word
  | [] => .help
  | .char 'h' :: rest => ofAttached rest
  | text => .helpWith text

def longHelp : RawText := "--help"

/-- Reads a word that starts with two dashes. The long option may be cut short. -/
def ofLong (text : RawText) : Option Word :=
  let name := text.takeWhile (· != .char '=')
  if name.isPrefixOf longHelp then
    match text.dropWhile (· != .char '=') with
    | [] => some .help
    | _ :: attached => some (.helpWith attached)
  else none

/-- Reads a word that starts with the short option for help. An equals sign may come before what is
    attached, and then something must be attached. -/
def ofShort : RawText → Word
  | [.char '='] => .helpWith []
  | .char '=' :: attached => ofAttached attached
  | attached => ofAttached attached

/-- Reads a word that starts with a dash and is no option for help. Numbers and words with a
    space are plain words. -/
def ofOther (text : RawText) : Word :=
  if isNegativeNumber text || text.contains (.char ' ') then .argument else .unknownOption

def classify (word : RawText) : Word :=
  match word with
  | [.char '-'] => .argument
  | .char '-' :: .char '-' :: _ => (ofLong word).getD (ofOther word)
  | .char '-' :: .char 'h' :: rest => ofShort rest
  | .char '-' :: _ => ofOther word
  | _ => .argument

example : classify "--he" = .help ∧ classify "-hx" = .helpWith "x" ∧ classify "-5" = .argument ∧
    classify "-x" = .unknownOption := by decide

end Word

end Checklist.CommandLine
