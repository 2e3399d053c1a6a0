import Checklist.Text.Printable
import Checklist.Text.Raw

namespace Checklist.Text

/-- The hexadecimal digits of a number, in lower case and with a fixed count of them. -/
def hexDigits : Nat → Nat → List Char
  | 0, _ => []
  | width + 1, n => hexDigits width (n / 16) ++ [Nat.digitChar (n % 16)]

/-- Text in quotes stands in single quotes, unless it has a single quote and no double one. -/
def quoteMark (text : RawText) : Char :=
  if text.contains (.char '\'') && !text.contains (.char '"') then '"' else '\''

/-- How one character is written between two marks: the mark and the backslash behind a
    backslash, three controls by a letter, what cannot be shown by its number, all else plain. -/
def quoteChar (mark c : Char) : List Char :=
  if c == mark || c == '\\' then ['\\', c]
  else if c == '\n' then ['\\', 'n']
  else if c == '\r' then ['\\', 'r']
  else if c == '\t' then ['\\', 't']
  else if isPrintable c then [c]
  else if c.toNat < 0x100 then ['\\', 'x'] ++ hexDigits 2 c.toNat
  else if c.toNat < 0x10000 then ['\\', 'u'] ++ hexDigits 4 c.toNat
  else ['\\', 'U'] ++ hexDigits 8 c.toNat

/-- A lone surrogate by its number. -/
def escapePoint (point : Point) : List Char :=
  ['\\', 'u'] ++ hexDigits 4 point.code

def quotePoint (mark : Char) : Point → List Char
  | .char c => quoteChar mark c
  | point => escapePoint point

/-- A text in quotes, on one line and without characters that cannot be shown. -/
def quote (text : RawText) : String :=
  let mark := quoteMark text
  String.ofList (mark :: text.flatMap (quotePoint mark) ++ [mark])

/-- A text as the error stream shows it. -/
def escapeSurrogates (text : RawText) : String :=
  String.ofList (text.flatMap fun
    | .char c => [c]
    | point => escapePoint point)

/-- The complaint about a text that has no encoding, which tells where lone surrogates first stand
    in it. -/
def encodingComplaint (text : RawText) : String :=
  let front := text.takeWhile (·.char?.isSome)
  let surrogates := (text.drop front.length).takeWhile (·.char?.isNone)
  let place :=
    if surrogates.length ≤ 1 then
      "character '" ++ String.ofList (surrogates.flatMap escapePoint) ++
        s!"' in position {front.length}"
    else s!"characters in position {front.length}-{front.length + surrogates.length - 1}"
  "'utf-8' codec can't encode " ++ place ++ ": surrogates not allowed"

example : quote "it's" = "\"it's\"" ∧ quote [.char 'a', .surrogate 0x4FF] = "'a\\udcff'" :=
  ⟨rfl, rfl⟩

example : encodingComplaint [.char 'a', .surrogate 0x4FF] =
    "'utf-8' codec can't encode character '\\udcff' in position 1: surrogates not allowed" := by
  rfl

end Checklist.Text
