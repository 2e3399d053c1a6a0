import Checklist.Text.Character
import Checklist.Text.Pieces

namespace Checklist.Numeral

/-- The most digits a number may have when it is read or written. Leading zeros count. -/
def maxDigits : Nat := 4300

/-- The value of a sequence of ASCII digits, most significant first. -/
def value (digits : List Char) : Nat :=
  Nat.ofDigitChars 10 digits 0

/-- A blank that may surround a number: any blank but the four information separators. -/
def isMargin (c : Char) : Bool :=
  Text.isBlank c && !(0x1C ≤ c.toNat && c.toNat ≤ 0x1F)

/-- Splits off a sign. The flag tells whether the number is negative. -/
def splitSign : List Char → Bool × List Char
  | '+' :: rest => (false, rest)
  | '-' :: rest => (true, rest)
  | s => (false, s)

/-- The values of the digits, if there are only digits of any script and single underscores
    between them. -/
def digitValues? (s : List Char) : Option (List Nat) :=
  let groups := Text.pieces '_' s
  if groups.all (!·.isEmpty) then groups.flatten.mapM Text.decimalValue? else none

/-- Reads an integer as a person may type it: blanks around it, a sign, digits of any script, and
    underscores between digits. -/
def parse? (text : String) : Option Int := do
  let (negative, body) := splitSign (Text.trimEnds isMargin text.toList)
  let digits ← digitValues? body
  guard (digits.length ≤ maxDigits)
  let magnitude : Nat := digits.foldl (fun total digit => 10 * total + digit) 0
  return if negative then -magnitude else magnitude

/-- The count of decimal digits of an integer. -/
def digitCount (n : Int) : Nat :=
  (Nat.toDigits 10 n.natAbs).length

example : parse? " +1_0\n" = some 10 ∧ parse? "-0" = some 0 ∧ parse? "1__0" = none :=
  ⟨rfl, rfl, rfl⟩

end Checklist.Numeral
