namespace Checklist.Text

/-- Closed ranges of code points, apart from each other and in ascending order. -/
abbrev Ranges := List (Nat × Nat)

/-- Whether a code point lies in one of the ranges. The search stops at the first range that
    starts beyond it. -/
def Ranges.contains : Ranges → Nat → Bool
  | [], _ => false
  | (first, last) :: rest, n => first ≤ n && (n ≤ last || Ranges.contains rest n)

/-- The blank characters of Unicode: the ASCII blanks, the four information separators, and the
    line, paragraph and space separators of every script. -/
def isBlank (c : Char) : Bool :=
  let n := c.toNat
  (0x09 ≤ n && n ≤ 0x0D) || (0x1C ≤ n && n ≤ 0x20) || n == 0x85 || n == 0xA0 || n == 0x1680 ||
    (0x2000 ≤ n && n ≤ 0x200A) || n == 0x2028 || n == 0x2029 || n == 0x202F || n == 0x205F ||
    n == 0x3000

/-- The characters left when those that satisfy `p` are taken off both ends. -/
def trimEnds (p : Char → Bool) (s : List Char) : List Char :=
  ((s.dropWhile p).reverse.dropWhile p).reverse

def strip (text : String) : String :=
  String.ofList (trimEnds isBlank text.toList)

/-- Whether a text holds nothing but blanks. The empty text does. -/
def isAllBlank (text : String) : Bool :=
  text.toList.all isBlank

/-- The zero of each run of ten decimal digits in Unicode 14. The nine other digits of a run
    follow its zero in order. -/
def decimalZeros : List Nat := [
  0x30, 0x660, 0x6F0, 0x7C0, 0x966, 0x9E6, 0xA66, 0xAE6, 0xB66, 0xBE6, 0xC66, 0xCE6, 0xD66, 0xDE6,
  0xE50, 0xED0, 0xF20, 0x1040, 0x1090, 0x17E0, 0x1810, 0x1946, 0x19D0, 0x1A80, 0x1A90, 0x1B50,
  0x1BB0, 0x1C40, 0x1C50, 0xA620, 0xA8D0, 0xA900, 0xA9D0, 0xA9F0, 0xAA50, 0xABF0, 0xFF10, 0x104A0,
  0x10D30, 0x11066, 0x110F0, 0x11136, 0x111D0, 0x112F0, 0x11450, 0x114D0, 0x11650, 0x116C0,
  0x11730, 0x118E0, 0x11950, 0x11C50, 0x11D50, 0x11DA0, 0x16A60, 0x16AC0, 0x16B50, 0x1D7CE,
  0x1D7D8, 0x1D7E2, 0x1D7EC, 0x1D7F6, 0x1E140, 0x1E2F0, 0x1E950, 0x1FBF0]

/-- The value of a decimal digit of any script. -/
def decimalValue? (c : Char) : Option Nat :=
  (decimalZeros.find? fun start => start ≤ c.toNat && c.toNat < start + 10).map (c.toNat - ·)

def isDecimalDigit (c : Char) : Bool :=
  (decimalValue? c).isSome

example : decimalValue? '7' = some 7 ∧ decimalValue? '٣' = some 3 ∧ decimalValue? '½' = none := by
  decide

end Checklist.Text
