import Checklist.Text.Template.Value

namespace Checklist.Text

/-- How a value is to be written: marks, a least width and a precision. -/
structure Form where
  left : Bool := false
  plus : Bool := false
  blank : Bool := false
  alternate : Bool := false
  zeros : Bool := false
  width : Nat := 0
  precision : Option Nat := none
  deriving Repr, DecidableEq

namespace Form

def maxWidth : Nat := 9223372036854775807

def maxPrecision : Nat := 2147483647

/-- The greatest precision with which a whole number can be written. -/
def maxDigits : Nat := 2147483644

/-- The greatest count of characters for which there is room when a value is written. -/
def maxLength : Nat := 1073741824

/-- The form, if its width and precision are in bounds. -/
def checked (form : Form) : Except TemplateError Form :=
  if maxWidth < form.width then .error .widthTooBig
  else if maxPrecision < form.precision.getD 0 then .error .precisionTooBig
  else .ok form

/-- The form with one more mark, if the character is one. -/
def mark? (form : Form) : Char → Option Form
  | '-' => some { form with left := true }
  | '+' => some { form with plus := true }
  | ' ' => some { form with blank := true }
  | '#' => some { form with alternate := true }
  | '0' => some { form with zeros := true }
  | _ => none

/-- A value that is written, but not yet brought to its width. Zeros may come between the lead and
    the body of a number. -/
structure Written where
  lead : List Char := []
  body : List Char
  isNumber : Bool := false
  deriving Repr, DecidableEq

/-- Brings what is written to the width, with zeros or with spaces. -/
def layOut (form : Form) (written : Written) : List Char :=
  let text := written.lead ++ written.body
  let missing := form.width - text.length
  if form.left then text ++ List.replicate missing ' '
  else if form.zeros && written.isNumber then
    written.lead ++ List.replicate missing '0' ++ written.body
  else List.replicate missing ' ' ++ text

/-- A text, of which the precision limits the length. -/
def textWritten (form : Form) (text : String) : Written where
  body :=
    match form.precision with
    | some limit => text.toList.take limit
    | none => text.toList

/-- A number that is not negative, from what stands before its digits and the digits. -/
def numberWritten (form : Form) (lead digits : List Char) : Written where
  lead := (if form.plus then ['+'] else if form.blank then [' '] else []) ++ lead
  body := digits
  isNumber := true

def asciiOnly (text : String) : String :=
  String.ofList (text.toList.flatMap fun c =>
    if c.toNat < 0x80 then [c]
    else if c.toNat < 0x100 then ['\\', 'x'] ++ hexDigits 2 c.toNat
    else if c.toNat < 0x10000 then ['\\', 'u'] ++ hexDigits 4 c.toNat
    else ['\\', 'U'] ++ hexDigits 8 c.toNat)

/-- A value as a whole number, which only `no` is: it is zero. The precision is the least count of
    digits. -/
def whole (form : Form) (lead : List Char) (error : TemplateError) :
    TemplateValue → Except TemplateError Written
  | .no =>
    let digits := max 1 (form.precision.getD 1)
    if maxDigits < digits then .error .precisionTooLarge
    else if maxLength < digits then .error .tooLong
    else .ok (form.numberWritten (if form.alternate then lead else []) (List.replicate digits '0'))
  | _ => .error error

/-- A value as a number with a point, as many decimals as the precision says, else six, and then
    what is at its end. -/
def fixed (form : Form) (ending : String) : TemplateValue → Except TemplateError Written
  | .no =>
    let decimals := form.precision.getD 6
    let point := if decimals = 0 && !form.alternate then [] else ['.']
    if maxLength < decimals then .error .tooLong
    else
      .ok (form.numberWritten [] ('0' :: point ++ List.replicate decimals '0' ++ ending.toList))
  | value => .error (.needsReal value.kind)

/-- A value as a number with a point, but without idle decimals unless they are asked for. -/
def short (form : Form) : TemplateValue → Except TemplateError Written
  | .no =>
    let decimals := max 1 (form.precision.getD 6) - 1
    if !form.alternate then .ok (form.numberWritten [] ['0'])
    else if maxLength < decimals then .error .tooLong
    else .ok (form.numberWritten [] ('0' :: '.' :: List.replicate decimals '0'))
  | value => .error (.needsReal value.kind)

def character : TemplateValue → Except TemplateError Written
  | .no => .ok { body := ['\x00'] }
  | .text text =>
    match text.toList with
    | [c] => .ok { body := [c] }
    | _ => .error .needsCharacter
  | _ => .error .needsCharacter

/-- A value in the way that a letter at a position of the template asks for. -/
def written (form : Form) (letter : Char) (position : Nat) (value : TemplateValue) :
    Except TemplateError Written :=
  match letter with
  | 's' => .ok (form.textWritten value.shown)
  | 'r' => .ok (form.textWritten value.quoted)
  | 'a' => .ok (form.textWritten (asciiOnly value.quoted))
  | 'c' => character value
  | 'd' | 'i' | 'u' => form.whole [] (.needsNumber letter value.kind) value
  | 'o' | 'x' | 'X' => form.whole ['0', letter] (.needsWhole letter value.kind) value
  | 'f' | 'F' => form.fixed "" value
  | 'e' => form.fixed "e+00" value
  | 'E' => form.fixed "E+00" value
  | 'g' | 'G' => form.short value
  | _ => .error (.unknownForm letter position)

/-- Writes a value in the way that a letter at a position of the template asks for, and brings it to
    the width. -/
def write (form : Form) (letter : Char) (position : Nat) (value : TemplateValue) :
    Except TemplateError (List Char) := do
  let written ← form.written letter position value
  if maxLength < form.width then .error .tooLong else return form.layOut written

end Form

end Checklist.Text
