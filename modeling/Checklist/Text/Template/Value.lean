import Checklist.Text.Quoted

namespace Checklist.Text

/-- A value that a template can name. A record is known by how it is shown. -/
inductive TemplateValue where
  | text (text : String)
  | absent
  | no
  | emptyList
  | record (shown : String)
  deriving Repr, DecidableEq

namespace TemplateValue

def shown : TemplateValue → String
  | .text plain => plain
  | .absent => "None"
  | .no => "False"
  | .emptyList => "[]"
  | .record shown => shown

def quoted : TemplateValue → String
  | .text plain => quote plain
  | value => value.shown

def kind : TemplateValue → String
  | .text _ => "str"
  | .absent => "NoneType"
  | .no => "bool"
  | .emptyList => "list"
  | .record _ => "dict"

end TemplateValue

/-- The fields of a template as one value. -/
def TemplateValue.ofFields (fields : List (String × TemplateValue)) : TemplateValue :=
  .record ("\x7b" ++ ", ".intercalate
    (fields.map fun (name, value) => quote name ++ ": " ++ value.quoted) ++ "\x7d")

/-- Why a template cannot be filled in. -/
inductive TemplateError where
  | endsEarly
  | nameEndsEarly
  | unknownName (name : String)
  | noValueLeft
  | widthNotNumber
  | widthTooBig
  | precisionTooBig
  | precisionTooLarge
  | tooLong
  | needsWhole (form : Char) (kind : String)
  | needsNumber (form : Char) (kind : String)
  | needsReal (kind : String)
  | needsCharacter
  | unknownForm (form : Char) (position : Nat)
  deriving Repr, DecidableEq

def TemplateError.message : TemplateError → String
  | .endsEarly => "incomplete format"
  | .nameEndsEarly => "incomplete format key"
  | .unknownName name => quote name
  | .noValueLeft => "not enough arguments for format string"
  | .widthNotNumber => "* wants int"
  | .widthTooBig => "width too big"
  | .precisionTooBig => "precision too big"
  | .precisionTooLarge => "precision too large"
  | .tooLong => ""
  | .needsWhole form kind => s!"%{form} format: an integer is required, not {kind}"
  | .needsNumber form kind => s!"%{form} format: a real number is required, not {kind}"
  | .needsReal kind => s!"must be real number, not {kind}"
  | .needsCharacter => "%c requires int or char"
  | .unknownForm form position =>
    let shown := if 0x1F ≤ form.toNat && form.toNat ≤ 0x7E then form else '?'
    s!"unsupported format character '{shown}' (0x" ++
      String.ofList (Nat.toDigits 16 form.toNat) ++ s!") at index {position}"

/-- Whether a template fails because of what a value is, not how the template is written. -/
def TemplateError.isMismatch : TemplateError → Bool
  | .noValueLeft | .widthNotNumber | .needsWhole .. | .needsNumber .. | .needsReal _
  | .needsCharacter => true
  | _ => false

end Checklist.Text
