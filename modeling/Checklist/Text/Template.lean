import Checklist.Text.Template.Form

namespace Checklist.Text.Template

/-- What may come next in a form: marks, then a width, then a point and a precision, then one letter
    of size, and at last the letter that says how to write. -/
inductive Stage where
  | marks
  | width
  | afterWidth
  | point
  | precision
  | afterPrecision
  | letter
  deriving Repr, DecidableEq

/-- The stage and the form after one more character, unless it is the letter that says how to
    write. -/
def extend? (stage : Stage) (form : Form) (c : Char) : Option (Stage × Form) :=
  match if stage = .marks then form.mark? c else none with
  | some marked => some (.marks, marked)
  | none =>
    let digit := c.toNat - '0'.toNat
    if c.isDigit && (stage == .marks || stage == .width) then
      some (.width, { form with width := 10 * form.width + digit })
    else if c.isDigit && (stage == .point || stage == .precision) then
      some (.precision, { form with precision := some (10 * form.precision.getD 0 + digit) })
    else if c == '.' && (stage == .marks || stage == .width || stage == .afterWidth) then
      some (.point, { form with precision := some 0 })
    else if (c == 'h' || c == 'l' || c == 'L') && stage != .letter then some (.letter, form)
    else none

/-- The stage after a star, which takes the width or the precision from the values. -/
def starred? (stage : Stage) : Option Stage :=
  match stage with
  | .marks => some .afterWidth
  | .point => some .afterPrecision
  | _ => none

/-- What the last character read belongs to. A name counts the brackets that are open in it. -/
inductive Mode where
  | plain
  | percent
  | name (depth : Nat) (reversed : List Char)
  | form (stage : Stage) (form : Form)
  deriving Repr, DecidableEq

/-- Where filling in a template stands. The output is last character first. -/
structure State where
  mode : Mode := .plain
  /-- The value that comes next, if one is left. Each is used once. -/
  next : Option TemplateValue
  position : Nat := 0
  output : List Char := []
  deriving Repr, DecidableEq

/-- The state after one more character. -/
def State.advance (state : State) (mode : Mode) : State :=
  { state with mode, position := state.position + 1 }

/-- The state after one more character that ends a form, and the text for the form. -/
def State.emit (state : State) (text : List Char) : State :=
  { state.advance .plain with output := text.reverse ++ state.output }

/-- The state after the value that comes next was used, and the value. -/
def State.take (state : State) : Except TemplateError (State × TemplateValue) :=
  match state.next with
  | some value => .ok ({ state with next := none }, value)
  | none => .error .noValueLeft

/-- Reads a star: the value that comes next is a width or a precision. The only number among the
    values is zero. -/
def State.star (state : State) (stage : Stage) (form : Form) : Except TemplateError State := do
  let (state, value) ← state.take
  if value = .no then return state.advance (.form stage form) else .error .widthNotNumber

def State.stepForm (state : State) (stage : Stage) (form : Form) (c : Char) :
    Except TemplateError State :=
  match if c = '*' then starred? stage else none with
  | some after => state.star after form
  | none =>
    match extend? stage form c with
    | some (stage, form) => do return state.advance (.form stage (← form.checked))
    | none => do
      let (state, value) ← state.take
      return state.emit (← form.write c state.position value)

/-- Reads a character of a name. The name ends at the bracket that closes it, and its field is the
    value that comes next. -/
def State.stepName (fields : List (String × TemplateValue)) (state : State) (depth : Nat)
    (reversed : List Char) (c : Char) : Except TemplateError State :=
  if c = ')' ∧ depth = 0 then
    let name := String.ofList reversed.reverse
    match fields.lookup name with
    | some value => .ok { state.advance (.form .marks {}) with next := some value }
    | none => .error (.unknownName name)
  else
    let inner := if c = '(' then depth + 1 else if c = ')' then depth - 1 else depth
    .ok (state.advance (.name inner (c :: reversed)))

def State.step (fields : List (String × TemplateValue)) (state : State) (c : Char) :
    Except TemplateError State :=
  match state.mode with
  | .plain => .ok (if c = '%' then state.advance .percent else state.emit [c])
  | .percent =>
    if c = '%' then .ok (state.emit ['%'])
    else if c = '(' then .ok (state.advance (.name 0 []))
    else state.stepForm .marks {} c
  | .name depth reversed => state.stepName fields depth reversed c
  | .form stage form => state.stepForm stage form c

/-- The output, if no form is open. -/
def State.finish (state : State) : Except TemplateError (List Char) :=
  match state.mode with
  | .plain => .ok state.output.reverse
  | .name .. => .error .nameEndsEarly
  | _ => .error .endsEarly

/-- Fills in a template: what follows a percent sign says which field is written there, and how. A
    form without a name writes the whole record, and a doubled percent sign stands for one. -/
def fill (fields : List (String × TemplateValue)) (template : String) :
    Except TemplateError String := do
  let start : State := { next := some (.ofFields fields) }
  let state ← template.toList.foldlM (State.step fields) start
  return String.ofList (← state.finish)

example : (fill [("name", .text "ab")] "%(name)4s %% %(name)r").toOption = some "  ab % 'ab'" := by
  decide +kernel

example : fill [("name", .text "ab")] "50% of" = .error (.needsWhole 'o' "dict") := rfl

end Checklist.Text.Template
