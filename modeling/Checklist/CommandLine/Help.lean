import Checklist.CommandLine.Parse
import Checklist.Text.Template
import Checklist.Text.Wrap

namespace Checklist.CommandLine

def programName : String := "todo"

def textWidth : Nat := 78

/-- The column in which help starts at the latest. -/
def maxHelpColumn : Nat := 24

def spaces (count : Nat) : String :=
  String.ofList (List.replicate count ' ')

/-- The text with no more than one empty line in a row, with none at its ends and with a line feed
    at its end. -/
def tidy (text : String) : String :=
  let rec squeeze : Nat → List Char → List Char
    | _, [] => []
    | seen, '\n' :: rest => if seen ≤ 1 then '\n' :: squeeze (seen + 1) rest else squeeze seen rest
    | _, c :: rest => c :: squeeze 0 rest
  String.ofList (Text.trimEnds (· == '\n') (squeeze 0 text.toList)) ++ "\n"

def commandName {α : Type} (command : Command α) : String :=
  programName ++ " " ++ command.name

/-- How a parameter is shown in a usage line. -/
def Parameter.usage : Parameter → List String
  | .nothing => []
  | .taskId => ["id"]
  | .words => ["text", "[text ...]"]

/-- What a parameter is for. -/
def Parameter.help : Parameter → String
  | .nothing => ""
  | .taskId => "task id"
  | .words => "task text (words are joined with spaces)"

def usageLead : String := "usage: "

/-- A usage line for a name and what follows it. One that is too long is broken: after the
    option, if the name is short, and else after the name. -/
def usageOf (name : String) (following : List String) : String :=
  let whole := " ".intercalate (name :: "[-h]" :: following)
  let start := usageLead.length + name.length
  if usageLead.length + whole.length ≤ textWidth then usageLead ++ whole
  else if 4 * start ≤ 3 * textWidth then
    let second := if following.isEmpty then [] else [spaces (start + 1) ++ " ".intercalate following]
    usageLead ++ "\n".intercalate ((name ++ " [-h]") :: second)
  else
    usageLead ++ name ++ "\n" ++ spaces usageLead.length ++ " ".intercalate ("[-h]" :: following)

def programUsage : String :=
  tidy (usageOf programName ["COMMAND ..."])

def commandUsage {α : Type} (command : Command α) : String :=
  tidy (usageOf (commandName command) (Parameter.usage command.parameter))

/-- What a row says beside its label. Help of blanks only says nothing, but has its place. -/
inductive RowHelp where
  | absent
  | blank
  | text (text : String)
  deriving Repr, DecidableEq

/-- A row of a help text: something that can be given and what it does. -/
structure Row where
  indent : Nat
  label : String
  help : RowHelp := .absent
  deriving Repr, DecidableEq

/-- The column in which the help starts beside some labels. How far a row is indented does not
    count. -/
def helpColumn (labels : List String) : Nat :=
  min ((labels.map (·.length + 2)).foldl max 0 + 2) maxHelpColumn

/-- A row as text. A label that reaches into the column of the help has a line for itself. A text
    that is empty leaves its line open, and one of blanks only has no first line to show. -/
def Row.render (column : Nat) (row : Row) : Except Failure String :=
  let room := column - row.indent - 2
  let fits := row.label.length ≤ room
  let label := spaces row.indent ++ row.label
  let head := if fits then label ++ spaces (room - row.label.length) ++ "  " else label ++ "\n"
  match row.help with
  | .absent => .ok (label ++ "\n")
  | .blank => .ok (if fits then head ++ "\n" else head)
  | .text text =>
    if text = "" then .ok head
    else
      match Text.Wrap.lines (max (textWidth - column) 11) text with
      | [] => .error .blankHelp
      | first :: rest =>
        .ok (head ++ (if fits then "" else spaces column) ++ first ++ "\n" ++
          String.join (rest.map fun line => spaces column ++ line ++ "\n"))

def helpRow : Row :=
  ⟨2, "-h, --help", .text "show this help message and exit"⟩

/-- The row of a parameter, if there is one. -/
def parameterRows : Parameter → List Row
  | .nothing => []
  | parameter => [⟨2, Parameter.label parameter, .text (Parameter.help parameter)⟩]

/-- What the help of a command can name. -/
def helpFields {α : Type} (command : Command α) : List (String × Text.TemplateValue) :=
  [("option_strings", .emptyList), ("dest", .text command.name), ("nargs", .absent),
    ("const", .absent), ("default", .absent), ("type", .absent), ("choices", .absent),
    ("required", .no), ("help", .text command.summary), ("metavar", .text command.name),
    ("prog", .text programName)]

/-- What the row of a command says. -/
def commandRowHelp {α : Type} (command : Command α) : Except Failure RowHelp :=
  if command.summary = "" then .ok .absent
  else if Text.isAllBlank command.summary then .ok .blank
  else
    match Text.Template.fill (helpFields command) command.summary with
    | .ok text => .ok (.text text)
    | .error error => .error (.badTemplate error)

/-- The row of a command as text. -/
def commandRow {α : Type} (column : Nat) (command : Command α) : Except Failure String := do
  Row.render column ⟨4, command.name, ← commandRowHelp command⟩

def paragraph (text : String) : String :=
  "\n".intercalate (Text.Wrap.lines textWidth text) ++ "\n\n"

/-- A section of a help text, which is left out if it has no rows. -/
def titled (title : String) (rows : List String) : String :=
  if rows.isEmpty then "" else "\n" ++ title ++ ":\n" ++ String.join rows ++ "\n"

/-- A help text from a usage text, a paragraph that describes, and the rows of what can be given. -/
def helpOf (usage description : String) (positional options : List String) : String :=
  tidy (usage ++ "\n" ++ description ++ titled "positional arguments" positional ++
    titled "options" options)

def programHelp {α : Type} (description : Option String) (registry : Registry α) :
    Except Failure String := do
  let commandsRow : Row := ⟨2, "COMMAND", .absent⟩
  let column := helpColumn (helpRow.label :: commandsRow.label :: registry.names)
  let first ← commandsRow.render column
  let rows ← registry.commands.mapM (commandRow column)
  let options ← helpRow.render column
  return helpOf programUsage ((description.map paragraph).getD "") (first :: rows) [options]

/-- What a command does, for its own help. Only a summary that names the program is a template
    there. -/
def commandDescription {α : Type} (command : Command α) : Except Text.TemplateError String :=
  if (command.summary.splitOn "%(prog)").length ≤ 1 then .ok command.summary
  else Text.Template.fill [("prog", .text (commandName command))] command.summary

def commandHelp {α : Type} (command : Command α) : Except Failure String := do
  let description ← (commandDescription command).mapError Failure.badTemplate
  let given := parameterRows command.parameter
  let column := helpColumn ((helpRow :: given).map (·.label))
  let rows ← given.mapM (Row.render column)
  let options ← helpRow.render column
  return helpOf (commandUsage command) (paragraph description) rows [options]

/-- The help text of a command, or of the program where there is none. -/
def help {α : Type} (description : Option String) (registry : Registry α) :
    Option (Command α) → Except Failure String
  | none => programHelp description registry
  | some command => commandHelp command

/-- What is written about a misuse of a command, or of the program where there is none: how it is
    used, and what is wrong. -/
def complaint {α : Type} (command : Option (Command α)) (message : String) : String :=
  match command with
  | none => programUsage ++ programName ++ s!": error: {message}\n"
  | some command => commandUsage command ++ commandName command ++ s!": error: {message}\n"

end Checklist.CommandLine
