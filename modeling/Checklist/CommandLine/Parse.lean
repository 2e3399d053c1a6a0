import Checklist.Command
import Checklist.CommandLine.Word
import Checklist.Numeral
import Checklist.Text.Quoted

namespace Checklist.CommandLine

open Text (RawText)

/-- Why reading a command line stops early. -/
inductive Stop where
  /-- Help was asked for. -/
  | help
  /-- The line cannot be understood, for a reason given as a message. -/
  | misuse (message : String)
  deriving Repr, DecidableEq

/-- The reason that something is attached to the option for help. -/
def attachedMessage (attached : RawText) : String :=
  "argument -h/--help: ignored explicit argument " ++ Text.quote attached

inductive Value where
  | taskId (id : Int)
  | words (words : List RawText)
  deriving Repr, DecidableEq

/-- How far a parameter is filled. An open one takes more words that follow at once, a closed one
    takes none. -/
inductive Slot where
  | empty
  | opened (value : Value)
  | closed (value : Option Value)
  deriving Repr, DecidableEq

def Slot.value? : Slot → Option Value
  | .empty => none
  | .opened value => some value
  | .closed value => value

/-- The slot when an option comes between. -/
def Slot.close : Slot → Slot
  | .opened value => .closed (some value)
  | slot => slot

/-- The slot of a parameter before any word. Without a parameter there is nothing to fill. -/
def Slot.start : Parameter → Slot
  | .nothing => .closed none
  | _ => .empty

/-- The number of a task as typed. It must not be negative. -/
def taskId (word : RawText) : Except Stop Value :=
  match (Text.string? word).bind Numeral.parse? with
  | some id =>
    if 0 ≤ id then .ok (.taskId id)
    else .error (.misuse ("argument id: invalid task id: " ++ Text.quote word))
  | none => .error (.misuse ("argument id: invalid task id: " ++ Text.quote word))

/-- The value that the first word gives to a parameter. -/
def firstValue (parameter : Parameter) (word : RawText) : Except Stop Value :=
  match parameter with
  | .taskId => taskId word
  | _ => .ok (.words [word])

/-- The slot after a plain word, and the word itself if it found no place. -/
def Slot.take (parameter : Parameter) (word : RawText) :
    Slot → Except Stop (Slot × List RawText)
  | .empty => do return (.opened (← firstValue parameter word), [])
  | .opened (.words words) => .ok (.opened (.words (words ++ [word])), [])
  | .opened value => .ok (.closed (some value), [word])
  | .closed value => .ok (.closed value, [word])

/-- The slot after two dashes and all words after them, none of which is an option any more, and
    the words that found no place. Where a word is taken the two dashes vanish. -/
def Slot.finish (parameter : Parameter) (words : List RawText) :
    Slot → Except Stop (Slot × List RawText)
  | .empty =>
    match parameter, words with
    | _, [] => .ok (.empty, ["--"])
    | .words, _ => .ok (.closed (some (.words words)), [])
    | _, word :: rest => do return (.closed (some (← firstValue parameter word)), rest)
  | .opened (.words taken) => .ok (.closed (some (.words (taken ++ words))), [])
  | .opened value => .ok (.closed (some value), words)
  | .closed value => .ok (.closed value, "--" :: words)

/-- Reads the words after the name of a command: what fills the slot, and the words that found no
    place. -/
def fill (parameter : Parameter) : Slot → List RawText → Except Stop (Slot × List RawText)
  | slot, [] => .ok (slot, [])
  | slot, word :: rest =>
    if word = "--" then slot.finish parameter rest
    else
      match Word.classify word with
      | .help => .error .help
      | .helpWith attached => .error (.misuse (attachedMessage attached))
      | .unknownOption => do
        let (slot, strays) ← fill parameter slot.close rest
        return (slot, word :: strays)
      | .argument => do
        let (slot, left) ← slot.take parameter word
        let (slot, strays) ← fill parameter slot rest
        return (slot, left ++ strays)

def Parameter.label : Parameter → String
  | .nothing => ""
  | .taskId => "id"
  | .words => "text"

/-- Reads the words after the name of a command: the value of its parameter, and the words that
    found no place. A parameter that is not filled is a misuse. -/
def readParameter (parameter : Parameter) (words : List RawText) :
    Except Stop (Option Value × List RawText) := do
  let (slot, strays) ← fill parameter (Slot.start parameter) words
  match slot with
  | .empty =>
    .error (.misuse ("the following arguments are required: " ++ Parameter.label parameter))
  | slot => return (slot.value?, strays)

/-- The words up to the name of a command: the unknown options among them, and the name with the
    words after it. Two dashes are a name like any other if words follow them. -/
def findCommand :
    List RawText → Except Stop (List RawText × Option (RawText × List RawText))
  | [] => .ok ([], none)
  | word :: rest =>
    if word = "--" then
      .ok (if rest.isEmpty then (["--"], none) else ([], some (word, rest)))
    else
      match Word.classify word with
      | .help => .error .help
      | .helpWith attached => .error (.misuse (attachedMessage attached))
      | .unknownOption => do
        let (strays, command) ← findCommand rest
        return (word :: strays, command)
      | .argument => .ok ([], some (word, rest))

/-- The reason that a name is not among those that can be chosen. -/
def choiceMessage (names : List String) (name : RawText) : String :=
  "argument COMMAND: invalid choice: " ++ Text.quote name ++ " (choose from " ++
    ", ".intercalate (names.map fun (other : String) => Text.quote other) ++ ")"

/-- The reason that words found no place. -/
def strayMessage (strays : List RawText) : String :=
  "unrecognized arguments: " ++ Text.escapeSurrogates (Text.spaced strays)

/-- What a command line comes to. Help and misuse concern one command once its name was read, and
    the program as a whole before. -/
inductive Parsed (α : Type) where
  | request (request : Request)
  | help (command : Option (Command α))
  | misuse (command : Option (Command α)) (message : String)
  deriving Repr, DecidableEq

/-- What a reader's stop means for a command, or for the program. -/
def Stop.parsed {α : Type} (command : Option (Command α)) : Stop → Parsed α
  | .help => .help command
  | .misuse message => .misuse command message

def requestFor (name : String) : Option Value → Request
  | none => { command := some name }
  | some (.taskId id) => { command := some name, id := some id }
  | some (.words words) => { command := some name, words := some words }

/-- Reads a command line. The name of the command must be one of the registry's, in their case.
    Words that found no place are a misuse of the program. -/
def parse {α : Type} (registry : Registry α) (words : List RawText) : Parsed α :=
  match findCommand words with
  | .error stop => stop.parsed none
  | .ok (strays, none) =>
    if strays.isEmpty then .request {} else .misuse none (strayMessage strays)
  | .ok (strays, some (name, rest)) =>
    match (Text.string? name).bind registry.named? with
    | none => .misuse none (choiceMessage registry.names name)
    | some command =>
      match readParameter command.parameter rest with
      | .error stop => stop.parsed (some command)
      | .ok (value, more) =>
        if (strays ++ more).isEmpty then .request (requestFor command.name value)
        else .misuse none (strayMessage (strays ++ more))

end Checklist.CommandLine
