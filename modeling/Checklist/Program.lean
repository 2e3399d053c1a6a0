import Checklist.Command.BuiltIn
import Checklist.CommandLine.Help
import Checklist.Log.Setup
import Checklist.Settings

namespace Checklist

/-- What a run is told before it looks at its command line. A run without a data file fails when it
    needs one. -/
structure Configuration where
  dataFile : Option Path := none
  strictLoad : Bool := false
  logLevel : String := "WARNING"
  logFile : Option Path := none
  deriving Repr, DecidableEq

/-- The configuration that settings make. -/
def Settings.configuration (settings : Settings) : Configuration where
  dataFile := some settings.dataFile
  strictLoad := settings.strictLoad
  logLevel := settings.logLevel
  logFile := settings.logFile

/-- How a run ends when nothing unexpected happens: its exit code and what it printed. -/
structure Ending where
  code : Nat
  output : Text.RawText := []
  deriving Repr, DecidableEq

namespace Program

def success : Nat := 0
def storageError : Nat := 1
def usageError : Nat := 2

def description : String := "Tiny CLI todo app"

def failedRecord (name : String) : Log.Record :=
  { Log.Topic.program.record Log.debug s!"Command {name} failed" with traced := true }

/-- The level that the console gets for a level name in any case. -/
def consoleLevel (name : String) : Log.LevelChoice :=
  Log.LevelChoice.ofName (Text.upper name)

/-- A help text, or the failure that it cannot be filled in. -/
def helpText (command : Option (Command BuiltIn)) : Attempt String :=
  match CommandLine.help (some description) BuiltIn.registry command with
  | .ok text => return text
  | .error failure => throw failure

/-- Runs a command. An expected failure is reported on the error stream. -/
def perform (file : TaskFile) (request : Request) : Attempt Ending :=
  tryCatch
    (do
      let output ← BuiltIn.handle file request
      return { code := success, output := output ++ "\n" })
    fun failure =>
      if failure.isExpected then do
        Session.log (failedRecord (request.command.getD ""))
        Session.printError s!"error: {failure.message}\n"
        return { code := storageError }
      else throw failure

/-- Answers a command line that was understood. Without a command there is help on the error
    stream. -/
def answer (configuration : Configuration) (request : Request) : Attempt Ending :=
  match request.command with
  | none | some "" => do
    Session.printError (← helpText none)
    return { code := usageError }
  | some _ =>
    match configuration.dataFile with
    | none => throw (.missingField "types.SimpleNamespace" "data_file")
    | some path => perform { path, strict := configuration.strictLoad } request

/-- Runs the program: sets up logging, reads the command line and answers it. -/
def run (configuration : Configuration) (words : List Text.RawText) : Attempt Ending := do
  let setup : Log.Setup :=
    { console := consoleLevel configuration.logLevel, file := configuration.logFile }
  setup.apply
  match CommandLine.parse BuiltIn.registry words with
  | .help command => return { code := success, output := ← helpText command }
  | .misuse command message =>
    Session.printError (CommandLine.complaint command message)
    return { code := usageError }
  | .request request => answer configuration request

end Program

end Checklist
