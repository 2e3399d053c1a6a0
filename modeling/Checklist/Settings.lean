import Checklist.Failure
import Checklist.FileTree.Access
import Checklist.Text.Case

namespace Checklist

/-- The home directories that the system knows: that of the user, and those of users by name. -/
structure Accounts where
  own : Option String := none
  named : List (String × String) := []
  deriving Repr, DecidableEq

/-- What the settings depend on: six variables that may be unset, and the accounts of the system. -/
structure Environment where
  dataDirectory : Option String := none
  dataFile : Option String := none
  strictLoad : Option String := none
  logLevel : Option String := none
  logFile : Option String := none
  home : Option String := none
  accounts : Accounts := {}
  deriving Repr, DecidableEq

namespace Environment

/-- The environment that named variables make on a system with certain accounts. -/
def ofVariables (valueOf? : String → Option String) (accounts : Accounts := {}) : Environment where
  dataDirectory := valueOf? "TODO_DATA_DIR"
  dataFile := valueOf? "TODO_DATA_FILE"
  strictLoad := valueOf? "TODO_STRICT_LOAD"
  logLevel := valueOf? "TODO_LOG_LEVEL"
  logFile := valueOf? "TODO_LOG_FILE"
  home := valueOf? "HOME"
  accounts := accounts

/-- The home directory that a part of a path stands for. One tilde is the user, whose account counts
    if no variable names a home. With a name behind the tilde it is the user of that name. -/
def homeOf? (environment : Environment) (part : String) : Option String :=
  if part = "~" then environment.home.or environment.accounts.own
  else environment.accounts.named.lookup (String.ofList part.toList.tail)

end Environment

structure Settings where
  dataDirectory : Path
  dataFile : Path
  strictLoad : Bool
  logLevel : String
  logFile : Option Path
  deriving Repr, DecidableEq

namespace Settings

/-- A variable that is set to something other than blanks. -/
def present? (setting : Option String) : Option String :=
  setting.filter (!Text.isAllBlank ·)

/-- The path that starts in a home directory instead of a first part with a tilde. A home directory
    that itself starts with a tilde is as good as none. -/
def expandHome (environment : Environment) (path : Path) : Except Failure Path :=
  match path.anchor, path.parts with
  | .here, first :: rest =>
    if first.toList.head? = some '~' then
      match environment.homeOf? first with
      | none => .error .unknownHome
      | some home =>
        let directory := String.ofList (home.toList.reverse.dropWhile (· == '/')).reverse
        if directory.toList.head? = some '~' then .error .unknownHome
        else
          let start := Path.ofString (if directory = "" then "/" else directory)
          .ok { start with parts := start.parts ++ rest }
    else .ok path
  | _, _ => .ok path

def path? (environment : Environment) (setting : Option String) :
    Except Failure (Option Path) :=
  match present? setting with
  | none => .ok none
  | some text => (expandHome environment (Path.ofString text)).map some

def affirmations : List String := ["1", "true", "yes", "y", "on"]

/-- Whether a variable switches something on, whatever its case and the blanks around it. -/
def isOn (setting : Option String) : Bool :=
  match present? setting with
  | none => false
  | some text => affirmations.contains (Text.lower (Text.strip text))

def dataFileName : String := "tasks.txt"

/-- The level name in a variable, in upper case and without blanks around it. -/
def levelName (setting : Option String) : String :=
  match present? setting with
  | none => "WARNING"
  | some text => Text.upper (Text.strip text)

/-- The settings that an environment makes, with a data directory for when it names none. -/
def ofEnvironment (environment : Environment) (defaultDirectory : Path) :
    Except Failure Settings := do
  let dataDirectory := (← path? environment environment.dataDirectory).getD defaultDirectory
  let dataFile :=
    (← path? environment environment.dataFile).getD (dataDirectory.child dataFileName)
  let logFile ← path? environment environment.logFile
  return {
    dataDirectory, dataFile, logFile
    strictLoad := isOn environment.strictLoad
    logLevel := levelName environment.logLevel }

end Settings

/-- Where tasks are kept when nothing else is said: in the checkout of the program, if there is a
    project file beside a source directory, and else in a directory of the user. -/
def defaultDataDirectory (tree : FileTree) (directory : Location) (application userData : Path) :
    Except FileError Path := do
  match ← tree.peek? directory (application.child "pyproject.toml") with
  | some (.file _) =>
    match ← tree.peek? directory (application.child "src") with
    | some .directory => return application.child ".data"
    | _ => return userData
  | _ => return userData

def userDataDirectory (home : String) : Path :=
  let start := Path.ofString home
  { start with parts := start.parts ++ [".local", "share", "tiny-todo"] }

end Checklist
