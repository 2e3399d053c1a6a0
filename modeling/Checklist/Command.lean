import Checklist.Session
import Checklist.Text.Case
import Checklist.Text.Raw

namespace Checklist

/-- What a command is given besides its name. -/
inductive Parameter where
  | nothing
  | taskId
  | words
  deriving Repr, DecidableEq

/-- A command: its name, what its help says, what it is given and what it does. -/
structure Command (α : Type) where
  name : String
  summary : String
  parameter : Parameter
  action : α
  deriving Repr, DecidableEq

/-- What the command line asked for. A field is there only if the command takes it. -/
structure Request where
  command : Option String := none
  id : Option Int := none
  words : Option (List Text.RawText) := none
  deriving Repr, DecidableEq

/-- The commands that are known, in the order in which their names were first used. -/
structure Registry (α : Type) where
  commands : List (Command α) := []
  deriving Repr, DecidableEq

namespace Registry

variable {α : Type}

/-- The commands with one put in: in place of the one of its name, or else at the end. -/
def place (command : Command α) : List (Command α) → List (Command α)
  | [] => [command]
  | other :: rest =>
    if other.name = command.name then command :: rest else other :: place command rest

/-- The registry with a command put in under the lower-case form of its name. -/
def register (registry : Registry α) (command : Command α) : Registry α :=
  ⟨place { command with name := Text.lower command.name } registry.commands⟩

def names (registry : Registry α) : List String :=
  registry.commands.map (·.name)

def named? (registry : Registry α) (name : String) : Option (Command α) :=
  registry.commands.find? (·.name == name)

/-- The command that a name means in any case. -/
def find? (registry : Registry α) (name : String) : Option (Command α) :=
  registry.named? (Text.lower name)

def unknownMessage (name : String) : String :=
  s!"Unknown command: {name}. Use --help to list available commands."

def runningRecord (name : String) : Log.Record :=
  Log.Topic.commands.record Log.debug s!"Running command {name}"

/-- Runs the command that a name means, or says that there is none. -/
def handle (registry : Registry α) (perform : α → Attempt Text.RawText) (name : String) :
    Attempt Text.RawText :=
  match registry.find? name with
  | none => return unknownMessage (Text.lower name)
  | some command => do
    Session.log (runningRecord (Text.lower name))
    perform command.action

end Registry

end Checklist
