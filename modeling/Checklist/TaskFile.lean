import Checklist.Session
import Checklist.TaskFile.Content

namespace Checklist

/-- A file of tasks, one on each line. A strict one refuses malformed lines, another one skips
    them. -/
structure TaskFile where
  path : Path
  strict : Bool := false
  deriving Repr, DecidableEq

namespace TaskFile

/-- The file that is written before it takes the place of the old one: the same name with an
    ending, in the same directory. There is none for a path without a name. -/
def draft? (file : TaskFile) : Option Path :=
  file.path.withName? (file.path.name ++ ".tmp")

def draft (file : TaskFile) : Attempt Path :=
  match file.draft? with
  | some path => return path
  | none => throw (.emptyName file.path)

/-- Makes the directory of the file and every missing directory on the way to it. -/
def ensureDirectory (file : TaskFile) : Attempt Unit :=
  Session.makeDirectories file.path.parent

def absentRecord (file : TaskFile) : Log.Record :=
  Log.Topic.taskFile.record Log.debug s!"No task file at {file.path}, starting empty"

def skipRecord (file : TaskFile) (skip : Skip) : Log.Record :=
  Log.Topic.taskFile.record Log.info
    (s!"Skipping malformed line {skip.lineNumber} in {file.path}: " ++ Text.quote skip.text)

def loadedRecord (file : TaskFile) (loaded skipped : Nat) : Log.Record :=
  Log.Topic.taskFile.record Log.debug
    s!"Loaded {loaded} tasks from {file.path} (skipped={skipped})"

/-- The tasks of the content of the file. -/
def interpret (file : TaskFile) (content : List UInt8) : Attempt (List Task) := do
  let reading := Reading.ofBytes file.strict file.path content
  Session.logAll (reading.skips.map file.skipRecord)
  match reading.outcome with
  | .ok tasks =>
    Session.log (file.loadedRecord tasks.length reading.skips.length)
    return tasks
  | .error failure => throw failure

/-- The tasks in the file. A file that is not there holds none, but its directory is made. -/
def load (file : TaskFile) : Attempt (List Task) := do
  file.ensureDirectory
  match ← Session.peek? file.path with
  | none =>
    Session.log file.absentRecord
    return []
  | some _ => file.interpret (← Session.read file.path)

end TaskFile

end Checklist
