import Checklist.Command
import Checklist.TaskFile
import Checklist.TaskFile.Save
import Checklist.TaskList

namespace Checklist

inductive BuiltIn where
  | add
  | list
  | done
  | remove
  deriving Repr, DecidableEq

namespace BuiltIn

/-- A field of the request, or the failure that it was not given. -/
def need {α : Type} (field : String) : Option α → Attempt α
  | some value => return value
  | none => throw (.missingField "Namespace" field)

def notFoundMessage (id : Int) : String :=
  s!"Task {id} not found."

/-- Adds a task whose text is the words with single spaces between them. -/
def performAdd (file : TaskFile) (words : List Text.RawText) : Attempt Text.RawText := do
  let tasks ← file.load
  match TaskList.add? tasks (Text.spaced words) with
  | none => throw (.idsExhausted (TaskList.lastId tasks))
  | some (grown, task) =>
    Session.log (TaskList.addedRecord task)
    file.save { tasks := grown }
    return s!"Added task {task.id}: " ++ task.text

def performList (file : TaskFile) : Attempt Text.RawText := do
  return TaskList.listing (← file.load)

/-- Changes the list at one task and saves it, or says that the task is not there. -/
def performAt (file : TaskFile) (id? : Option Int) (edit? : Int → TaskList → Option TaskList)
    (record : Int → Log.Record) (report : Int → String) : Attempt Text.RawText := do
  let tasks ← file.load
  let id ← need "id" id?
  match edit? id tasks with
  | none => return notFoundMessage id
  | some edited =>
    Session.log (record id)
    file.save { tasks := edited }
    return report id

def performDone (file : TaskFile) (id? : Option Int) : Attempt Text.RawText :=
  performAt file id? (fun id tasks => TaskList.markDone? tasks id) TaskList.doneRecord
    fun id => s!"Marked {id} done."

def performRemove (file : TaskFile) (id? : Option Int) : Attempt Text.RawText :=
  performAt file id? TaskList.remove? TaskList.removedRecord fun id => s!"Removed {id}."

/-- Does what was asked with the tasks of a file. -/
def perform (file : TaskFile) (request : Request) : BuiltIn → Attempt Text.RawText
  | .add => do performAdd file (← need "text" request.words)
  | .list => performList file
  | .done => performDone file request.id
  | .remove => performRemove file request.id

def registry : Registry BuiltIn :=
  [⟨"add", "Add a task.", .words, add⟩, ⟨"list", "List all tasks.", .nothing, list⟩,
    ⟨"done", "Mark a task as done.", .taskId, done⟩,
    ⟨"rm", "Remove a task.", .taskId, remove⟩].foldl Registry.register {}

/-- Does what the command of a request says, in any case of its name. -/
def handle (file : TaskFile) (request : Request) : Attempt Text.RawText :=
  registry.handle (perform file request) (request.command.getD "")

end BuiltIn

end Checklist
