import Checklist.Command.BuiltIn
import Checklist.Proofs.TaskFile.Loading

namespace Checklist

namespace TaskFile.Shows

variable {file : TaskFile} {before after : Session} {content? : Option (List UInt8)}

theorem of_continues (hshows : file.Shows before.tree before.directory content?)
    (hapart : before.LogsApart file) (hafter : before.Continues after before.tree) :
    file.Shows after.tree after.directory content? := by
  rw [hafter.directory]
  exact hshows.of_agrees hafter.tree hapart.target

end TaskFile.Shows

namespace BuiltIn

variable {file : TaskFile} {session : Session}

def command : BuiltIn → Command BuiltIn
  | add => ⟨"add", "Add a task.", .words, add⟩
  | list => ⟨"list", "List all tasks.", .nothing, list⟩
  | done => ⟨"done", "Mark a task as done.", .taskId, done⟩
  | remove => ⟨"rm", "Remove a task.", .taskId, remove⟩

/-- Every command is found under its own name, on the command line and when it runs. -/
theorem named?_command (action : BuiltIn) :
    registry.named? action.command.name = some action.command := by
  cases action <;> decide +kernel

theorem find?_command (action : BuiltIn) :
    registry.find? action.command.name = some action.command := by
  cases action <;> decide +kernel

theorem handle_command {request : Request} (action : BuiltIn)
    (hname : request.command = some action.command.name) :
    handle file request =
      (do
        Session.log (Registry.runningRecord (Text.lower action.command.name))
        perform file request action) := by
  have haction : action.command.action = action := by cases action <;> rfl
  rw [handle, hname, Option.getD_some, Registry.handle, find?_command]
  dsimp only
  rw [haction]

/-- The request to run a command on a task. -/
def requestAt (name : String) (id : Int) : Request :=
  { command := some name, id := some id }

/-- A command on one task loads the file, and then either finds no such task or saves the list with
    the task changed. -/
theorem runFrom_performAt (file : TaskFile) (id : Int) (edit? : Int → TaskList → Option TaskList)
    (record : Int → Log.Record) (report : Int → String) (session : Session) :
    ∃ loaded, session.Continues loaded (file.rooted session.tree session.directory) ∧
      (performAt file (some id) edit? record report).runFrom session =
        match file.loadOutcome session.tree session.directory with
        | .error failure => (.error failure, loaded)
        | .ok tasks =>
          match edit? id tasks with
          | none => (.ok (notFoundMessage id), loaded)
          | some edited =>
            (do file.save { tasks := edited }; return report id : Attempt Text.RawText).runFrom
              (loaded.issue (record id)) := by
  obtain ⟨loaded, hload, hloaded⟩ := file.runFrom_load session
  refine ⟨loaded, hloaded, ?_⟩
  rw [performAt, Attempt.runFrom_bind, hload]
  cases file.loadOutcome session.tree session.directory with
  | error failure => rfl
  | ok tasks =>
    dsimp only
    rw [need, Attempt.runFrom_bind, Attempt.runFrom_pure]
    dsimp only
    cases edit? id tasks with
    | none => rfl
    | some edited => rw [Attempt.runFrom_bind, Session.runFrom_log]

/-- Once the tasks were loaded, adding one to them saves the longer list, or fails because no number
    is left. -/
theorem runFrom_performAdd {tasks : TaskList} {loaded : Session} (words : List Text.RawText)
    (hload : file.load.runFrom session = (.ok tasks, loaded)) :
    (performAdd file words).runFrom session =
      match TaskList.add? tasks (Text.spaced words) with
      | none => (.error (.idsExhausted (TaskList.lastId tasks)), loaded)
      | some (grown, task) =>
        (do
          file.save { tasks := grown }
          return s!"Added task {task.id}: " ++ task.text : Attempt Text.RawText).runFrom
            (loaded.issue (TaskList.addedRecord task)) := by
  rw [performAdd, Attempt.runFrom_bind_of_ok hload]
  cases TaskList.add? tasks (Text.spaced words) with
  | none => rfl
  | some added =>
    dsimp only
    rw [Attempt.runFrom_bind, Session.runFrom_log]

end BuiltIn

end Checklist
