import Checklist.Log.Record
import Checklist.Task

namespace Checklist

/-- Tasks in the order in which they were added. Nothing keeps two tasks from having the same
    number, and then the first one stands for both. -/
abbrev TaskList := List Task

namespace TaskList

/-- The largest number in use, and zero for the empty list. -/
def lastId : TaskList → Int
  | [] => 0
  | task :: rest => rest.foldl (fun largest other => max largest other.id) task.id

/-- The number for a new task, which is one more than the largest in use. There is none once that
    one is the largest that can be stored. -/
def nextId? (tasks : TaskList) : Option Int :=
  if tasks.lastId < Task.maxId then some (tasks.lastId + 1) else none

/-- The list with the first task of a number changed, if there is one. -/
def modifyFirst? (change : Task → Task) (id : Int) : TaskList → Option TaskList
  | [] => none
  | task :: rest =>
    if task.id = id then some (change task :: rest)
    else (modifyFirst? change id rest).map (task :: ·)

/-- The list with a new task at its end, and that task. -/
def add? (tasks : TaskList) (text : Text.RawText) : Option (TaskList × Task) :=
  tasks.nextId?.map fun id => (tasks ++ [⟨id, text, false⟩], ⟨id, text, false⟩)

/-- The list with the first task of a number done, if there is one. -/
def markDone? (tasks : TaskList) (id : Int) : Option TaskList :=
  tasks.modifyFirst? Task.complete id

/-- The list without the first task of a number, if there is one. -/
def remove? (id : Int) : TaskList → Option TaskList
  | [] => none
  | task :: rest =>
    if task.id = id then some rest else (remove? id rest).map (task :: ·)

/-- The listing: one row for each task, or a remark that there are none. -/
def listing (tasks : TaskList) : Text.RawText :=
  if tasks.isEmpty then "No tasks yet."
  else (Text.ofString "\n").intercalate (tasks.map Task.row)

def addedRecord (task : Task) : Log.Record :=
  Log.Topic.taskList.record Log.debug s!"Added task id={task.id}"

def doneRecord (id : Int) : Log.Record :=
  Log.Topic.taskList.record Log.debug s!"Marked task id={id} done"

def removedRecord (id : Int) : Log.Record :=
  Log.Topic.taskList.record Log.debug s!"Removed task id={id}"

end TaskList

end Checklist
