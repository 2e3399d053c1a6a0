import Checklist.TaskList

namespace Checklist

/-- A list whose tasks are changed in place. A task can be reached by reference, whether or not it
    stands in the list. -/
structure SharedTasks where
  /-- Every task that was made. A reference to a task is its position here. -/
  made : List Task := []
  /-- The list, by reference. One task may stand in it more than once. -/
  refs : List Nat := []
  refs_lt : ∀ ref ∈ refs, ref < made.length := by decide

namespace SharedTasks

/-- A list in which no task stands twice. -/
def ofTasks (tasks : TaskList) : SharedTasks where
  made := tasks
  refs := List.range tasks.length
  refs_lt := fun _ hmem => List.mem_range.mp hmem

/-- The list as it is read now. -/
def tasks (shared : SharedTasks) : TaskList :=
  shared.refs.filterMap (shared.made[·]?)

/-- Whether a reference leads to a task of a number. -/
def leadsTo (shared : SharedTasks) (id : Int) (ref : Nat) : Bool :=
  shared.made[ref]?.any (·.id == id)

/-- A reference to the first task of a number. -/
def find? (shared : SharedTasks) (id : Int) : Option Nat :=
  shared.refs.find? (shared.leadsTo id)

/-- Changes a task, wherever it stands. -/
def modify (shared : SharedTasks) (ref : Nat) (change : Task → Task) : SharedTasks where
  made := shared.made.modify ref change
  refs := shared.refs
  refs_lt := by simpa using shared.refs_lt

@[simp] theorem refs_modify (shared : SharedTasks) (ref : Nat) (change : Task → Task) :
    (shared.modify ref change).refs = shared.refs := rfl

/-- Takes a task out of the list, once. It can still be reached. -/
def erase (shared : SharedTasks) (ref : Nat) : SharedTasks where
  made := shared.made
  refs := shared.refs.erase ref
  refs_lt := fun other hmem => shared.refs_lt other (List.mem_of_mem_erase hmem)

@[simp] theorem refs_erase (shared : SharedTasks) (ref : Nat) :
    (shared.erase ref).refs = shared.refs.erase ref := rfl

@[simp] theorem made_erase (shared : SharedTasks) (ref : Nat) :
    (shared.erase ref).made = shared.made := rfl

/-- Makes a task and puts it at the end of the list. What is made besides is not in the list. -/
def push (shared : SharedTasks) (task : Task) (others : List Task) : SharedTasks where
  made := shared.made ++ task :: others
  refs := shared.refs ++ [shared.made.length]
  refs_lt := by
    intro ref hmem
    rw [List.length_append, List.length_cons]
    rcases List.mem_append.mp hmem with hold | hnew
    · exact Nat.lt_add_right _ (shared.refs_lt ref hold)
    · rw [List.mem_singleton.mp hnew]
      omega

@[simp] theorem refs_push (shared : SharedTasks) (task : Task) (others : List Task) :
    (shared.push task others).refs = shared.refs ++ [shared.made.length] := rfl

@[simp] theorem made_push (shared : SharedTasks) (task : Task) (others : List Task) :
    (shared.push task others).made = shared.made ++ task :: others := rfl

/-- The list with a new task at its end, and a reference to a copy of it. -/
def add? (shared : SharedTasks) (text : Text.RawText) : Option (SharedTasks × Nat) :=
  shared.tasks.nextId?.map fun id =>
    (shared.push ⟨id, text, false⟩ [⟨id, text, false⟩], shared.made.length + 1)

/-- The list with the first task of a number done, if there is one. -/
def markDone? (shared : SharedTasks) (id : Int) : Option SharedTasks :=
  (shared.find? id).map fun ref => shared.modify ref Task.complete

/-- The list without the first task of a number, if there is one. -/
def remove? (shared : SharedTasks) (id : Int) : Option SharedTasks :=
  (shared.find? id).map shared.erase

end SharedTasks

end Checklist
