import Checklist.Proofs.TaskList

namespace Checklist.TaskList

variable {id other : Int} {tasks edited : TaskList} {make makeOther : Task → List Task}
  {edit? editOther? : Int → TaskList → Option TaskList}

/-- The list with what is made of the first task of a number in its place, if there is one. -/
def replaceFirst? (make : Task → List Task) (id : Int) : TaskList → Option TaskList
  | [] => none
  | task :: rest =>
    if task.id = id then some (make task ++ rest) else (replaceFirst? make id rest).map (task :: ·)

theorem markDone?_eq_replaceFirst? (id : Int) (tasks : TaskList) :
    markDone? tasks id = replaceFirst? (fun task => [task.complete]) id tasks := by
  induction tasks with
  | nil => rfl
  | cons task rest ih =>
    rw [markDone?, modifyFirst?, ← markDone?, ih, replaceFirst?]
    rfl

theorem remove?_eq_replaceFirst? (id : Int) (tasks : TaskList) :
    remove? id tasks = replaceFirst? (fun _ => []) id tasks := by
  induction tasks with
  | nil => rfl
  | cons task rest ih =>
    rw [remove?, ih, replaceFirst?]
    rfl

/-- Tasks of other numbers in front are passed over. -/
theorem replaceFirst?_append {front : TaskList} (hfront : ∀ task ∈ front, task.id ≠ id)
    (back : TaskList) :
    replaceFirst? make id (front ++ back) = (replaceFirst? make id back).map (front ++ ·) := by
  induction front with
  | nil => simp
  | cons task rest ih =>
    rw [List.cons_append, replaceFirst?, if_neg (hfront task List.mem_cons_self),
      ih fun task hmem => hfront task (List.mem_cons_of_mem _ hmem), Option.map_map]
    rfl

/-- Putting something in the place of the first task of a number. It has that number too, and does
    not hang on what storing a task takes from its text. -/
structure Replaces (edit? : Int → TaskList → Option TaskList) (make : Task → List Task) : Prop where
  edits : ∀ id, EditsFirst id (edit? id)
  eq : ∀ id tasks, edit? id tasks = replaceFirst? make id tasks
  ids : ∀ task, ∀ made ∈ make task, made.id = task.id
  restored : ∀ task, make task.restored = (make task).map Task.restored

theorem replaces_markDone? :
    Replaces (fun id tasks => markDone? tasks id) fun task => [task.complete] :=
  ⟨editsFirst_markDone?, markDone?_eq_replaceFirst?, by simp [Task.complete], fun _ => rfl⟩

theorem replaces_remove? : Replaces remove? fun _ => [] :=
  ⟨editsFirst_remove?, remove?_eq_replaceFirst?, by simp, fun _ => rfl⟩

/-- Where the first task is the one to be replaced, the others are edited behind it. -/
theorem replaceFirst?_comm_head {task : Task} {rest : TaskList} (hne : task.id ≠ other)
    (hids : ∀ made ∈ make task, made.id = task.id) :
    (replaceFirst? make task.id (task :: rest)).bind (replaceFirst? makeOther other) =
      (replaceFirst? makeOther other (task :: rest)).bind (replaceFirst? make task.id) := by
  have hmade : ∀ made ∈ make task, made.id ≠ other := fun made hmem => hids made hmem ▸ hne
  rw [replaceFirst?, if_pos rfl, Option.bind_some, replaceFirst?_append hmade, replaceFirst?,
    if_neg hne]
  cases replaceFirst? makeOther other rest with
  | none => rfl
  | some edited => simp [replaceFirst?]

/-- Tasks of two different numbers can be replaced in either order. -/
theorem replaceFirst?_comm (hne : id ≠ other)
    (hids : ∀ task, ∀ made ∈ make task, made.id = task.id)
    (hidsOther : ∀ task, ∀ made ∈ makeOther task, made.id = task.id) (tasks : TaskList) :
    (replaceFirst? make id tasks).bind (replaceFirst? makeOther other) =
      (replaceFirst? makeOther other tasks).bind (replaceFirst? make id) := by
  induction tasks with
  | nil => rfl
  | cons task rest ih =>
    by_cases hid : task.id = id
    · subst hid
      exact replaceFirst?_comm_head hne (hids task)
    · by_cases hother : task.id = other
      · subst hother
        exact (replaceFirst?_comm_head hne.symm (hidsOther task)).symm
      · have hbehind {make : Task → List Task} {id : Int} (hne : task.id ≠ id)
            (edited? : Option TaskList) : (edited?.map (task :: ·)).bind (replaceFirst? make id) =
              (edited?.bind (replaceFirst? make id)).map (task :: ·) := by
          cases edited? with
          | none => rfl
          | some edited => rw [Option.map_some, Option.bind_some, replaceFirst?, if_neg hne]; rfl
        rw [replaceFirst?, if_neg hid, replaceFirst?, if_neg hother, hbehind hother, hbehind hid,
          ih]

theorem replaceFirst?_map_restored
    (hmake : ∀ task, make task.restored = (make task).map Task.restored) (id : Int)
    (tasks : TaskList) :
    replaceFirst? make id (tasks.map Task.restored) =
      (replaceFirst? make id tasks).map (List.map Task.restored) := by
  induction tasks with
  | nil => rfl
  | cons task rest ih =>
    have hid : task.restored.id = task.id := rfl
    rw [List.map_cons, replaceFirst?, replaceFirst?, hid]
    split
    · rw [hmake, Option.map_some, List.map_append]
    · rw [ih, Option.map_map, Option.map_map]
      rfl

namespace Replaces

theorem comm (hfirst : Replaces edit? make) (hsecond : Replaces editOther? makeOther)
    (hne : id ≠ other) (tasks : TaskList) :
    (edit? id tasks).bind (editOther? other) = (editOther? other tasks).bind (edit? id) := by
  rw [funext (hfirst.eq id), funext (hsecond.eq other)]
  exact replaceFirst?_comm hne hfirst.ids hsecond.ids tasks

/-- What storing tasks takes from their texts makes no difference to a replacement. -/
theorem map_restored (hreplaces : Replaces edit? make) (id : Int) (tasks : TaskList) :
    edit? id (tasks.map Task.restored) = (edit? id tasks).map (List.map Task.restored) := by
  rw [hreplaces.eq, hreplaces.eq, replaceFirst?_map_restored hreplaces.restored]

end Replaces

/-- A change at one number neither brings nor takes a task of another number. -/
theorem EditsFirst.isSome_of_ne {change? : TaskList → Option TaskList}
    {other? : TaskList → Option TaskList} (hedits : EditsFirst id change?)
    (hothers : EditsFirst other other?) (hne : id ≠ other) (hedit : other? tasks = some edited) :
    (change? edited).isSome = (change? tasks).isSome := by
  have hmem (task : Task) (hid : task.id = id) : task ∈ edited ↔ task ∈ tasks := by
    have hkept := congrArg (task ∈ ·) (hothers.others tasks edited hedit)
    simpa [hid, hne] using hkept
  have hnone : change? edited = none ↔ change? tasks = none := by
    rw [hedits.eq_none_iff, hedits.eq_none_iff]
    exact ⟨fun hall task htask hid => hall task ((hmem task hid).mpr htask) hid,
      fun hall task htask hid => hall task ((hmem task hid).mp htask) hid⟩
  rw [Bool.eq_iff_iff, Option.isSome_iff_ne_none, Option.isSome_iff_ne_none, ne_eq, ne_eq, hnone]

end Checklist.TaskList
