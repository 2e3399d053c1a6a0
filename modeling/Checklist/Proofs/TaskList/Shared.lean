import Checklist.Proofs.TaskList.Commuting
import Checklist.Proofs.TaskList.Numbered
import Checklist.TaskList.Shared

namespace Checklist.SharedTasks

variable {shared edited : SharedTasks} {task : Task} {id : Int} {ref : Nat}
  {change : Task → Task}

theorem tasks_ofTasks (tasks : TaskList) : (ofTasks tasks).tasks = tasks := by
  change (List.range tasks.length).filterMap (tasks[·]?) = tasks
  induction tasks with
  | nil => rfl
  | cons task rest ih =>
    rw [List.length_cons, List.range_succ_eq_map, List.filterMap_cons_some List.getElem?_cons_zero,
      List.filterMap_map]
    exact congrArg (task :: ·) ih

theorem leadsTo_iff :
    shared.leadsTo id ref = true ↔ ∃ task, shared.made[ref]? = some task ∧ task.id = id := by
  cases hmade : shared.made[ref]? with
  | none => simp [leadsTo, hmade]
  | some task => simp [leadsTo, hmade]

theorem mem_tasks : task ∈ shared.tasks ↔ ∃ ref ∈ shared.refs, shared.made[ref]? = some task :=
  List.mem_filterMap

theorem find?_eq_none_iff : shared.find? id = none ↔ ∀ task ∈ shared.tasks, task.id ≠ id := by
  rw [find?, List.find?_eq_none]
  constructor
  · intro hnone task hmem hid
    obtain ⟨ref, href, hmade⟩ := mem_tasks.mp hmem
    exact hnone ref href (leadsTo_iff.mpr ⟨task, hmade, hid⟩)
  · intro hne ref href hleads
    obtain ⟨task, hmade, hid⟩ := leadsTo_iff.mp hleads
    exact hne task (mem_tasks.mpr ⟨ref, href, hmade⟩) hid

theorem getElem?_modify (shared : SharedTasks) (ref : Nat) (change : Task → Task) (other : Nat) :
    (shared.modify ref change).made[other]? =
      if ref = other then shared.made[other]?.map change else shared.made[other]? := by
  rw [modify, List.getElem?_modify]
  split
  · rfl
  · exact Option.map_id'

@[simp] theorem length_made_modify (shared : SharedTasks) (ref : Nat) (change : Task → Task) :
    (shared.modify ref change).made.length = shared.made.length :=
  List.length_modify ..

/-- A change in place that keeps numbers brings in no new ones. -/
theorem exists_of_mem_modify (hid : ∀ task, (change task).id = task.id)
    (hmem : task ∈ (shared.modify ref change).tasks) :
    ∃ origin ∈ shared.tasks, task.id = origin.id := by
  obtain ⟨other, hother, hmade⟩ := mem_tasks.mp hmem
  rw [getElem?_modify] at hmade
  split at hmade
  · obtain ⟨origin, horigin, rfl⟩ := Option.map_eq_some_iff.mp hmade
    exact ⟨origin, mem_tasks.mpr ⟨other, hother, horigin⟩, hid origin⟩
  · exact ⟨task, mem_tasks.mpr ⟨other, hother, hmade⟩, rfl⟩

theorem tasks_push (shared : SharedTasks) (task : Task) (others : List Task) :
    (shared.push task others).tasks = shared.tasks ++ [task] := by
  have hold : shared.refs.filterMap ((shared.made ++ task :: others)[·]?) = shared.tasks :=
    List.filterMap_congr fun ref hmem => List.getElem?_append_left (shared.refs_lt ref hmem)
  have hnew : (shared.made ++ task :: others)[shared.made.length]? = some task := by simp
  rw [tasks, made_push, refs_push, List.filterMap_append, hold, List.filterMap_cons_some hnew,
    List.filterMap_nil]

theorem tasks_add? (shared : SharedTasks) (text : Text.RawText) :
    (shared.add? text).map (·.1.tasks) = (shared.tasks.add? text).map (·.1) := by
  rw [add?, TaskList.add?, Option.map_map, Option.map_map]
  congr 1
  funext id
  exact tasks_push shared _ _

/-- Where the first task of a number stands, by reference and in the list as it is read. -/
theorem find?_eq_some (hfind : shared.find? id = some ref) :
    ∃ front task back, shared.refs = front ++ ref :: back ∧ ref ∉ front ∧
      shared.made[ref]? = some task ∧ task.id = id ∧
      ∀ make, TaskList.replaceFirst? make id shared.tasks = some
        (front.filterMap (shared.made[·]?) ++ make task ++ back.filterMap (shared.made[·]?)) := by
  obtain ⟨hleads, front, back, hrefs, hfront⟩ := List.find?_eq_some_iff_append.mp hfind
  obtain ⟨task, hmade, hid⟩ := leadsTo_iff.mp hleads
  refine ⟨front, task, back, hrefs, ?_, hmade, hid, fun make => ?_⟩
  · intro hmem
    simpa [hleads] using hfront ref hmem
  · have hothers : ∀ other ∈ front.filterMap (shared.made[·]?), other.id ≠ id := by
      intro other hother hotherId
      obtain ⟨before, hbefore, hmadeBefore⟩ := List.mem_filterMap.mp hother
      simpa [leadsTo_iff.mpr ⟨other, hmadeBefore, hotherId⟩] using hfront before hbefore
    rw [tasks, hrefs, List.filterMap_append, List.filterMap_cons_some hmade,
      TaskList.replaceFirst?_append hothers, TaskList.replaceFirst?, if_pos hid, Option.map_some,
      List.append_assoc]

theorem tasks_remove? (shared : SharedTasks) (id : Int) :
    (shared.remove? id).map tasks = TaskList.remove? id shared.tasks := by
  cases hfind : shared.find? id with
  | none =>
    rw [remove?, hfind, TaskList.remove?_eq_none_iff.mpr (find?_eq_none_iff.mp hfind)]
    rfl
  | some ref =>
    obtain ⟨front, task, back, hrefs, hfirst, -, -, hreplace⟩ := find?_eq_some hfind
    have herase : (shared.erase ref).tasks =
        front.filterMap (shared.made[·]?) ++ back.filterMap (shared.made[·]?) := by
      rw [tasks, made_erase, refs_erase, hrefs, List.erase_append_right _ hfirst,
        List.erase_cons_head, List.filterMap_append]
    rw [remove?, hfind, TaskList.remove?_eq_replaceFirst?, hreplace, List.append_nil, ← herase]
    rfl

/-- As long as no task stands twice in the list, a change in place changes it once. -/
theorem tasks_markDone? (hnodup : shared.refs.Nodup) (id : Int) :
    (shared.markDone? id).map tasks = shared.tasks.markDone? id := by
  cases hfind : shared.find? id with
  | none =>
    have hnone : shared.tasks.markDone? id = none :=
      TaskList.modifyFirst?_eq_none_iff.mpr (find?_eq_none_iff.mp hfind)
    rw [markDone?, hfind, hnone]
    rfl
  | some ref =>
    obtain ⟨front, task, back, hrefs, hfirst, hmade, -, hreplace⟩ := find?_eq_some hfind
    have hlast : ref ∉ back := by
      rw [hrefs] at hnodup
      exact (List.nodup_cons.mp (List.nodup_append.mp hnodup).2.1).1
    have hsame {refs : List Nat} (hnot : ref ∉ refs) :
        refs.filterMap ((shared.modify ref Task.complete).made[·]?) =
          refs.filterMap (shared.made[·]?) :=
      List.filterMap_congr fun other hmem => by
        rw [getElem?_modify, if_neg (ne_of_mem_of_not_mem hmem hnot).symm]
    have hdone : (shared.modify ref Task.complete).made[ref]? = some task.complete := by
      rw [getElem?_modify, if_pos rfl, hmade, Option.map_some]
    have hmodify : (shared.modify ref Task.complete).tasks =
        front.filterMap (shared.made[·]?) ++ task.complete :: back.filterMap (shared.made[·]?) := by
      rw [tasks, refs_modify, hrefs, List.filterMap_append, List.filterMap_cons_some hdone,
        hsame hfirst, hsame hlast]
    rw [markDone?, hfind, TaskList.markDone?_eq_replaceFirst?, hreplace, List.append_assoc,
      List.singleton_append, ← hmodify]
    rfl

/-- The list after an edit, unless the edit is refused. -/
def edit? (shared : SharedTasks) : TaskList.Edit → Option SharedTasks
  | .add text => (shared.add? text).map (·.1)
  | .markDone id => shared.markDone? id
  | .remove id => shared.remove? id

/-- The list after an edit. One that is refused leaves it alone. -/
def after (shared : SharedTasks) (edit : TaskList.Edit) : SharedTasks :=
  (shared.edit? edit).getD shared

theorem tasks_edit? (hnodup : shared.refs.Nodup) (edit : TaskList.Edit) :
    (shared.edit? edit).map tasks = shared.tasks.edit? edit := by
  cases edit with
  | add text =>
    rw [edit?, Option.map_map]
    exact tasks_add? shared text
  | markDone id => exact tasks_markDone? hnodup id
  | remove id => exact tasks_remove? shared id

theorem nodup_edit? (hnodup : shared.refs.Nodup) {edit : TaskList.Edit}
    (hedit : shared.edit? edit = some edited) : edited.refs.Nodup := by
  cases edit with
  | add text =>
    simp only [edit?, add?, Option.map_map, Option.map_eq_some_iff] at hedit
    obtain ⟨id, -, rfl⟩ := hedit
    have hnew : shared.made.length ∉ shared.refs :=
      fun hmem => Nat.lt_irrefl _ (shared.refs_lt _ hmem)
    exact List.nodup_append.mpr ⟨hnodup, by simp, fun ref hmem other hother =>
      List.mem_singleton.mp hother ▸ ne_of_mem_of_not_mem hmem hnew⟩
  | markDone id =>
    obtain ⟨ref, -, rfl⟩ := Option.map_eq_some_iff.mp hedit
    exact hnodup
  | remove id =>
    obtain ⟨ref, -, rfl⟩ := Option.map_eq_some_iff.mp hedit
    exact hnodup.erase ref

theorem tasks_afterAll (hnodup : shared.refs.Nodup) (edits : List TaskList.Edit) :
    (edits.foldl after shared).tasks = shared.tasks.afterAll edits := by
  induction edits generalizing shared with
  | nil => rfl
  | cons edit rest ih =>
    have hstep := tasks_edit? hnodup edit
    rw [List.foldl_cons, TaskList.afterAll, List.foldl_cons, ← TaskList.afterAll, after,
      TaskList.after, ← hstep]
    cases hedit : shared.edit? edit with
    | none => exact ih hnodup
    | some edited => exact ih (nodup_edit? hnodup hedit)

/-- Tasks that are edited in place are read as those of which every edit makes a new list. -/
theorem tasks_afterAll_ofTasks (tasks : TaskList) (edits : List TaskList.Edit) :
    (edits.foldl after (ofTasks tasks)).tasks = tasks.afterAll edits := by
  have hnodup : (ofTasks tasks).refs.Nodup := List.nodup_range
  rw [tasks_afterAll hnodup, tasks_ofTasks]

end Checklist.SharedTasks
