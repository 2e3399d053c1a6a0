import Checklist.Proofs.Task.Stored
import Checklist.TaskList

namespace Checklist.TaskList

variable {id : Int} {tasks edited : TaskList} {change : Task → Task}

/-- A change to a list that concerns the first task of a number and nothing else. It may take the
    task away, but it never touches a text. -/
structure EditsFirst (id : Int) (edit? : TaskList → Option TaskList) : Prop where
  eq_none_iff : ∀ tasks, edit? tasks = none ↔ ∀ task ∈ tasks, task.id ≠ id
  others : ∀ tasks edited, edit? tasks = some edited →
    List.filter (·.id ≠ id) edited = List.filter (·.id ≠ id) tasks
  texts : ∀ tasks edited, edit? tasks = some edited →
    ∀ task ∈ edited, ∃ origin ∈ tasks, task.id = origin.id ∧ task.text = origin.text

theorem EditsFirst.exists_of_eq_some {edit? : TaskList → Option TaskList}
    (hedits : EditsFirst id edit?) (hedit : edit? tasks = some edited) :
    ∃ task ∈ tasks, task.id = id := by
  apply Classical.byContradiction
  intro hnone
  rw [(hedits.eq_none_iff tasks).mpr fun task hmem hid => hnone ⟨task, hmem, hid⟩] at hedit
  cases hedit

theorem modifyFirst?_eq_none_iff :
    modifyFirst? change id tasks = none ↔ ∀ task ∈ tasks, task.id ≠ id := by
  induction tasks with
  | nil => simp [modifyFirst?]
  | cons task rest ih =>
    rw [modifyFirst?]
    split
    · next hid => simp [hid]
    · next hid => simp [hid, ih]

theorem remove?_eq_none_iff : remove? id tasks = none ↔ ∀ task ∈ tasks, task.id ≠ id := by
  induction tasks with
  | nil => simp [remove?]
  | cons task rest ih =>
    rw [remove?]
    split
    · next hid => simp [hid]
    · next hid => simp [hid, ih]

/-- The first task of a number divides the list, and changing it keeps both parts. -/
theorem modifyFirst?_eq_some (hedit : modifyFirst? change id tasks = some edited) :
    ∃ front task back, task.id = id ∧ (∀ other ∈ front, other.id ≠ id) ∧
      tasks = front ++ task :: back ∧ edited = front ++ change task :: back := by
  induction tasks generalizing edited with
  | nil => cases hedit
  | cons task rest ih =>
    rw [modifyFirst?] at hedit
    split at hedit
    · next hid =>
      obtain rfl := Option.some.inj hedit
      exact ⟨[], task, rest, hid, by simp, rfl, rfl⟩
    · next hid =>
      obtain ⟨other, hother, rfl⟩ := Option.map_eq_some_iff.mp hedit
      obtain ⟨front, found, back, hfound, hfront, rfl, rfl⟩ := ih hother
      exact ⟨task :: front, found, back, hfound, by simpa [hid] using hfront, rfl, rfl⟩

theorem remove?_eq_some (hedit : remove? id tasks = some edited) :
    ∃ (front : TaskList) (task : Task) (back : TaskList), task.id = id ∧
      (∀ other ∈ front, other.id ≠ id) ∧ tasks = front ++ task :: back ∧
      edited = front ++ back := by
  induction tasks generalizing edited with
  | nil => cases hedit
  | cons task rest ih =>
    rw [remove?] at hedit
    split at hedit
    · next hid =>
      obtain rfl := Option.some.inj hedit
      exact ⟨[], task, rest, hid, by simp, rfl, rfl⟩
    · next hid =>
      obtain ⟨other, hother, rfl⟩ := Option.map_eq_some_iff.mp hedit
      obtain ⟨front, found, back, hfound, hfront, rfl, rfl⟩ := ih hother
      exact ⟨task :: front, found, back, hfound, by simpa [hid] using hfront, rfl, rfl⟩

/-- Marking a task keeps all numbers, and removing one takes its number away. -/
theorem map_id_of_markDone? (hedit : markDone? tasks id = some edited) :
    edited.map (·.id) = tasks.map (·.id) := by
  obtain ⟨front, task, back, -, -, rfl, rfl⟩ := modifyFirst?_eq_some hedit
  simp [Task.complete]

theorem sublist_of_remove? (hedit : remove? id tasks = some edited) : edited.Sublist tasks := by
  obtain ⟨front, task, back, -, -, rfl, rfl⟩ := remove?_eq_some hedit
  exact (List.sublist_cons_self task back).append_left front

theorem editsFirst_markDone? (id : Int) : EditsFirst id fun tasks => markDone? tasks id := by
  refine ⟨fun tasks => modifyFirst?_eq_none_iff, ?_, ?_⟩
  · intro tasks edited hedit
    obtain ⟨front, task, back, hid, -, rfl, rfl⟩ := modifyFirst?_eq_some hedit
    simp [hid, Task.complete]
  · intro tasks edited hedit other hmem
    obtain ⟨front, task, back, -, -, rfl, rfl⟩ := modifyFirst?_eq_some hedit
    rw [List.mem_append, List.mem_cons] at hmem
    rcases hmem with hfront | rfl | hback
    · exact ⟨other, List.mem_append_left _ hfront, rfl, rfl⟩
    · exact ⟨task, by simp, rfl, rfl⟩
    · exact ⟨other, by simp [hback], rfl, rfl⟩

theorem editsFirst_remove? (id : Int) : EditsFirst id (remove? id) := by
  refine ⟨fun tasks => remove?_eq_none_iff, ?_, ?_⟩
  · intro tasks edited hedit
    obtain ⟨front, task, back, hid, -, rfl, rfl⟩ := remove?_eq_some hedit
    simp [hid]
  · intro tasks edited hedit other hmem
    obtain ⟨front, task, back, -, -, rfl, rfl⟩ := remove?_eq_some hedit
    rw [List.mem_append] at hmem
    rcases hmem with hfront | hback
    · exact ⟨other, List.mem_append_left _ hfront, rfl, rfl⟩
    · exact ⟨other, by simp [hback], rfl, rfl⟩

theorem modifyFirst?_eq (change : Task → Task) (id : Int) (tasks : TaskList) :
    modifyFirst? change id tasks =
      if tasks.any (·.id == id) then
        some (List.modify tasks (tasks.findIdx (·.id == id)) change)
      else none := by
  induction tasks with
  | nil => rfl
  | cons task rest ih =>
    rw [modifyFirst?]
    split
    · next hid => simp [hid, List.findIdx_cons]
    · next hid =>
      rw [ih]
      simp only [List.any_cons, List.findIdx_cons, beq_eq_false_iff_ne.mpr hid, Bool.false_or,
        cond_false, List.modify_succ_cons]
      split <;> rfl

theorem markDone?_eq (tasks : TaskList) (id : Int) :
    markDone? tasks id =
      if tasks.any (·.id == id) then
        some (List.modify tasks (tasks.findIdx (·.id == id)) fun task => { task with done := true })
      else none :=
  modifyFirst?_eq Task.complete id tasks

theorem remove?_eq (id : Int) (tasks : TaskList) :
    remove? id tasks =
      if tasks.any (·.id == id) then some (tasks.eraseP (·.id == id)) else none := by
  induction tasks with
  | nil => rfl
  | cons task rest ih =>
    rw [remove?]
    split
    · next hid => simp [hid]
    · next hid =>
      rw [ih]
      simp only [List.any_cons, List.eraseP_cons, beq_eq_false_iff_ne.mpr hid, Bool.false_or,
        cond_false]
      split <;> rfl

theorem lastId_eq (tasks : TaskList) : lastId tasks = (tasks.map (·.id)).max?.getD 0 := by
  cases tasks with
  | nil => rfl
  | cons task rest => rw [List.map_cons, List.max?_cons', List.foldl_map, lastId, Option.getD_some]

theorem lastId_nonneg (hnonneg : ∀ task ∈ tasks, 0 ≤ task.id) : 0 ≤ lastId tasks := by
  rw [lastId_eq]
  cases hmax : (tasks.map (·.id)).max? with
  | none => exact Int.le_refl 0
  | some largest =>
    obtain ⟨task, hmem, rfl⟩ := List.mem_map.mp (List.max?_mem hmax)
    exact hnonneg task hmem

theorem le_lastId {task : Task} (hmem : task ∈ tasks) : task.id ≤ lastId tasks := by
  have hid := List.mem_map_of_mem (f := (·.id)) hmem
  rw [lastId_eq]
  cases hmax : (tasks.map (·.id)).max? with
  | none => simp [List.max?_eq_none_iff.mp hmax] at hid
  | some largest => exact (List.max?_le_iff hmax).mp (Int.le_refl largest) _ hid

theorem lastId_eq_zero_or_mem (tasks : TaskList) :
    tasks.lastId = 0 ∨ ∃ task ∈ tasks, task.id = tasks.lastId := by
  rw [lastId_eq]
  cases hmax : (tasks.map (·.id)).max? with
  | none => exact .inl rfl
  | some largest =>
    obtain ⟨task, hmem, hid⟩ := List.mem_map.mp (List.max?_mem hmax)
    exact .inr ⟨task, hmem, hid⟩

/-- As long as all numbers are below the largest one, there is a new one above them. -/
theorem nextId?_of_forall_lt (hbelow : ∀ task ∈ tasks, task.id < Task.maxId) :
    nextId? tasks = some (tasks.lastId + 1) ∧ ∀ task ∈ tasks, task.id ≠ tasks.lastId + 1 := by
  have hroom : tasks.lastId < Task.maxId := by
    rcases tasks.lastId_eq_zero_or_mem with hzero | ⟨task, hmem, hid⟩
    · rw [hzero]
      decide
    · exact hid ▸ hbelow task hmem
  refine ⟨if_pos hroom, fun task hmem => ?_⟩
  have hle := le_lastId hmem
  omega

theorem nextId?_eq_some_iff :
    nextId? tasks = some id ↔ tasks.lastId < Task.maxId ∧ tasks.lastId + 1 = id := by
  rw [nextId?]
  split
  · next hroom => simp [hroom]
  · next hroom => simp [hroom]

theorem add?_eq (tasks : TaskList) (text : Text.RawText) :
    add? tasks text =
      if tasks.lastId < Task.maxId then
        some (tasks ++ [⟨tasks.lastId + 1, text, false⟩], ⟨tasks.lastId + 1, text, false⟩)
      else none := by
  rw [add?, nextId?]
  split <;> rfl

theorem EditsFirst.fitsLine {edit? : TaskList → Option TaskList} (hedits : EditsFirst id edit?)
    (hfits : ∀ task ∈ tasks, task.FitsLine) (hedit : edit? tasks = some edited) :
    ∀ task ∈ edited, task.FitsLine := by
  intro task hmem
  obtain ⟨origin, horigin, hid, htext⟩ := hedits.texts tasks edited hedit task hmem
  exact (hfits origin horigin).congr hid htext

/-- A change to one of several storable tasks keeps all of them storable. -/
theorem EditsFirst.storable {edit? : TaskList → Option TaskList} (hedits : EditsFirst id edit?)
    (hstorable : ∀ task ∈ tasks, task.Storable) (hedit : edit? tasks = some edited) :
    ∀ task ∈ edited, task.Storable := by
  intro task hmem
  obtain ⟨origin, horigin, hid, htext⟩ := hedits.texts tasks edited hedit task hmem
  exact (hstorable origin horigin).congr hid htext

/-- A new task with a storable text is storable, since its number is at most the largest. -/
theorem storable_of_add? {text : Text.RawText} {grown : TaskList} {added : Task}
    (hstorable : ∀ task ∈ tasks, task.Storable) (hfeed : .char '\n' ∉ text)
    (hreturn : text.getLast? ≠ some (.char '\r')) (hencodable : Text.isEncodable text = true)
    (hadd : tasks.add? text = some (grown, added)) : ∀ task ∈ grown, task.Storable := by
  have hnonneg := lastId_nonneg fun task hmem => (hstorable task hmem).nonneg
  rw [add?_eq] at hadd
  split at hadd
  · next hroom =>
    obtain ⟨rfl, rfl⟩ := Prod.mk.inj (Option.some.inj hadd)
    intro task hmem
    rcases List.mem_append.mp hmem with hold | hnew
    · exact hstorable task hold
    · obtain rfl := List.mem_singleton.mp hnew
      exact ⟨⟨by dsimp only; omega, by dsimp only; omega, hfeed, hencodable⟩, hreturn⟩
  · cases hadd

end Checklist.TaskList
