import Checklist.Proofs.TaskList
import Mathlib.Data.List.Forall2
import Mathlib.Data.List.Induction

namespace Checklist

/-- What may become of a task: its number and text stay, and once it is done it stays done. -/
structure Task.Becomes (task later : Task) : Prop where
  id : later.id = task.id
  text : later.text = task.text
  done : task.done = true → later.done = true

theorem Task.Becomes.refl (task : Task) : task.Becomes task :=
  ⟨rfl, rfl, fun hdone => hdone⟩

theorem Task.Becomes.trans {task middle later : Task} (hfirst : task.Becomes middle)
    (hsecond : middle.Becomes later) : task.Becomes later :=
  ⟨hsecond.id.trans hfirst.id, hsecond.text.trans hfirst.text,
    fun hdone => hsecond.done (hfirst.done hdone)⟩

theorem Task.becomes_complete (task : Task) : task.Becomes task.complete :=
  ⟨rfl, rfl, fun _ => rfl⟩

namespace TaskList

/-- Something that is asked of a list of tasks. -/
inductive Edit where
  | add (text : Text.RawText)
  | markDone (id : Int)
  | remove (id : Int)
  deriving Repr, DecidableEq

/-- The list after an edit, unless the edit is refused. -/
def edit? (tasks : TaskList) : Edit → Option TaskList
  | .add text => (tasks.add? text).map (·.1)
  | .markDone id => tasks.markDone? id
  | .remove id => remove? id tasks

/-- The list after an edit. One that is refused leaves it alone. -/
def after (tasks : TaskList) (edit : Edit) : TaskList :=
  (tasks.edit? edit).getD tasks

def afterAll (tasks : TaskList) (edits : List Edit) : TaskList :=
  edits.foldl after tasks

/-- Every task has a number of its own, and one that can be stored. -/
structure Numbered (tasks : TaskList) : Prop where
  nodup : (tasks.map (·.id)).Nodup
  range : ∀ task ∈ tasks, 0 ≤ task.id ∧ task.id ≤ Task.maxId

/-- The numbers start at one or above, and grow along the list. -/
structure Ascending (tasks : TaskList) : Prop where
  sorted : (tasks.map (·.id)).Pairwise (· < ·)
  positive : ∀ task ∈ tasks, 1 ≤ task.id

/-- When an edit is refused: no number is left for a new task, or no task has the number. -/
def Refuses (tasks : TaskList) : Edit → Prop
  | .add _ => ∃ task ∈ tasks, task.id = Task.maxId
  | .markDone id => ∀ task ∈ tasks, task.id ≠ id
  | .remove id => ∀ task ∈ tasks, task.id ≠ id

/-- Everything that an edit can do to a list in which each task has a number of its own. -/
inductive Turns (tasks : TaskList) : Edit → TaskList → Prop where
  | refused {edit : Edit} (hrefuses : tasks.Refuses edit) : Turns tasks edit tasks
  | added {text : Text.RawText} {id : Int} (haccepts : ¬ tasks.Refuses (.add text))
      (hpositive : 1 ≤ id) (hle : id ≤ Task.maxId) (habove : ∀ task ∈ tasks, task.id < id) :
      Turns tasks (.add text) (tasks ++ [⟨id, text, false⟩])
  | marked {id : Int} (haccepts : ¬ tasks.Refuses (.markDone id)) :
      Turns tasks (.markDone id)
        (tasks.map fun task => if task.id = id then task.complete else task)
  | removed {id : Int} (haccepts : ¬ tasks.Refuses (.remove id)) :
      Turns tasks (.remove id) (tasks.filter (·.id ≠ id))

/-- What edits leave of a list: every task that none of them removes, in the same order, and behind
    those the tasks that they add. -/
def Keeps (edits : List Edit) (tasks later : TaskList) : Prop :=
  ∃ kept added, later = kept ++ added ∧
    List.Forall₂ Task.Becomes (tasks.filter fun task => .remove task.id ∉ edits) kept

variable {tasks middle later : TaskList} {edit : Edit} {id : Int}

/-- The numbers are used up exactly if the largest one is in use. -/
theorem Numbered.lastId_lt_iff (hnumbered : tasks.Numbered) :
    tasks.lastId < Task.maxId ↔ ¬ ∃ task ∈ tasks, task.id = Task.maxId := by
  constructor
  · rintro hlt ⟨task, hmem, hid⟩
    have hle := le_lastId hmem
    omega
  · intro hnone
    rcases tasks.lastId_eq_zero_or_mem with hzero | ⟨task, hmem, hid⟩
    · rw [hzero]
      decide
    · have hne : task.id ≠ Task.maxId := fun heq => hnone ⟨task, hmem, heq⟩
      have hle := (hnumbered.range task hmem).2
      omega

/-- Behind the first task of a number there is no other one. -/
theorem Numbered.ne_of_mem_back {front back : TaskList} {task : Task}
    (hnumbered : Numbered (front ++ task :: back)) : ∀ other ∈ back, other.id ≠ task.id := by
  have hnodup := hnumbered.nodup
  rw [List.map_append, List.map_cons, List.nodup_append, List.nodup_cons] at hnodup
  intro other hmem hid
  exact hnodup.2.1.1 (List.mem_map.mpr ⟨other, hmem, hid⟩)

theorem map_complete_of_forall_ne (hne : ∀ task ∈ tasks, task.id ≠ id) :
    (tasks.map fun task => if task.id = id then task.complete else task) = tasks := by
  conv_rhs => rw [← List.map_id tasks]
  exact List.map_congr_left fun task hmem => if_neg (hne task hmem)

theorem filter_of_forall_ne (hne : ∀ task ∈ tasks, task.id ≠ id) :
    tasks.filter (·.id ≠ id) = tasks :=
  List.filter_eq_self.mpr fun task hmem => decide_eq_true (hne task hmem)

theorem Numbered.markDone?_eq (hnumbered : tasks.Numbered)
    (hedit : tasks.markDone? id = some later) :
    later = tasks.map fun task => if task.id = id then task.complete else task := by
  obtain ⟨front, task, back, rfl, hfront, rfl, rfl⟩ := modifyFirst?_eq_some hedit
  rw [List.map_append, List.map_cons, if_pos rfl, map_complete_of_forall_ne hfront,
    map_complete_of_forall_ne hnumbered.ne_of_mem_back]

theorem Numbered.remove?_eq (hnumbered : tasks.Numbered) (hedit : remove? id tasks = some later) :
    later = tasks.filter (·.id ≠ id) := by
  obtain ⟨front, task, back, rfl, hfront, rfl, rfl⟩ := remove?_eq_some hedit
  rw [List.filter_append, List.filter_cons_of_neg (by simp), filter_of_forall_ne hfront,
    filter_of_forall_ne hnumbered.ne_of_mem_back]

theorem Numbered.edit?_eq_none_iff (hnumbered : tasks.Numbered) (edit : Edit) :
    tasks.edit? edit = none ↔ tasks.Refuses edit := by
  cases edit with
  | add text =>
    rw [edit?, add?_eq, Refuses]
    have hroom := hnumbered.lastId_lt_iff
    split
    · next hlt => simpa using hroom.mp hlt
    · next hfull => simpa using not_imp_comm.mp hroom.mpr hfull
  | markDone id => exact modifyFirst?_eq_none_iff
  | remove id => exact remove?_eq_none_iff

theorem after_of_refuses (hnumbered : tasks.Numbered) (hrefuses : tasks.Refuses edit) :
    tasks.after edit = tasks := by
  rw [after, (hnumbered.edit?_eq_none_iff edit).mpr hrefuses, Option.getD_none]

theorem Numbered.turns (hnumbered : tasks.Numbered) (edit : Edit) :
    tasks.Turns edit (tasks.after edit) := by
  by_cases hrefuses : tasks.Refuses edit
  · rw [after_of_refuses hnumbered hrefuses]
    exact .refused hrefuses
  · have haccepts := mt (hnumbered.edit?_eq_none_iff edit).mp hrefuses
    obtain ⟨later, hedit⟩ := Option.ne_none_iff_exists'.mp haccepts
    rw [after, hedit, Option.getD_some]
    cases edit with
    | add text =>
      have hroom := hnumbered.lastId_lt_iff.mpr hrefuses
      rw [edit?, add?_eq, if_pos hroom] at hedit
      obtain rfl := Option.some.inj hedit
      have hnonneg := lastId_nonneg fun task hmem => (hnumbered.range task hmem).1
      refine .added hrefuses (by omega) (by omega) fun task hmem => ?_
      have hle := le_lastId hmem
      omega
    | markDone id =>
      rw [hnumbered.markDone?_eq hedit]
      exact .marked hrefuses
    | remove id =>
      rw [hnumbered.remove?_eq hedit]
      exact .removed hrefuses

theorem map_id_complete (tasks : TaskList) (id : Int) :
    (tasks.map fun task => if task.id = id then task.complete else task).map (·.id) =
      tasks.map (·.id) := by
  rw [List.map_map]
  refine List.map_congr_left fun task _ => ?_
  dsimp only [Function.comp_apply]
  split <;> rfl

theorem Turns.numbered (hturns : tasks.Turns edit later) (hnumbered : tasks.Numbered) :
    later.Numbered := by
  cases hturns with
  | refused _ => exact hnumbered
  | added _ hpositive hle habove =>
    constructor
    · rw [List.map_append, List.nodup_append]
      refine ⟨hnumbered.nodup, by simp, ?_⟩
      rintro _ hmem _ hnew rfl
      obtain ⟨task, htask, hid⟩ := List.mem_map.mp hmem
      have hlt := habove task htask
      rw [hid, List.mem_singleton.mp hnew] at hlt
      exact Int.lt_irrefl _ hlt
    · intro task hmem
      rcases List.mem_append.mp hmem with hold | hnew
      · exact hnumbered.range task hold
      · obtain rfl := List.mem_singleton.mp hnew
        exact ⟨by dsimp only; omega, hle⟩
  | marked _ =>
    constructor
    · rw [map_id_complete]
      exact hnumbered.nodup
    · intro task hmem
      obtain ⟨origin, horigin, rfl⟩ := List.mem_map.mp hmem
      have hrange := hnumbered.range origin horigin
      split <;> exact hrange
  | removed _ =>
    exact ⟨hnumbered.nodup.sublist (List.filter_sublist.map _),
      fun task hmem => hnumbered.range task (List.mem_of_mem_filter hmem)⟩

theorem Turns.ascending (hturns : tasks.Turns edit later) (hascending : tasks.Ascending) :
    later.Ascending := by
  cases hturns with
  | refused _ => exact hascending
  | added _ hpositive _ habove =>
    constructor
    · rw [List.map_append, List.pairwise_append]
      refine ⟨hascending.sorted, by simp, ?_⟩
      intro number hmem new hnew
      obtain ⟨task, htask, rfl⟩ := List.mem_map.mp hmem
      obtain rfl := List.mem_singleton.mp hnew
      exact habove task htask
    · intro task hmem
      rcases List.mem_append.mp hmem with hold | hnew
      · exact hascending.positive task hold
      · obtain rfl := List.mem_singleton.mp hnew
        exact hpositive
  | marked _ =>
    constructor
    · rw [map_id_complete]
      exact hascending.sorted
    · intro task hmem
      obtain ⟨origin, horigin, rfl⟩ := List.mem_map.mp hmem
      have hpositive := hascending.positive origin horigin
      split <;> exact hpositive
  | removed _ =>
    exact ⟨hascending.sorted.sublist (List.filter_sublist.map _),
      fun task hmem => hascending.positive task (List.mem_of_mem_filter hmem)⟩

theorem forall₂_becomes_self (tasks : TaskList) : List.Forall₂ Task.Becomes tasks tasks :=
  List.forall₂_same.mpr fun task _ => .refl task

theorem forall₂_becomes_trans (hfirst : List.Forall₂ Task.Becomes tasks middle)
    (hsecond : List.Forall₂ Task.Becomes middle later) :
    List.Forall₂ Task.Becomes tasks later := by
  induction hfirst generalizing later with
  | nil => exact hsecond
  | cons hbecomes _ ih =>
    cases hsecond with
    | cons hfurther hrest => exact .cons (hbecomes.trans hfurther) (ih hrest)

theorem Keeps.refl (tasks : TaskList) : Keeps [] tasks tasks :=
  ⟨tasks, [], by simp, by simpa using forall₂_becomes_self tasks⟩

/-- Edits that name none of the tasks for removal keep all of them. -/
theorem Keeps.of_forall₂ {edits : List Edit} {kept added : TaskList}
    (hlater : later = kept ++ added) (hnamed : ∀ task ∈ tasks, .remove task.id ∉ edits)
    (hkept : List.Forall₂ Task.Becomes tasks kept) : Keeps edits tasks later := by
  refine ⟨kept, added, hlater, ?_⟩
  rwa [List.filter_eq_self.mpr fun task hmem => decide_eq_true (hnamed task hmem)]

/-- What was kept by some edits and is not removed by others is kept by all of them. -/
theorem Keeps.trans {first second : List Edit} (hfirst : Keeps first tasks middle)
    (hsecond : Keeps second middle later) : Keeps (first ++ second) tasks later := by
  obtain ⟨kept, added, rfl, hkept⟩ := hfirst
  obtain ⟨rest, more, rfl, hrest⟩ := hsecond
  let spared (task : Task) : Bool := .remove task.id ∉ second
  rw [List.filter_append] at hrest
  have hfront := (List.forall₂_take_append _ _ _ hrest.flip).flip
  refine ⟨rest.take (kept.filter spared).length, rest.drop (kept.filter spared).length ++ more,
    by rw [← List.append_assoc, List.take_append_drop], ?_⟩
  have hspared := List.rel_filter (p := spared) (q := spared)
    (fun task other hbecomes => by simp only [spared, hbecomes.id]) hkept
  have hboth : (tasks.filter fun task => .remove task.id ∉ first ++ second) =
      (tasks.filter fun task => .remove task.id ∉ first).filter spared := by
    rw [List.filter_filter]
    refine List.filter_congr fun task _ => ?_
    simp [spared, Bool.and_comm]
  rw [hboth]
  exact forall₂_becomes_trans hspared hfront

theorem Turns.keeps (hturns : tasks.Turns edit later) : Keeps [edit] tasks later := by
  cases hturns with
  | refused hrefuses =>
    refine .of_forall₂ (List.append_nil tasks).symm ?_ (forall₂_becomes_self tasks)
    intro task hmem
    cases edit with
    | add text => simp
    | markDone id => simp
    | remove id => simpa using hrefuses task hmem
  | added _ _ _ _ => exact .of_forall₂ rfl (by simp) (forall₂_becomes_self tasks)
  | marked _ =>
    refine .of_forall₂ (List.append_nil _).symm (by simp) ?_
    rw [List.forall₂_map_right_iff]
    refine List.forall₂_same.mpr fun task _ => ?_
    split
    · exact task.becomes_complete
    · exact .refl task
  | @removed id _ =>
    refine ⟨_, [], (List.append_nil _).symm, ?_⟩
    simpa only [List.mem_singleton, Edit.remove.injEq] using
      forall₂_becomes_self (tasks.filter (·.id ≠ id))

theorem afterAll_append (tasks : TaskList) (sofar later : List Edit) :
    tasks.afterAll (sofar ++ later) = (tasks.afterAll sofar).afterAll later := by
  simp [afterAll]

/-- What no edit breaks still holds after a run of edits. -/
theorem Numbered.throughout {holds : TaskList → Prop} (hnumbered : tasks.Numbered)
    (hholds : holds tasks)
    (hturn : ∀ {tasks edit later}, Turns tasks edit later → holds tasks → holds later)
    (edits : List Edit) :
    (tasks.afterAll edits).Numbered ∧ holds (tasks.afterAll edits) := by
  induction edits generalizing tasks with
  | nil => exact ⟨hnumbered, hholds⟩
  | cons edit rest ih =>
    have hturns := hnumbered.turns edit
    exact ih (hturns.numbered hnumbered) (hturn hturns hholds)

theorem Numbered.afterAll (hnumbered : tasks.Numbered) (edits : List Edit) :
    (tasks.afterAll edits).Numbered :=
  (hnumbered.throughout hnumbered Turns.numbered edits).1

theorem Numbered.ascending (hnumbered : tasks.Numbered) (hascending : tasks.Ascending)
    (edits : List Edit) : (tasks.afterAll edits).Ascending :=
  (hnumbered.throughout hascending Turns.ascending edits).2

theorem Numbered.keeps (hnumbered : tasks.Numbered) (edits : List Edit) :
    Keeps edits tasks (tasks.afterAll edits) := by
  induction edits generalizing tasks with
  | nil => exact .refl tasks
  | cons edit rest ih =>
    have hturns := hnumbered.turns edit
    exact hturns.keeps.trans (ih (hturns.numbered hnumbered))

/-- At any time in a run of edits each task has a number of its own that can be stored. It is known
    which edits are refused then and what the others do, and that later edits keep every task that
    they do not remove. From the empty list on, the numbers grow along the list. -/
theorem numbered_throughout (hnumbered : tasks.Numbered) (sofar : List Edit) :
    (tasks.afterAll sofar).Numbered ∧
      (∀ edit, ((tasks.afterAll sofar).edit? edit = none ↔ (tasks.afterAll sofar).Refuses edit) ∧
        (tasks.afterAll sofar).Turns edit (tasks.afterAll (sofar ++ [edit]))) ∧
      (∀ later, Keeps later (tasks.afterAll sofar) (tasks.afterAll (sofar ++ later))) ∧
      (tasks = [] → (tasks.afterAll sofar).Ascending) := by
  have hsofar := hnumbered.afterAll sofar
  refine ⟨hsofar, fun edit => ⟨hsofar.edit?_eq_none_iff edit, ?_⟩, fun later => ?_, ?_⟩
  · rw [afterAll_append]
    exact hsofar.turns edit
  · rw [afterAll_append]
    exact hsofar.keeps later
  · rintro rfl
    exact hnumbered.ascending ⟨.nil, by simp⟩ sofar

/-- While the largest number is in use nothing can be added. Once its task was removed, the next
    number is one more than the largest that is left. -/
theorem numbered_throughout_from_largest :
    let tasks : TaskList := [⟨7, "a", true⟩, ⟨Task.maxId, "b", false⟩]
    let edits : List Edit := [.add "c", .remove Task.maxId, .add "d"]
    tasks.Numbered ∧ tasks.afterAll edits = [⟨7, "a", true⟩, ⟨8, "d", false⟩] ∧
      (tasks.afterAll edits).Numbered ∧ Keeps edits tasks (tasks.afterAll edits) ∧
      tasks.Turns (.add "c") (tasks.after (.add "c")) := by
  intro tasks edits
  have hnumbered : tasks.Numbered := ⟨by decide, by decide⟩
  obtain ⟨-, hfirst, hkeeps, -⟩ := numbered_throughout hnumbered []
  exact ⟨hnumbered, by decide, (numbered_throughout hnumbered edits).1, hkeeps edits,
    (hfirst (.add "c")).2⟩

end TaskList

end Checklist
