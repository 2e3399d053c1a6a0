import Checklist.Proofs.TaskList.Shared
import Mathlib.Data.List.Find

namespace Checklist.SharedTasks

variable {shared plain grown : SharedTasks} {task new : Task} {id : Int} {ref place held : Nat}
  {change : Task → Task}

/-- A list is like another one but for one more task at its end. What was made besides is of no
    concern. -/
structure Beside (new : Task) (place : Nat) (plain grown : SharedTasks) : Prop where
  length : plain.made.length = place
  refs : grown.refs = plain.refs ++ [place]
  old : ∀ ref < place, grown.made[ref]? = plain.made[ref]?
  added : grown.made[place]? = some new
  others : ∀ task ∈ plain.tasks, task.id ≠ new.id

namespace Beside

theorem ref_lt (hbeside : Beside new place plain grown) (hmem : ref ∈ plain.refs) : ref < place :=
  hbeside.length ▸ plain.refs_lt ref hmem

theorem filterMap_made (hbeside : Beside new place plain grown) :
    plain.refs.filterMap (grown.made[·]?) = plain.tasks :=
  List.filterMap_congr fun ref hmem => hbeside.old ref (hbeside.ref_lt hmem)

theorem tasks_eq (hbeside : Beside new place plain grown) : grown.tasks = plain.tasks ++ [new] := by
  rw [tasks, hbeside.refs, List.filterMap_append, hbeside.filterMap_made,
    List.filterMap_cons_some hbeside.added, List.filterMap_nil]

theorem find?_front (hbeside : Beside new place plain grown) (id : Int) :
    plain.refs.find? (grown.leadsTo id) = plain.find? id :=
  List.find?_congr fun ref hmem => by
    rw [leadsTo, hbeside.old ref (hbeside.ref_lt hmem), ← leadsTo]

/-- The task at the end is found by its own number only. -/
theorem find?_of_ne (hbeside : Beside new place plain grown) (hid : id ≠ new.id) :
    grown.find? id = plain.find? id := by
  have hnot : grown.leadsTo id place = false := by
    rw [leadsTo, hbeside.added]
    simp [hid.symm]
  rw [find?, hbeside.refs, List.find?_append, hbeside.find?_front,
    List.find?_singleton, hnot]
  exact Option.or_none

theorem find?_new (hbeside : Beside new place plain grown) : grown.find? new.id = some place := by
  have hleads : grown.leadsTo new.id place = true :=
    leadsTo_iff.mpr ⟨new, hbeside.added, rfl⟩
  rw [find?, hbeside.refs, List.find?_append, hbeside.find?_front,
    find?_eq_none_iff.mpr hbeside.others, List.find?_singleton, hleads]
  rfl

/-- What happens to a task that was made later does not show. -/
theorem modify_later (hbeside : Beside new place plain grown) (hlater : place < ref) :
    Beside new place plain (grown.modify ref change) where
  length := hbeside.length
  refs := hbeside.refs
  old := by
    intro other hother
    rw [getElem?_modify, if_neg (by omega), hbeside.old other hother]
  added := by
    rw [getElem?_modify, if_neg (by omega), hbeside.added]
  others := hbeside.others

theorem modify_both (hbeside : Beside new place plain grown) (hmem : ref ∈ plain.refs)
    (hid : ∀ task, (change task).id = task.id) :
    Beside new place (plain.modify ref change) (grown.modify ref change) where
  length := by rw [length_made_modify, hbeside.length]
  refs := hbeside.refs
  old := by
    intro other hother
    rw [getElem?_modify, getElem?_modify, hbeside.old other hother]
  added := by
    have hlt := hbeside.ref_lt hmem
    rw [getElem?_modify, if_neg (by omega), hbeside.added]
  others := by
    intro task htask
    obtain ⟨origin, horigin, horiginId⟩ := exists_of_mem_modify hid htask
    exact horiginId ▸ hbeside.others origin horigin

theorem erase_both (hbeside : Beside new place plain grown) (hmem : ref ∈ plain.refs) :
    Beside new place (plain.erase ref) (grown.erase ref) where
  length := hbeside.length
  refs := by rw [refs_erase, hbeside.refs, List.erase_append_left _ hmem, refs_erase]
  old := hbeside.old
  added := hbeside.added
  others := fun task htask =>
    hbeside.others task ((List.erase_sublist.filterMap _).subset htask)

/-- A step at the first task of another number concerns both lists or neither. -/
theorem at_found (hbeside : Beside new place plain grown) (hid : id ≠ new.id)
    (step : SharedTasks → Nat → SharedTasks)
    (hstep : ∀ ref ∈ plain.refs, Beside new place (step plain ref) (step grown ref)) :
    ((grown.find? id).map (step grown)).isSome = ((plain.find? id).map (step plain)).isSome ∧
      Beside new place (((plain.find? id).map (step plain)).getD plain)
        (((grown.find? id).map (step grown)).getD grown) := by
  rw [hbeside.find?_of_ne hid]
  cases hfind : plain.find? id with
  | none => exact ⟨rfl, hbeside⟩
  | some ref => exact ⟨rfl, hstep ref (List.mem_of_find?_eq_some hfind)⟩

end Beside

/-- What is done to a list while a reference is held: an edit, or a change to the task that the
    reference leads to. -/
inductive Act where
  | edit (edit : TaskList.Edit)
  | change (change : Task → Task)

def Act.isEdit : Act → Bool
  | .edit _ => true
  | .change _ => false

/-- What came of edits, in order, and the list after them. -/
structure Outcome where
  /-- For each edit, whether it was not refused. -/
  done : List Bool
  last : SharedTasks

/-- Does one thing after another. An edit that is refused leaves the list alone. -/
def run (held : Nat) : SharedTasks → List Act → Outcome
  | shared, [] => ⟨[], shared⟩
  | shared, .change change :: rest => run held (shared.modify held change) rest
  | shared, .edit edit :: rest =>
    let outcome := run held (shared.after edit) rest
    { outcome with done := (shared.edit? edit).isSome :: outcome.done }

namespace Beside

/-- An edit at another number is refused in both lists or in neither, and they stay alike. -/
theorem edit (hbeside : Beside new place plain grown) {edit : TaskList.Edit}
    (hedit : ∃ id ≠ new.id, edit = .markDone id ∨ edit = .remove id) :
    (grown.edit? edit).isSome = (plain.edit? edit).isSome ∧
      Beside new place (plain.after edit) (grown.after edit) := by
  obtain ⟨id, hid, rfl | rfl⟩ := hedit
  · exact hbeside.at_found hid (fun shared ref => shared.modify ref Task.complete)
      fun ref hmem => hbeside.modify_both hmem fun _ => rfl
  · exact hbeside.at_found hid erase fun ref hmem => hbeside.erase_both hmem

theorem run (hbeside : Beside new place plain grown) (hlater : place < held) {acts : List Act}
    (hedits : ∀ edit, .edit edit ∈ acts → ∃ id ≠ new.id, edit = .markDone id ∨ edit = .remove id) :
    (grown.run held acts).done = (plain.run held (acts.filter Act.isEdit)).done ∧
      Beside new place (plain.run held (acts.filter Act.isEdit)).last
        (grown.run held acts).last := by
  induction acts generalizing plain grown with
  | nil => exact ⟨rfl, hbeside⟩
  | cons act rest ih =>
    have hrest := fun edit hmem => hedits edit (List.mem_cons_of_mem _ hmem)
    cases act with
    | change change => exact ih (hbeside.modify_later hlater) hrest
    | edit edit =>
      obtain ⟨hdone, hnext⟩ := hbeside.edit (hedits edit List.mem_cons_self)
      obtain ⟨hdoneRest, hlast⟩ := ih hnext hrest
      refine ⟨?_, hlast⟩
      rw [SharedTasks.run, List.filter_cons_of_pos rfl, SharedTasks.run, hdone, hdoneRest]

theorem remove?_new (hbeside : Beside new place plain grown) :
    grown.remove? new.id = some (grown.erase place) := by
  rw [remove?, hbeside.find?_new]
  rfl

/-- Removing the task at the end leaves what stood before it. -/
theorem tasks_erase (hbeside : Beside new place plain grown) :
    (grown.erase place).tasks = plain.tasks := by
  have hnew : place ∉ plain.refs := fun hmem => Nat.lt_irrefl _ (hbeside.ref_lt hmem)
  rw [tasks, made_erase, refs_erase, hbeside.refs, List.erase_append_right _ hnew,
    List.erase_cons_head, List.append_nil]
  exact hbeside.filterMap_made

end Beside

theorem beside_push (hothers : ∀ task ∈ shared.tasks, task.id ≠ new.id) (others : List Task) :
    Beside new shared.made.length shared (shared.push new others) where
  length := rfl
  refs := rfl
  old := fun _ hlt => List.getElem?_append_left hlt
  added := by simp
  others := hothers

/-- What a new task brings into a list is gone once it is removed, whatever happened to the other
    tasks in between. A change to the copy that was handed out does not reach the list. -/
theorem added_task_undone (shared : SharedTasks) (text : Text.RawText)
    (hbelow : ∀ task ∈ shared.tasks, task.id < Task.maxId) :
    ∃ id grown held, shared.tasks.nextId? = some id ∧ shared.add? text = some (grown, held) ∧
      grown.made[held]? = some ⟨id, text, false⟩ ∧
      ∀ acts,
        (∀ edit, .edit edit ∈ acts → ∃ other ≠ id, edit = .markDone other ∨ edit = .remove other) →
          let plain := shared.run held (acts.filter Act.isEdit)
          let outcome := grown.run held acts
          outcome.done = plain.done ∧
            outcome.last.tasks = plain.last.tasks ++ [⟨id, text, false⟩] ∧
            ∃ restored, outcome.last.remove? id = some restored ∧
              restored.tasks = plain.last.tasks := by
  obtain ⟨hnext, habove⟩ := TaskList.nextId?_of_forall_lt hbelow
  let new : Task := ⟨shared.tasks.lastId + 1, text, false⟩
  have hadd : shared.add? text = some (shared.push new [new], shared.made.length + 1) := by
    rw [add?, hnext]
    rfl
  have hcopy : (shared.push new [new]).made[shared.made.length + 1]? = some new := by simp
  have hbeside : Beside new shared.made.length shared (shared.push new [new]) :=
    beside_push habove [new]
  refine ⟨_, _, _, hnext, hadd, hcopy, fun acts hedits => ?_⟩
  obtain ⟨hdone, hlast⟩ := hbeside.run (Nat.lt_succ_self _) hedits
  exact ⟨hdone, hlast.tasks_eq, _, hlast.remove?_new, hlast.tasks_erase⟩

/-- The second and the last task here are one, and the third one has its number. The copy that was
    handed out gets that number too. -/
theorem added_task_undone_among_duplicates :
    let shared : SharedTasks :=
      { made := [⟨-3, "a", false⟩, ⟨5, "b", false⟩, ⟨5, "c", false⟩], refs := [0, 1, 2, 1] }
    let acts : List Act :=
      [.edit (.markDone 5), .change fun task => { task with id := 5, text := "x" },
        .edit (.remove 5), .edit (.remove 9), .edit (.markDone (-3))]
    ∃ grown held restored, shared.add? "d" = some (grown, held) ∧
      (grown.run held acts).done = [true, true, false, true] ∧
      (grown.run held acts).last.tasks =
        [⟨-3, "a", true⟩, ⟨5, "c", false⟩, ⟨5, "b", true⟩, ⟨6, "d", false⟩] ∧
      (grown.run held acts).last.remove? 6 = some restored ∧
      restored.tasks = [⟨-3, "a", true⟩, ⟨5, "c", false⟩, ⟨5, "b", true⟩] := by
  intro shared acts
  obtain ⟨id, grown, held, hnext, hadd, -, hacts⟩ :=
    added_task_undone shared "d" (by decide)
  obtain rfl : 6 = id := Option.some.inj hnext
  obtain rfl : 4 = held := congrArg Prod.snd (Option.some.inj hadd)
  obtain ⟨hdone, hlast, restored, hremove, hrestored⟩ := hacts acts (by simp [acts])
  have hplain : (shared.run 4 (acts.filter Act.isEdit)).done = [true, true, false, true] ∧
      (shared.run 4 (acts.filter Act.isEdit)).last.tasks =
        [⟨-3, "a", true⟩, ⟨5, "c", false⟩, ⟨5, "b", true⟩] := by decide +kernel
  rw [hplain.1] at hdone
  rw [hplain.2] at hlast hrestored
  exact ⟨grown, 4, restored, hadd, hdone, hlast, hremove, hrestored⟩

end Checklist.SharedTasks
