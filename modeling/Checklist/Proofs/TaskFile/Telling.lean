import Checklist.Proofs.Session.Telling
import Checklist.Proofs.TaskFile.Writing
import Checklist.TaskFile

namespace Checklist

namespace Writing

/-- The records among the steps of writing, in their order. -/
def records (steps : List WriteStep) : List Log.Record :=
  steps.filterMap fun
    | .record record => some record
    | .portion _ => none

@[simp] theorem records_append (front back : List WriteStep) :
    records (front ++ back) = records front ++ records back :=
  List.filterMap_append

@[simp] theorem records_map_record (issued : List Log.Record) :
    records (issued.map .record) = issued := by
  simp [records, List.filterMap_map]

@[simp] theorem records_map_portion (portions : Portions) :
    records (portions.map .portion) = [] := by
  simp [records, List.filterMap_map]

/-- Tasks that can all be written issue their records one task after the other. -/
theorem records_ofTasks {interruption : Option String} {tasks : List Task}
    (hwritable : ∀ task ∈ tasks, task.writingFailure? = none) (backlog : Backlog) :
    records (ofTasks interruption backlog tasks).steps = tasks.flatMap Task.lineRecords := by
  induction tasks generalizing backlog with
  | nil => rfl
  | cons task rest ih =>
    have hrest := ih fun other hmem => hwritable other (List.mem_cons_of_mem _ hmem)
    rw [ofTasks, hwritable task List.mem_cons_self]
    simp only [records_append, records_map_record, records_map_portion, List.append_nil,
      hrest, List.flatMap_cons]

end Writing

namespace TaskFile

variable {file : TaskFile} {source : TaskSource} {faults : SaveFaults}
  {session before after : Session}

/-- Whatever a load comes to, it issues no warning. -/
theorem tellsOnly_load (file : TaskFile) :
    file.load.TellsOnly fun record => record.level ≤ Log.info := by
  have hensure := Session.isSilent_makeDirectories file.path.parent
  have hpeek := Session.isSilent_inspect fun tree directory => tree.peek? directory file.path
  have hread := Session.isSilent_inspect fun tree directory => tree.read directory file.path
  have hdebug : Log.debug ≤ Log.info := by decide
  refine hensure.tellsOnly.bind fun _ => hpeek.tellsOnly.bind fun entry? => ?_
  cases entry? with
  | none => exact .bind (.log hdebug) fun _ => .pure []
  | some entry =>
    refine hread.tellsOnly.bind fun content => ?_
    refine .bind (.logAll ?_) fun _ => ?_
    · intro record hmem
      obtain ⟨skip, -, rfl⟩ := List.mem_map.mp hmem
      exact Int.le_refl _
    · cases (Reading.ofBytes file.strict file.path content).outcome with
      | error failure => exact .throw failure
      | ok tasks => exact .bind (.log hdebug) fun _ => .pure tasks

theorem isSilent_failOn (fault : Option String) : (failOn fault).IsSilent := by
  intro session
  cases fault <;> exact .refl session

/-- Taking the steps of writing issues the records among them. -/
theorem tells_of_take (place : Location) (written : Nat) (steps : List WriteStep)
    (session : Session) :
    session.Tells (Writing.records steps) ((take place written steps).runFrom session).2 := by
  induction steps generalizing session written with
  | nil => exact .refl session
  | cons step rest ih =>
    cases step with
    | record record =>
      rw [take, Attempt.runFrom_bind_of_ok (Session.runFrom_log record session)]
      exact (session.tells_issue record).trans (ih written _)
    | portion bytes =>
      have hsilent := Session.isSilent_overwrite place written bytes session
      rw [take, Attempt.runFrom_bind_of_ok (Session.runFrom_overwrite _ _ _ _)]
      exact hsilent.trans (ih (written + bytes.length) _)

theorem tells_of_writeThrough {draft : Path}
    (hwrite : (file.writeThrough draft source faults).runFrom before = (.ok (), after)) :
    before.Tells (source.tasks.flatMap Task.lineRecords) after := by
  have hwritable := writingFailure?_of_writeThrough hwrite
  obtain ⟨place, opened, hopen, hwrite⟩ := Attempt.runFrom_bind_eq_ok_iff.mp hwrite
  obtain ⟨_, filled, htake, hwrite⟩ := Attempt.runFrom_bind_eq_ok_iff.mp hwrite
  obtain ⟨_, unfaulted, hfault, hcreate⟩ := Attempt.runFrom_bind_eq_ok_iff.mp hopen
  have hopened := ((isSilent_failOn _).tells hfault).trans
    ((Session.isSilent_change _).tells hcreate)
  have hfilled := tells_of_take place 0 (Writing.ofTasks source.failure {} source.tasks).steps opened
  rw [htake, Writing.records_ofTasks hwritable] at hfilled
  split at hwrite
  · cases hwrite
  · obtain ⟨_, synced, hsync, hwrite⟩ := Attempt.runFrom_bind_eq_ok_iff.mp hwrite
    obtain ⟨_, settled, hreplacing, hrename⟩ := Attempt.runFrom_bind_eq_ok_iff.mp hwrite
    have hplaced := ((isSilent_failOn _).tells hsync).trans
      (((isSilent_failOn _).tells hreplacing).trans ((Session.isSilent_rename _ _).tells hrename))
    exact (hopened.trans hfilled).trans_silent hplaced

/-- A save that succeeds issues the records of the tasks, in the order of the list, and in the end
    that of the save. -/
theorem tells_of_save (hsave : (file.save source faults).runFrom before = (.ok (), after)) :
    before.Tells
      (source.tasks.flatMap Task.lineRecords ++ [file.savedRecord source.tasks.length]) after := by
  obtain ⟨unfaulted, rooted, draft, written, hfault, hroot, -, hwrite, rfl⟩ := save_steps_of_ok hsave
  have hready := ((isSilent_failOn _).tells hfault).trans
    ((Session.isSilent_makeDirectories _).tells hroot)
  exact (hready.trans (tells_of_writeThrough hwrite)).trans (written.tells_issue _)

end TaskFile

end Checklist
