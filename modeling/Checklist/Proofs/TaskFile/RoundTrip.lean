import Checklist.Proofs.TaskFile.Lines
import Checklist.Proofs.TaskFile.Loading
import Mathlib.Control.Monad.Basic

namespace Checklist.TaskFile

variable {file : TaskFile} {source : TaskSource} {faults : SaveFaults} {before after : Session}

theorem name_ne_of_save (hsave : (file.save source faults).runFrom before = (.ok (), after)) :
    file.path.name ≠ "" := by
  intro hname
  obtain ⟨-, -, draft, -, -, -, hdraft, -⟩ := save_steps_of_ok hsave
  rw [draft?, Path.withName?, if_pos hname] at hdraft
  cases hdraft

/-- What was saved can be encoded, so that a task is storable by its number and its line breaks
    alone. -/
theorem storable_iff_of_save {tasks : TaskList} {task : Task}
    (hsave : (file.save { tasks } faults).runFrom before = (.ok (), after)) (hmem : task ∈ tasks) :
    task.Storable ↔ 0 ≤ task.id ∧ task.id ≤ Task.maxId ∧ .char '\n' ∉ task.text ∧
      task.text.getLast? ≠ some (.char '\r') := by
  have hencodable :=
    (Task.writingFailure?_eq_none_iff.mp (writingFailure?_of_save hsave task hmem)).2
  rw [task.storable_iff]
  simp [hencodable]

/-- What is saved is loaded again, task by task and in the same order, if each task has a number in
    range and a text without line feeds that does not end in a carriage return. Otherwise a load
    gives something else or fails. The log may be written to the file itself, where it is lost, but
    not to the draft. -/
theorem load_after_save_iff {tasks : TaskList}
    (hlog : file.draftPath.place before.directory ∉ before.logPlaces)
    (hsave : (file.save { tasks } faults).runFrom before = (.ok (), after)) :
    (∃ loaded, file.load.runFrom after = (.ok tasks, loaded)) ↔
      ∀ task ∈ tasks, 0 ≤ task.id ∧ task.id ≤ Task.maxId ∧ .char '\n' ∉ task.text ∧
        task.text.getLast? ≠ some (.char '\r') := by
  have hshows := shows_of_save (name_ne_of_save hsave) hlog hsave
  obtain ⟨loaded, hload, -⟩ := file.runFrom_load after
  rw [hshows.loadOutcome, contentOutcome] at hload
  have hread : (Reading.ofBytes file.strict file.path tasks.content).outcome = .ok tasks ↔
      ∀ task ∈ tasks, task.Storable := Reading.ofBytes_content_eq_ok_iff
  have hstorable := forall₂_congr fun task (hmem : task ∈ tasks) => storable_iff_of_save hsave hmem
  rw [← hstorable, ← hread, hload]
  constructor
  · rintro ⟨other, heq⟩
    exact (Prod.mk.inj heq).1
  · intro hread
    exact ⟨loaded, by rw [hread]⟩

theorem load_after_save_inner_return :
    let file : TaskFile := { path := ⟨.here, ["t"]⟩, strict := true }
    let before : Session := { tree := {}, directory := [], clock := 0 }
    let tasks : TaskList := [⟨7, " a|b\r ", true⟩, ⟨7, "", false⟩]
    ∃ saved loaded, (file.save { tasks }).runFrom before = (.ok (), saved) ∧
      file.load.runFrom saved = (.ok tasks, loaded) := by
  intro file before tasks
  have hlog : file.draftPath.place before.directory ∉ before.logPlaces := by decide
  have hsave := Attempt.runFrom_eq_of_fst
    (show ((file.save { tasks }).runFrom before).1 = .ok () by decide +kernel)
  obtain ⟨loaded, hload⟩ := (load_after_save_iff hlog hsave).mpr (by decide)
  exact ⟨_, loaded, hsave, hload⟩

/-- A log that is open at the place of the draft gets into the file that is saved, and a strict load
    refuses it. -/
theorem log_breaks_load_after_save :
    let file : TaskFile := { path := ⟨.here, ["t"]⟩, strict := true }
    let routing : Log.Routing :=
      { level := Log.debug
        handlers := [⟨Log.warning, .console⟩, ⟨Log.debug, .file (some ["t.tmp"])⟩] }
    let before : Session :=
      { tree := ⟨[(["t.tmp"], .file [])]⟩, directory := [], clock := 0,
        routing }
    let tasks : TaskList := [⟨1, "y", false⟩]
    let saved := (file.save { tasks }).runFrom before
    saved.1 = .ok () ∧ (∀ task ∈ tasks, task.Storable) ∧
      (file.load.runFrom saved.2).1 ≠ .ok tasks := by
  refine ⟨?_, ?_, ?_⟩
  all_goals decide +kernel

end Checklist.TaskFile
