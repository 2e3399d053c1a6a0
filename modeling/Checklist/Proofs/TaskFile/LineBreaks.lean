import Checklist.Proofs.TaskFile.RoundTrip
import Checklist.Proofs.TaskFile.Telling

namespace Checklist

/-- The warning that a task will not be read back as it is. -/
def Task.breakWarning (task : Task) : Log.Record where
  level := Log.warning
  logger := "tiny_todo.tasks.task_models"
  message := s!"Task {task.id} text contains a line break; it will not load back intact"

namespace Task

variable {task : Task}

theorem hasLineBreak_iff :
    task.hasLineBreak = true ↔ .char '\n' ∈ task.text ∨ .char '\r' ∈ task.text := by
  simp [hasLineBreak, and_or_left, exists_or]

theorem lineRecords_eq (task : Task) :
    task.lineRecords = if task.hasLineBreak then [task.breakWarning] else [] := rfl

/-- Of the records of a save only the warnings are not about the file. -/
theorem breakWarning_mem_iff (file : TaskFile) (saved : Nat) :
    task.breakWarning ∈ task.lineRecords ++ [file.savedRecord saved] ↔
      task.hasLineBreak = true := by
  have hsaved : task.breakWarning ≠ file.savedRecord saved := by
    intro heq
    have hlevel : Log.warning = Log.debug := congrArg Log.Record.level heq
    cases hlevel
  rw [lineRecords_eq]
  split
  · next hbreak => simp [hbreak]
  · next hbreak => simp [hbreak, hsaved]

end Task

namespace TaskFile

variable {file : TaskFile} {faults : SaveFaults} {task : Task} {before after : Session}

/-- However strictly the file is read, a save of one task is followed by a load of that task if the
    task is storable. -/
theorem load_after_save_single_iff (strict : Bool) (hapart : before.LogsApart file)
    (hsave : (file.save { tasks := [task] } faults).runFrom before = (.ok (), after)) :
    (∃ loaded, (load { path := file.path, strict }).runFrom after = (.ok [task], loaded)) ↔
      task.Storable := by
  obtain ⟨hparent, hfound⟩ := shows_of_save (name_ne_of_save hsave) hapart.draft hsave
  have hshows : Shows { path := file.path, strict } after.tree after.directory
      (some (TaskList.content [task])) := ⟨hparent, hfound⟩
  obtain ⟨loaded, hload, -⟩ := runFrom_load { path := file.path, strict } after
  have hread : (Reading.ofBytes strict file.path (TaskList.content [task])).outcome = .ok [task] ↔
      task.Storable := by
    rw [Reading.ofBytes_content_eq_ok_iff, List.forall_mem_singleton]
  rw [hload, hshows.loadOutcome, contentOutcome, ← hread]
  constructor
  · rintro ⟨other, heq⟩
    exact (Prod.mk.inj heq).1
  · intro hread
    exact ⟨loaded, by rw [hread]⟩

/-- The task of a file with one task is loaded again if its text has neither a line feed nor a
    carriage return at its end. The warning is given wherever the task is not loaded again, but it
    is also given for a carriage return before the end, which does no harm. -/
theorem warned_of_not_loaded (hid : 0 ≤ task.id ∧ task.id ≤ Task.maxId)
    (hapart : before.LogsApart file)
    (hsave : (file.save { tasks := [task] } faults).runFrom before = (.ok (), after)) :
    let warned := task.breakWarning ∈ after.records.drop before.records.length
    let loadedAgain :=
      ∃ loaded, (load { path := file.path }).runFrom after = (.ok [task], loaded)
    (loadedAgain ↔ .char '\n' ∉ task.text ∧ task.text.getLast? ≠ some (.char '\r')) ∧
      (warned ↔ ¬ loadedAgain ∨ .char '\r' ∈ task.text) := by
  intro warned loadedAgain
  have hloaded : loadedAgain ↔
      .char '\n' ∉ task.text ∧ task.text.getLast? ≠ some (.char '\r') := by
    have hstorable := (load_after_save_single_iff false hapart hsave).trans
      (storable_iff_of_save hsave List.mem_cons_self)
    exact hstorable.trans ⟨fun h => h.2.2, fun h => ⟨hid.1, hid.2, h⟩⟩
  have hwarned : warned ↔ .char '\n' ∈ task.text ∨ .char '\r' ∈ task.text := by
    have hissued : after.records.drop before.records.length =
        task.lineRecords ++ [file.savedRecord 1] := by
      rw [(tells_of_save hsave).issued, List.drop_left]
      simp
    rw [← Task.hasLineBreak_iff, ← Task.breakWarning_mem_iff file 1, ← hissued]
  have hlast : task.text.getLast? = some (.char '\r') → .char '\r' ∈ task.text :=
    List.mem_of_getLast?
  refine ⟨hloaded, ?_⟩
  rw [hwarned, hloaded]
  tauto

/-- A carriage return at the end is lost, and one before it is not. -/
theorem warned_of_not_loaded_final_return :
    let file : TaskFile := { path := ⟨.here, ["t"]⟩, strict := true }
    let before : Session := { tree := {}, directory := [], clock := 0 }
    let task : Task := ⟨7, "a\rb\r", true⟩
    ∃ after, (file.save { tasks := [task] }).runFrom before = (.ok (), after) ∧
      task.breakWarning ∈ after.records.drop before.records.length ∧
      ¬ ∃ loaded, (load { path := file.path }).runFrom after = (.ok [task], loaded) := by
  intro file before task
  have hapart : before.LogsApart file := ⟨by decide, by decide⟩
  have hsave := Attempt.runFrom_eq_of_fst
    (show ((file.save { tasks := [task] }).runFrom before).1 = .ok () by decide +kernel)
  obtain ⟨hloaded, hwarned⟩ := warned_of_not_loaded (by decide) hapart hsave
  have hlost := mt hloaded.mp (by decide)
  exact ⟨_, hsave, hwarned.mpr (.inl hlost), hlost⟩

/-- A carriage return inside the text is warned about, and the task is loaded again all the same. -/
theorem warned_though_loaded :
    let file : TaskFile := { path := ⟨.here, ["t"]⟩ }
    let before : Session := { tree := {}, directory := [], clock := 0 }
    let task : Task := ⟨1, "a\rb", false⟩
    let saved := (file.save { tasks := [task] }).runFrom before
    saved.1 = .ok () ∧ task.breakWarning ∈ saved.2.records.drop before.records.length ∧
      (file.load.runFrom saved.2).1 = .ok [task] := by
  dsimp only
  and_intros
  all_goals decide +kernel

end TaskFile

end Checklist
