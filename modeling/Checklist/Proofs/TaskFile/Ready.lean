import Checklist.Proofs.TaskFile.Prepared
import Checklist.Proofs.TaskFile.RoundTrip

namespace Checklist

namespace TaskFile

variable {file : TaskFile} {tree other : FileTree} {directory : Location}
  {stored : Option TaskList}

/-- The file holds the lines of storable tasks, or it is not there, and nothing keeps it from being
    written. -/
structure Holds (file : TaskFile) (tree : FileTree) (directory : Location)
    (stored : Option TaskList) : Prop where
  creatable : file.Creatable tree directory
  entry : tree.get? (file.path.place directory) =
    stored.map fun tasks => .file (TaskList.content tasks)
  storable : ∀ task ∈ stored.getD [], task.Storable

/-- A file that holds tasks and whose directory is there. -/
structure Ready (file : TaskFile) (tree : FileTree) (directory : Location)
    (stored : Option TaskList) : Prop extends
    file.Prepared tree directory (stored.map TaskList.content) where
  storable : ∀ task ∈ stored.getD [], task.Storable

theorem map_file_content (stored : Option TaskList) :
    (stored.map TaskList.content).map Entry.file =
      stored.map fun tasks => .file (TaskList.content tasks) := by
  cases stored <;> rfl

theorem Holds.ready (hholds : file.Holds tree directory stored) :
    file.Ready (file.rooted tree directory) directory stored :=
  ⟨hholds.creatable.prepared (by rw [hholds.entry, map_file_content]), hholds.storable⟩

namespace Ready

theorem holds (hready : file.Ready tree directory stored) : file.Holds tree directory stored :=
  ⟨hready.creatable, by rw [hready.entry, map_file_content], hready.storable⟩

/-- The tasks in the file are what a load gives, strictly or not. -/
theorem contentOutcome (hready : file.Ready tree directory stored) :
    file.contentOutcome (stored.map TaskList.content) = .ok (stored.getD []) := by
  have hstorable := hready.storable
  cases stored with
  | none => rfl
  | some tasks => exact Reading.ofBytes_content_eq_ok_iff.mpr hstorable

theorem of_agrees (hready : file.Ready tree directory stored)
    (hagrees : other.AgreesExcept [] tree) : file.Ready other directory stored :=
  ⟨hready.toPrepared.of_agrees hagrees (by simp), hready.storable⟩

end Ready

theorem Holds.loadOutcome (hholds : file.Holds tree directory stored) :
    file.loadOutcome tree directory = .ok (stored.getD []) := by
  rw [loadOutcome_of_rooted hholds.creatable.parents hholds.ready.shows,
    hholds.ready.contentOutcome]

end TaskFile

namespace Session

variable {file : TaskFile} {stored : Option TaskList} {session : Session}

/-- A session without a log file in which a file holds tasks and its directory is there. -/
structure HasReady (session : Session) (file : TaskFile) (stored : Option TaskList) : Prop where
  ready : file.Ready session.tree session.directory stored
  quiet : session.logPlaces = []

theorem logsApart_of_quiet (hquiet : session.logPlaces = []) (file : TaskFile) :
    session.LogsApart file :=
  ⟨by simp [hquiet], by simp [hquiet]⟩

theorem HasReady.issue (hready : session.HasReady file stored) (record : Log.Record) :
    (session.issue record).HasReady file stored := by
  have hissued := session.continues_issue record
  refine ⟨?_, hissued.logPlaces.trans hready.quiet⟩
  rw [tree_issue hready.quiet, hissued.directory]
  exact hready.ready

theorem load_of_holds (hholds : file.Holds session.tree session.directory stored)
    (hquiet : session.logPlaces = []) :
    ∃ loaded, file.load.runFrom session = (.ok (stored.getD []), loaded) ∧
      loaded.HasReady file stored ∧ loaded.directory = session.directory := by
  obtain ⟨loaded, hload, hloaded⟩ := file.runFrom_load session
  refine ⟨loaded, ?_, ⟨?_, hloaded.logPlaces.trans hquiet⟩, hloaded.directory⟩
  · rw [hload, hholds.loadOutcome]
  · rw [hloaded.directory]
    exact hholds.ready.of_agrees (hquiet ▸ hloaded.tree)

/-- Storable tasks can be saved, and are what is held then. -/
theorem HasReady.save {tasks : TaskList} (hready : session.HasReady file stored)
    (hstorable : ∀ task ∈ tasks, task.Storable) :
    ∃ saved, (file.save { tasks }).runFrom session = (.ok (), saved) ∧
      saved.HasReady file (some tasks) ∧ saved.directory = session.directory := by
  obtain ⟨saved, hsave, hsaved, hprepared⟩ :=
    hready.ready.creatable.save hready.ready.entry (logsApart_of_quiet hready.quiet file)
      fun task hmem => (hstorable task hmem).toFitsLine.writingFailure?_eq_none
  refine ⟨saved, hsave, ⟨?_, hsaved.logPlaces.trans hready.quiet⟩, hsaved.directory⟩
  rw [hsaved.directory]
  exact ⟨hprepared, hstorable⟩

/-- Tasks of which one cannot be written are not saved, and what is held stays. -/
theorem HasReady.save_failure {tasks : TaskList} {failure : Failure}
    (hready : session.HasReady file stored)
    (hfails : tasks.findSome? Task.writingFailure? = some failure) :
    ∃ kept, (file.save { tasks }).runFrom session = (.error failure, kept) ∧
      kept.HasReady file stored ∧ kept.directory = session.directory := by
  obtain ⟨kept, hsave, hkept, hprepared⟩ :=
    hready.ready.creatable.save_failure hready.ready.entry (logsApart_of_quiet hready.quiet file)
      hfails
  refine ⟨kept, hsave, ⟨?_, hkept.logPlaces.trans hready.quiet⟩, hkept.directory⟩
  rw [hkept.directory]
  exact ⟨hprepared, hready.ready.storable⟩

end Session

end Checklist
