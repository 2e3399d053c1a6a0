import Checklist.Proofs.Command.Running
import Checklist.Proofs.TaskFile.Undisturbed

namespace Checklist

/-- Whether a failure is one to reach or to write a file, rather than one of what a file holds. -/
def Failure.isOfStorage : Failure → Bool
  | .file _ => true
  | .emptyName _ => true
  | _ => false

namespace TaskFile

variable {file : TaskFile} {tree : FileTree} {directory : Location} {session after : Session}
  {failure : Failure} {tasks : TaskList} {content? : Option (List UInt8)}

theorem isOfStorage_of_refusal? {α : Type} {outcome : Except FileError α}
    (hrefused : refusal? outcome = some failure) : failure.isOfStorage = true := by
  cases outcome with
  | ok made => cases hrefused
  | error error =>
    obtain rfl := Option.some.inj hrefused
    rfl

/-- Numbers that can be written leave a save nothing to fail at but the storage. -/
theorem isOfStorage_of_laterFailure? (hwritable : ∀ task ∈ tasks, task.writingFailure? = none)
    (hfails : file.laterFailure? { tasks } {} tree directory = some failure) :
    failure.isOfStorage = true := by
  have hwriting : writingFailure? { tasks } = none :=
    writingFailure?_eq_none_iff.mpr ⟨hwritable, rfl⟩
  simp only [laterFailure?, hwriting, openingFailure?, replacingFailure?, faultFailure?, ite_self,
    Option.map_none, Option.orElse_eq_orElse, Option.orElse_eq_or, Option.none_or,
    Option.or_eq_some_iff] at hfails
  rcases hfails with hopening | ⟨-, hreplacing⟩
  · exact isOfStorage_of_refusal? hopening
  · exact isOfStorage_of_refusal? hreplacing

theorem isOfStorage_of_save (hapart : session.LogsApart file)
    (hwritable : ∀ task ∈ tasks, task.writingFailure? = none)
    (hsave : (file.save { tasks }).runFrom session = (.error failure, after)) :
    failure.isOfStorage = true := by
  cases hparents : file.stepFailure? { tasks } {} session.tree session.directory .parents with
  | some first =>
    obtain ⟨other, hrun, -⟩ := runFrom_save_of_parents_failure hparents
    obtain rfl := Except.error.inj (Prod.mk.inj (hrun.symm.trans hsave)).1
    exact isOfStorage_of_refusal? hparents
  | none =>
    by_cases hname : file.path.name = ""
    · have hrun := runFrom_save_of_no_name hname hparents
      obtain rfl := Except.error.inj (Prod.mk.inj (hrun.symm.trans hsave)).1
      rfl
    · cases hlater : file.laterFailure? { tasks } {}
          (file.rooted session.tree session.directory) session.directory with
      | some first =>
        obtain ⟨other, hrun, -⟩ := runFrom_save_of_later_failure hname hapart hparents hlater
        obtain rfl := Except.error.inj (Prod.mk.inj (hrun.symm.trans hsave)).1
        exact isOfStorage_of_laterFailure? hwritable hlater
      | none =>
        obtain ⟨other, hrun, -⟩ := runFrom_save_of_none hname hapart.draft hparents hlater
        rw [hrun] at hsave
        cases hsave

end TaskFile

namespace Session

variable {file : TaskFile} {session after : Session} {content? : Option (List UInt8)}

theorem Continues.symm (hafter : session.Continues after session.tree) :
    after.Continues session after.tree :=
  ⟨hafter.directory.symm, hafter.routing.symm, hafter.logPlaces ▸ hafter.tree.symm⟩

/-- Once its directory is made, the file has some content or is not there. The log is open neither
    there nor at its draft. -/
structure Finds (session : Session) (file : TaskFile) (content? : Option (List UInt8)) : Prop where
  parents : (session.tree.makeDirectories session.directory file.path.parent).2 = .ok ()
  shows : file.Shows (file.rooted session.tree session.directory) session.directory content?
  apart : session.LogsApart file

namespace Finds

theorem of_shows (hshows : file.Shows session.tree session.directory content?)
    (hapart : session.LogsApart file) : session.Finds file content? :=
  ⟨by rw [hshows.makeDirectories], by rwa [hshows.rooted], hapart⟩

theorem loadOutcome (hfinds : session.Finds file content?) :
    file.loadOutcome session.tree session.directory = file.contentOutcome content? :=
  TaskFile.loadOutcome_of_rooted hfinds.parents hfinds.shows

/-- A load that does not fail in the storage finds the file. -/
theorem of_loadOutcome (hapart : session.LogsApart file)
    (hworks : ∀ failure, file.loadOutcome session.tree session.directory = .error failure →
      failure.isOfStorage = false) : ∃ content?, session.Finds file content? := by
  unfold TaskFile.loadOutcome at hworks
  split at hworks
  · next error hmake => cases hworks _ rfl
  · next hmake =>
    have hparent := FileTree.peek?_of_makeDirectories hmake
    split at hworks
    · next error hpeek => cases hworks _ rfl
    · next hpeek => exact ⟨none, hmake, ⟨hparent, hpeek⟩, hapart⟩
    · split at hworks
      · next error hread => cases hworks _ rfl
      · next content hread => exact ⟨some content, hmake, ⟨hparent, hread⟩, hapart⟩

/-- What is logged makes no difference. -/
theorem of_continues (hfinds : session.Finds file content?)
    (hafter : session.Continues after session.tree) : after.Finds file content? := by
  obtain ⟨hmake, hagrees⟩ := hafter.tree.symm.makeDirectories hfinds.parents
  refine ⟨?_, ?_, hafter.logsApart hfinds.apart⟩
  · rw [hafter.directory]
    exact hmake
  · rw [hafter.directory]
    exact hfinds.shows.of_agrees hagrees.symm hfinds.apart.target

/-- The load that makes the directory of the file leaves it as it was found. -/
theorem loaded (hfinds : session.Finds file content?)
    (hloaded : session.Continues after (file.rooted session.tree session.directory)) :
    file.Shows after.tree after.directory content? := by
  rw [hloaded.directory]
  exact hfinds.shows.of_agrees hloaded.tree hfinds.apart.target

end Finds

end Session

end Checklist
