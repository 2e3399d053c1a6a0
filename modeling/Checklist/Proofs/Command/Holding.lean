import Checklist.Proofs.Command.Running
import Checklist.Proofs.TaskFile.Ready
import Checklist.Proofs.TaskList

namespace Checklist.BuiltIn

variable {file : TaskFile} {session : Session} {stored : Option TaskList}

/-- A listing of the tasks that are held. -/
theorem performList_of_holds (hholds : file.Holds session.tree session.directory stored)
    (hquiet : session.logPlaces = []) :
    ∃ after, (performList file).runFrom session =
        (.ok (TaskList.listing (stored.getD [])), after) ∧
      after.HasReady file stored ∧ after.directory = session.directory := by
  obtain ⟨loaded, hload, hloaded⟩ := Session.load_of_holds hholds hquiet
  refine ⟨loaded, ?_, hloaded⟩
  rw [performList, Attempt.runFrom_bind_of_ok hload, Attempt.runFrom_pure]

/-- A change to one of the tasks that are held. Where there is no such task they stay. -/
theorem performAt_of_holds {id : Int} (edit? : Int → TaskList → Option TaskList)
    (record : Int → Log.Record) (report : Int → String)
    (hholds : file.Holds session.tree session.directory stored)
    (hquiet : session.logPlaces = [])
    (hedits : TaskList.EditsFirst id (edit? id)) :
    ∃ after, (performAt file (some id) edit? record report).runFrom session =
        (.ok (if (edit? id (stored.getD [])).isSome then report id else notFoundMessage id),
          after) ∧
      after.HasReady file ((edit? id (stored.getD [])).or stored) ∧
      after.directory = session.directory := by
  obtain ⟨loaded, hload, hloaded, hdirectory⟩ := Session.load_of_holds hholds hquiet
  rw [performAt, Attempt.runFrom_bind_of_ok hload, need, Attempt.runFrom_bind,
    Attempt.runFrom_pure]
  dsimp only
  cases hedit : edit? id (stored.getD []) with
  | none => exact ⟨loaded, rfl, hloaded, hdirectory⟩
  | some edited =>
    obtain ⟨saved, hsave, hsaved, hsavedDirectory⟩ :=
      (hloaded.issue (record id)).save (hedits.storable hholds.storable hedit)
    refine ⟨saved, ?_, hsaved, ?_⟩
    · dsimp only
      rw [Attempt.runFrom_bind, Session.runFrom_log]
      dsimp only
      rw [Attempt.runFrom_bind_of_ok hsave, Attempt.runFrom_pure]
      rfl
    · rw [hsavedDirectory, (loaded.continues_issue _).directory, hdirectory]

end Checklist.BuiltIn
