import Checklist.Proofs.Command.Plan
import Checklist.Proofs.TaskFile.Undisturbed

namespace Checklist.BuiltIn

variable {file : TaskFile} {request : Request} {session after : Session} {failure : Failure}

/-- Once the tasks were loaded, a command can fail without touching anything, or while it saves. -/
theorem keeps_of_goesOn {next : Attempt Text.RawText} {edit : Option TaskList}
    (hgoes : GoesOn file next edit) (hquiet : session.logPlaces = [])
    (hrun : next.runFrom session = (.error failure, after)) : session.Keeps file after := by
  cases hgoes with
  | idle hidle =>
    obtain ⟨outcome, hstays⟩ := hidle session
    obtain rfl := (Prod.mk.inj (hstays.symm.trans hrun)).2
    exact .refl session file
  | @saves edited record report hsaves =>
    have hissued := session.continues_issue record
    rw [hsaves, Attempt.runFrom_bind, Session.runFrom_log] at hrun
    rcases Attempt.runFrom_bind_eq_error_iff.mp hrun with hsave | ⟨-, saved, -, hreport⟩
    · exact .of_issue hquiet
        (TaskFile.keeps_of_save_failure (hissued.logPlaces.trans hquiet) hsave)
    · cases hreport

/-- A command that fails leaves the files undisturbed, however it was called. -/
theorem keeps_of_perform (action : BuiltIn) (hquiet : session.logPlaces = [])
    (hrun : (perform file request action).runFrom session = (.error failure, after)) :
    session.Keeps file after := by
  rcases perform_cases file request action with ⟨missing, hthrow, -⟩ | ⟨next, hload, hgoes⟩
  · rw [hthrow] at hrun
    obtain rfl := (Prod.mk.inj hrun).2
    exact .refl session file
  · rw [hload] at hrun
    refine TaskFile.keeps_of_load_bind hquiet ?_ hrun
    intro tasks loaded hloadedQuiet hnext
    exact keeps_of_goesOn (hgoes tasks) hloadedQuiet hnext

theorem keeps_of_handle (hquiet : session.logPlaces = [])
    (hrun : (handle file request).runFrom session = (.error failure, after)) :
    session.Keeps file after := by
  rw [handle, Registry.handle] at hrun
  split at hrun
  · cases hrun
  · next command _ =>
    rw [Attempt.runFrom_bind, Session.runFrom_log] at hrun
    have hissued := session.continues_issue
      (Registry.runningRecord (Text.lower (request.command.getD "")))
    exact .of_issue hquiet
      (keeps_of_perform command.action (hissued.logPlaces.trans hquiet) hrun)

end Checklist.BuiltIn
