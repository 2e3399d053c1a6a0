import Checklist.Program
import Checklist.Proofs.Command.Failing
import Mathlib.Control.Monad.Basic

namespace Checklist.Program

/-- How a run ends, and what it leaves of the files. Unless it succeeds there is no output, and the
    files are undisturbed. After a misuse they are just as they were, and after a failure that was
    expected its message stands last on the error stream. -/
inductive Ended (file : TaskFile) (words : List Text.RawText) (before after : Session) :
    Except Failure Ending → Prop where
  | success (output : Text.RawText) : Ended file words before after (.ok { code := 0, output })
  | misuse (htree : after.tree = before.tree) :
      Ended file words before after (.ok { code := 2, output := [] })
  | expected {request : Request} {routed handled : Session} {failure : Failure} {earlier : String}
      (hparse : CommandLine.parse BuiltIn.registry words = .request request)
      (hrouted : routed.tree = before.tree ∧ routed.directory = before.directory)
      (hhandle : (BuiltIn.handle file request).runFrom routed = (.error failure, handled))
      (hexpected : failure.isExpected = true)
      (hundisturbed : file.Undisturbed before.directory before.tree after.tree)
      (hmessage : after.errorText = earlier ++ "error: " ++ failure.message ++ "\n") :
      Ended file words before after (.ok { code := 1, output := [] })
  | unexpected {failure : Failure}
      (hundisturbed : file.Undisturbed before.directory before.tree after.tree) :
      Ended file words before after (.error failure)

variable {file : TaskFile} {request : Request} {words : List Text.RawText}
  {before routed session : Session}

theorem Ended.unexpected_of_tree {after : Session} {failure : Failure}
    (htree : after.tree = before.tree) : Ended file words before after (.error failure) :=
  .unexpected (htree ▸ .of_grewAlong (.refl _ _ _))

theorem runFrom_helpText (command : Option (Command BuiltIn)) (session : Session) :
    ∃ outcome, (helpText command).runFrom session = (outcome, session) := by
  rw [helpText]
  split
  · exact ⟨_, rfl⟩
  · exact ⟨_, rfl⟩

theorem ended_of_perform (hquiet : routed.logPlaces = [])
    (hrouted : routed.tree = before.tree ∧ routed.directory = before.directory)
    (hparse : CommandLine.parse BuiltIn.registry words = .request request) :
    ∃ outcome after, (perform file request).runFrom routed = (outcome, after) ∧
      Ended file words before after outcome := by
  rw [perform, Attempt.runFrom_tryCatch, Attempt.runFrom_bind]
  rcases hhandle : (BuiltIn.handle file request).runFrom routed with ⟨failure | output, handled⟩
  · have hkeeps := BuiltIn.keeps_of_handle hquiet hhandle
    have hundisturbed : file.Undisturbed before.directory before.tree handled.tree :=
      hrouted.1 ▸ hrouted.2 ▸ hkeeps.tree
    dsimp only
    split
    · next hexpected =>
      let reported := handled.issue (failedRecord (request.command.getD ""))
      have htree : reported.tree = handled.tree :=
        Session.tree_issue (hkeeps.self.logPlaces.trans hquiet) _
      let printed : Session :=
        { reported with errorText := reported.errorText ++ s!"error: {failure.message}\n" }
      have hmessage : printed.errorText =
          reported.errorText ++ "error: " ++ failure.message ++ "\n" := by
        simp only [printed, toString, String.append_assoc]
      exact ⟨_, printed, rfl, .expected hparse hrouted hhandle hexpected (htree.symm ▸ hundisturbed)
        hmessage⟩
    · exact ⟨_, _, rfl, .unexpected hundisturbed⟩
  · exact ⟨_, _, rfl, .success _⟩

theorem ended_of_answer {path : Path} {strict : Bool} {level : String}
    (hquiet : routed.logPlaces = [])
    (hrouted : routed.tree = before.tree ∧ routed.directory = before.directory)
    (hparse : CommandLine.parse BuiltIn.registry words = .request request) :
    ∃ outcome after,
      (answer { dataFile := some path, strictLoad := strict, logLevel := level } request).runFrom
        routed = (outcome, after) ∧
      Ended { path, strict } words before after outcome := by
  have hhelp : ∃ outcome after,
      (do
        Session.printError (← helpText none)
        return { code := usageError } : Attempt Ending).runFrom routed = (outcome, after) ∧
      Ended { path, strict } words before after outcome := by
    obtain ⟨outcome, hrun⟩ := runFrom_helpText none routed
    rw [Attempt.runFrom_bind, hrun]
    cases outcome with
    | error failure => exact ⟨_, _, rfl, .unexpected_of_tree hrouted.1⟩
    | ok text => exact ⟨_, _, rfl, .misuse hrouted.1⟩
  unfold answer
  split
  · exact hhelp
  · exact hhelp
  · exact ended_of_perform hquiet hrouted hparse

/-- A run without a log file that does not succeed changes no data, whatever it finds and however
    it is called. -/
theorem failed_run_changes_no_data (path : Path) (strict : Bool) (level : String)
    (words : List Text.RawText) (before : Session) :
    ∃ outcome after,
      (run { dataFile := some path, strictLoad := strict, logLevel := level } words).runFrom
        before = (outcome, after) ∧
      Ended { path, strict } words before after outcome := by
  rw [run, Attempt.runFrom_bind, Log.Setup.runFrom_apply_console]
  cases (consoleLevel level).resolve with
  | error failure => exact ⟨_, _, rfl, .unexpected_of_tree rfl⟩
  | ok least =>
    dsimp only
    cases hparse : CommandLine.parse BuiltIn.registry words with
    | help command =>
      obtain ⟨outcome, hrun⟩ :=
        runFrom_helpText command { before with routing := .toConsole least }
      dsimp only
      rw [Attempt.runFrom_bind, hrun]
      cases outcome with
      | error failure => exact ⟨_, _, rfl, .unexpected_of_tree rfl⟩
      | ok text => exact ⟨_, _, rfl, .success _⟩
    | misuse command message => exact ⟨_, _, rfl, .misuse rfl⟩
    | request request => exact ended_of_answer rfl ⟨rfl, rfl⟩ hparse

/-- Through two dots the path of the data can lead to a directory on its own way. A run that fails
    makes that directory where there was nothing. -/
theorem failed_run_makes_directory_of_data :
    let path : Path := ⟨.here, ["x", "..", "x"]⟩
    let before : Session := { tree := {}, directory := [], clock := 0 }
    let result := (run { dataFile := some path } ["add", "y"]).runFrom before
    result.1 = .ok { code := 1 } ∧ before.tree.get? (path.place []) = none ∧
      result.2.tree.get? (path.place []) = some .directory := by
  refine ⟨?_, ?_, ?_⟩
  all_goals decide +kernel

end Checklist.Program
