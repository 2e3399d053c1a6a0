import Checklist.Proofs.Command.OtherTasks
import Checklist.Proofs.TaskList.Listing

namespace Checklist

/-- Every task that is loaded fits on a line. -/
theorem TaskFile.fitsLine_of_load {file : TaskFile} {tasks : TaskList} {session after : Session}
    (hload : file.load.runFrom session = (.ok tasks, after)) : ∀ task ∈ tasks, task.FitsLine := by
  obtain ⟨loaded, hrun, -⟩ := file.runFrom_load session
  obtain ⟨houtcome, -⟩ := Prod.mk.inj (hload.symm.trans hrun)
  obtain ⟨content?, -, hread⟩ := shows_of_loadOutcome houtcome.symm
  exact fitsLine_of_contentOutcome hread

namespace BuiltIn

variable {file other : TaskFile} {tasks more : TaskList}
  {first second loaded loadedOther : Session}

/-- What the `list` command returns tells apart any two files of which it loads different tasks. -/
theorem listing_tells_tasks (request : Request)
    (hload : file.load.runFrom first = (.ok tasks, loaded))
    (hloadOther : other.load.runFrom second = (.ok more, loadedOther)) :
    ∃ text textOther,
      (perform file request list).runFrom first = (.ok text, loaded) ∧
      (perform other request list).runFrom second = (.ok textOther, loadedOther) ∧
      (text = textOther ↔ tasks = more) ∧ (text = "No tasks yet." ↔ tasks = []) := by
  have hrun : (perform file request list).runFrom first =
      (.ok (TaskList.listing tasks), loaded) := by
    rw [perform, performList, Attempt.runFrom_bind_of_ok hload, Attempt.runFrom_pure]
  have hrunOther : (perform other request list).runFrom second =
      (.ok (TaskList.listing more), loadedOther) := by
    rw [perform, performList, Attempt.runFrom_bind_of_ok hloadOther, Attempt.runFrom_pure]
  refine ⟨_, _, hrun, hrunOther, ?_, TaskList.listing_eq_remark_iff⟩
  exact TaskList.listing_inj
    (fun task hmem => (TaskFile.fitsLine_of_load hload task hmem).noLineFeed)
    fun task hmem => (TaskFile.fitsLine_of_load hloadOther task hmem).noLineFeed

/-- The text of a task may look like the end of one row and the next one. It holds no line feed,
    though. -/
theorem listing_tells_row_from_text :
    let session (content : String) : Session :=
      { tree := ⟨[(["t"], .file (Text.Utf8.encode content))]⟩, directory := [], clock := 0 }
    let file : TaskFile := { path := ⟨.here, ["t"]⟩ }
    let request : Request := { command := some "list" }
    ∃ text textOther loaded loadedOther,
      (perform file request list).runFrom (session "1|0|a\r2 [x] b\n") = (.ok text, loaded) ∧
      (perform file request list).runFrom (session "1|0|a\n2|1|b\n") =
        (.ok textOther, loadedOther) ∧
      text ≠ textOther ∧ text ≠ "No tasks yet." := by
  intro session file request
  have hload : file.load.runFrom (session "1|0|a\r2 [x] b\n") =
      (.ok [⟨1, "a\r2 [x] b", false⟩], _) := Prod.ext (by decide +kernel) rfl
  have hloadOther : file.load.runFrom (session "1|0|a\n2|1|b\n") =
      (.ok [⟨1, "a", false⟩, ⟨2, "b", true⟩], _) := Prod.ext (by decide +kernel) rfl
  obtain ⟨text, textOther, hrun, hrunOther, hsame, hempty⟩ :=
    listing_tells_tasks request hload hloadOther
  exact ⟨text, textOther, _, _, hrun, hrunOther, fun heq => absurd (hsame.mp heq) (by decide),
    fun heq => absurd (hempty.mp heq) (by decide)⟩

end BuiltIn

end Checklist
