import Checklist.Proofs.Command.Running
import Checklist.Proofs.TaskFile.RoundTrip
import Checklist.Proofs.TaskList

namespace Checklist

/-- A session that starts over the files another one left, in the same directory. It may be that
    session itself or one of a later run of the program. -/
structure Session.LeadsOn (earlier later : Session) : Prop where
  tree : later.tree = earlier.tree
  directory : later.directory = earlier.directory

namespace TaskFile

variable {file : TaskFile} {content? : Option (List UInt8)} {tasks : TaskList}

/-- The file, read without refusing malformed lines. -/
def lenient (file : TaskFile) : TaskFile :=
  { file with strict := false }

/-- How strictly a file is read does not matter for what it shows. -/
theorem shows_lenient_iff {tree : FileTree} {directory : Location} :
    file.lenient.Shows tree directory content? ↔ file.Shows tree directory content? :=
  ⟨fun h => ⟨h.parent, h.found⟩, fun h => ⟨h.parent, h.found⟩⟩

theorem contentOutcome_lenient (hread : file.contentOutcome content? = .ok tasks) :
    file.lenient.contentOutcome content? = .ok tasks := by
  cases content? with
  | none => exact hread
  | some content => exact Reading.ofLines_of_strict hread

/-- Tasks that were read from a file can be put on lines again. -/
theorem fitsLine_of_contentOutcome (hread : file.contentOutcome content? = .ok tasks) :
    ∀ task ∈ tasks, task.FitsLine := by
  cases content? with
  | none =>
    obtain rfl := Except.ok.inj hread
    simp
  | some content => exact Reading.fitsLine_of_ofBytes hread

end TaskFile

namespace BuiltIn

variable {file : TaskFile} {session after : Session} {content? : Option (List UInt8)}
  {tasks : TaskList} {id : Int}

/-- The commands that change one task. -/
def oneTaskCommands : List String := ["done", "rm"]

/-- Each of them is a change to the first task of a number. -/
theorem handle_requestAt {name : String} (hname : name ∈ oneTaskCommands) (file : TaskFile)
    (id : Int) :
    ∃ edit? record report, (∀ id, TaskList.EditsFirst id (edit? id)) ∧
      handle file (requestAt name id) =
        (do
          Session.log (Registry.runningRecord (Text.lower name))
          performAt file (some id) edit? record report) := by
  have hname : name = "done" ∨ name = "rm" := by simpa [oneTaskCommands] using hname
  rcases hname with rfl | rfl
  · exact ⟨_, TaskList.doneRecord, fun id => s!"Marked {id} done.", TaskList.editsFirst_markDone?,
      handle_command done rfl⟩
  · exact ⟨_, TaskList.removedRecord, fun id => s!"Removed {id}.", TaskList.editsFirst_remove?,
      handle_command remove rfl⟩

/-- What the file shows after a command on one task: what it showed before, if there is no such
    task, and otherwise the lines of the changed list. -/
theorem shows_of_performAt {edit? : Int → TaskList → Option TaskList} {record : Int → Log.Record}
    {report : Int → String} {output : Text.RawText}
    (hshows : file.Shows session.tree session.directory content?) (hapart : session.LogsApart file)
    (hrun : (performAt file (some id) edit? record report).runFrom session =
      (.ok output, after)) :
    ∃ tasks, file.contentOutcome content? = .ok tasks ∧
      match edit? id tasks with
      | none => file.Shows after.tree after.directory content?
      | some edited =>
        file.Shows after.tree after.directory (some (TaskList.content edited)) := by
  obtain ⟨loaded, hloaded, hperform⟩ := runFrom_performAt file id edit? record report session
  rw [hperform, hshows.loadOutcome] at hrun
  rw [hshows.rooted] at hloaded
  cases hread : file.contentOutcome content? with
  | error failure => simp [hread] at hrun
  | ok tasks =>
    refine ⟨tasks, rfl, ?_⟩
    rw [hread] at hrun
    cases hedit : edit? id tasks with
    | none =>
      simp only [hedit] at hrun
      obtain rfl : loaded = after := (Prod.mk.inj hrun).2
      exact hshows.of_continues hapart hloaded
    | some edited =>
      simp only [hedit] at hrun
      obtain ⟨_, saved, hsave, hreport⟩ := Attempt.runFrom_bind_eq_ok_iff.mp hrun
      obtain rfl : saved = after := (Prod.mk.inj hreport).2
      have hissued := loaded.continues_issue (record id)
      have hapartIssued := hissued.logsApart (hloaded.logsApart hapart)
      exact TaskFile.shows_of_save (TaskFile.name_ne_of_save hsave) hapartIssued.draft hsave

/-- The same of a whole command on one task. -/
theorem shows_of_requestAt {name : String} {output : Text.RawText} (hname : name ∈ oneTaskCommands)
    (hshows : file.Shows session.tree session.directory content?) (hapart : session.LogsApart file)
    (hcommand : (handle file (requestAt name id)).runFrom session = (.ok output, after)) :
    ∃ edit? tasks, TaskList.EditsFirst id edit? ∧ file.contentOutcome content? = .ok tasks ∧
      match edit? tasks with
      | none => file.Shows after.tree after.directory content?
      | some edited =>
        file.Shows after.tree after.directory (some (TaskList.content edited)) := by
  obtain ⟨edit?, record, report, hedits, hhandle⟩ := handle_requestAt hname file id
  rw [hhandle, Attempt.runFrom_bind, Session.runFrom_log] at hcommand
  have hissued := session.continues_issue (Registry.runningRecord (Text.lower name))
  obtain ⟨tasks, hread, hafter⟩ := shows_of_performAt (hshows.of_continues hapart hissued)
    (hissued.logsApart hapart) hcommand
  exact ⟨edit? id, tasks, hedits id, hread, hafter⟩

/-- Of tasks that were read, changed and saved again, those with another number are restored. -/
theorem contentOutcome_of_edited {edit? : TaskList → Option TaskList} {edited : TaskList}
    (hedits : TaskList.EditsFirst id edit?) (hread : file.contentOutcome content? = .ok tasks)
    (hedit : edit? tasks = some edited) :
    file.contentOutcome (some (TaskList.content edited)) = .ok (edited.map Task.restored) ∧
      List.filter (·.id ≠ id) (edited.map Task.restored) =
        (List.filter (·.id ≠ id) tasks).map Task.restored := by
  have hfits := hedits.fitsLine (TaskFile.fitsLine_of_contentOutcome hread) hedit
  refine ⟨by rw [TaskFile.contentOutcome, Reading.ofBytes_content hfits], ?_⟩
  rw [← hedits.others tasks edited hedit, List.filter_map]
  rfl

/-- A command on a task leaves the others alone, but for this: if the task is there, every other
    text that ends in a carriage return loses that one. A log that is written to the file or its
    draft is another matter. -/
theorem other_tasks_after_command {name : String} {output : Text.RawText}
    {before looked next changed last : Session}
    (hname : name ∈ oneTaskCommands) (hapart : before.LogsApart file)
    (hlook : file.lenient.load.runFrom before = (.ok tasks, looked)) (hnext : looked.LeadsOn next)
    (hapartNext : next.LogsApart file)
    (hcommand : (handle file (requestAt name id)).runFrom next = (.ok output, changed))
    (hlast : changed.LeadsOn last) :
    ∃ kept after, file.lenient.load.runFrom last = (.ok kept, after) ∧
      List.filter (·.id ≠ id) kept =
        if ∃ task ∈ tasks, task.id = id then
          (List.filter (·.id ≠ id) tasks).map Task.restored
        else List.filter (·.id ≠ id) tasks := by
  obtain ⟨loaded, hload, hloaded⟩ := file.lenient.runFrom_load before
  rw [hlook, Prod.mk.injEq] at hload
  obtain ⟨houtcome, rfl⟩ := hload
  obtain ⟨content?, hshows, hread⟩ := TaskFile.shows_of_loadOutcome houtcome.symm
  have hnextShows : file.Shows next.tree next.directory content? := by
    rw [hnext.tree, hnext.directory, hloaded.directory]
    exact (TaskFile.shows_lenient_iff.mp hshows).of_agrees hloaded.tree hapart.target
  obtain ⟨edit?, same, hedits, hsame, hafter⟩ :=
    shows_of_requestAt hname hnextShows hapartNext hcommand
  -- The command reads the file as strictly as it is set up, and finds the same tasks.
  obtain rfl : tasks = same := by
    have hlenient := TaskFile.contentOutcome_lenient hsame
    rw [hread] at hlenient
    exact Except.ok.inj hlenient
  obtain ⟨after, hlastLoad, -⟩ := file.lenient.runFrom_load last
  rw [hlast.tree, hlast.directory] at hlastLoad
  cases hedit : edit? tasks with
  | none =>
    rw [hedit] at hafter
    dsimp only at hafter
    rw [(TaskFile.shows_lenient_iff.mpr hafter).loadOutcome, hread] at hlastLoad
    refine ⟨tasks, after, hlastLoad, ?_⟩
    rw [if_neg]
    rintro ⟨task, hmem, hid⟩
    exact (hedits.eq_none_iff tasks).mp hedit task hmem hid
  | some edited =>
    rw [hedit] at hafter
    dsimp only at hafter
    obtain ⟨hreadEdited, hothers⟩ := contentOutcome_of_edited hedits hread hedit
    rw [(TaskFile.shows_lenient_iff.mpr hafter).loadOutcome, hreadEdited] at hlastLoad
    refine ⟨edited.map Task.restored, after, hlastLoad, ?_⟩
    rw [if_pos (hedits.exists_of_eq_some hedit), hothers]

theorem other_tasks_after_command_return :
    let file : TaskFile := { path := ⟨.here, ["t"]⟩ }
    let content := Text.Utf8.encode "1|0|a\r\r\n2|0|b\n"
    let before : Session := { tree := ⟨[(["t"], .file content)]⟩, directory := [], clock := 0 }
    ∃ kept after,
      file.lenient.load.runFrom ((handle file (requestAt "done" 2)).runFrom
        (file.lenient.load.runFrom before).2).2 = (.ok kept, after) ∧
      List.filter (·.id ≠ 2) kept = [⟨1, "a", false⟩] := by
  intro file content before
  have hapart : before.LogsApart file := ⟨by decide, by decide⟩
  have hlook := Attempt.runFrom_eq_of_fst (show (file.lenient.load.runFrom before).1 =
    .ok [⟨1, "a\r", false⟩, ⟨2, "b", false⟩] by decide +kernel)
  have hlookedApart : (file.lenient.load.runFrom before).2.LogsApart file := by
    obtain ⟨looked, hload, hlooked⟩ := file.lenient.runFrom_load before
    rw [hload]
    exact hlooked.logsApart hapart
  have hcommand := Attempt.runFrom_eq_of_fst (show ((handle file (requestAt "done" 2)).runFrom
    (file.lenient.load.runFrom before).2).1 = .ok "Marked 2 done." by decide +kernel)
  obtain ⟨kept, after, hload, hkept⟩ := other_tasks_after_command (by decide) hapart hlook
    ⟨rfl, rfl⟩ hlookedApart hcommand ⟨rfl, rfl⟩
  refine ⟨kept, after, hload, hkept.trans ?_⟩
  decide +kernel

/-- What a command does to tasks that it should leave alone: it takes away a carriage return. And
    where the log is written to the file, records get into a last line without a line feed. -/
theorem command_touches_other_tasks :
    (let file : TaskFile := { path := ⟨.here, ["t"]⟩ }
      let content := Text.Utf8.encode "1|0|a\r\r\n2|0|b\n"
      let before : Session := { tree := ⟨[(["t"], .file content)]⟩, directory := [], clock := 0 }
      let looked := file.lenient.load.runFrom before
      let changed := (handle file (requestAt "done" 2)).runFrom looked.2
      looked.1 = .ok [⟨1, "a\r", false⟩, ⟨2, "b", false⟩] ∧ changed.1 = .ok "Marked 2 done." ∧
        (file.lenient.load.runFrom changed.2).1 = .ok [⟨1, "a", false⟩, ⟨2, "b", true⟩]) ∧
    (let file : TaskFile := { path := ⟨.here, ["t"]⟩ }
      let content := Text.Utf8.encode "x\n1|0|a"
      let routing : Log.Routing :=
        { level := Log.debug
          handlers := [⟨Log.warning, .console⟩, ⟨Log.info, .file (some ["t"])⟩] }
      let before : Session :=
        { tree := ⟨[(["t"], .file content)]⟩, directory := [], clock := 0,
          routing }
      let looked := file.lenient.load.runFrom before
      let changed := (handle file (requestAt "done" 2)).runFrom looked.2
      looked.1 = .ok [⟨1, "a", false⟩] ∧ changed.1 = .ok "Task 2 not found." ∧
        (file.lenient.load.runFrom changed.2).1 ≠ .ok [⟨1, "a", false⟩]) := by
  dsimp only
  and_intros
  all_goals decide +kernel

end BuiltIn

end Checklist
