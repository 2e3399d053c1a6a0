import Checklist.Proofs.Command.OtherTasks
import Checklist.Proofs.TaskFile.Finding
import Checklist.Proofs.TaskList.Commuting

namespace Checklist

namespace TaskFile

variable {file : TaskFile} {content? : Option (List UInt8)} {id other : Int}
  {edit? editOther? : Int → TaskList → Option TaskList} {make makeOther : Task → List Task}

/-- What a file holds after the tasks in it were edited, if they were. -/
def contentEdited (file : TaskFile) (edit? : TaskList → Option TaskList)
    (content? : Option (List UInt8)) : Option (List UInt8) :=
  match file.contentOutcome content? with
  | .ok tasks => ((edit? tasks).map TaskList.content).or content?
  | .error _ => content?

/-- Whether the tasks in a file can be edited. -/
def canEdit (file : TaskFile) (edit? : TaskList → Option TaskList)
    (content? : Option (List UInt8)) : Except Failure Bool :=
  (file.contentOutcome content?).map fun tasks => (edit? tasks).isSome

theorem contentEdited_of_none {change? : TaskList → Option TaskList} {tasks : TaskList}
    (hread : file.contentOutcome content? = .ok tasks) (hedit : change? tasks = none) :
    file.contentEdited change? content? = content? := by
  rw [contentEdited, hread]
  dsimp only
  rw [hedit]
  rfl

theorem contentEdited_of_some {change? : TaskList → Option TaskList} {tasks edited : TaskList}
    (hread : file.contentOutcome content? = .ok tasks) (hedit : change? tasks = some edited) :
    file.contentEdited change? content? = some (TaskList.content edited) := by
  rw [contentEdited, hread]
  dsimp only
  rw [hedit]
  rfl

theorem contentEdited_of_error {change? : TaskList → Option TaskList} {failure : Failure}
    (hread : file.contentOutcome content? = .error failure) :
    file.contentEdited change? content? = content? := by
  rw [contentEdited, hread]

/-- Editing tasks that were edited and stored before. -/
theorem contentEdited_content (hreplaces : TaskList.Replaces edit? make) {edited : TaskList}
    (hread : file.contentOutcome (some (TaskList.content edited)) =
      .ok (edited.map Task.restored)) :
    file.contentEdited (edit? id) (some (TaskList.content edited)) =
      some (TaskList.content (((edit? id edited).map (List.map Task.restored)).getD edited)) := by
  have hrestored := hreplaces.map_restored id edited
  cases hedit : edit? id edited with
  | none =>
    rw [hedit] at hrestored
    rw [contentEdited_of_none hread hrestored]
    rfl
  | some twice =>
    rw [hedit] at hrestored
    rw [contentEdited_of_some hread hrestored]
    rfl

/-- Whether a task can be edited does not hang on whether another one was edited before. -/
theorem canEdit_contentEdited (hfirst : TaskList.Replaces edit? make)
    (hsecond : TaskList.Replaces editOther? makeOther) (hne : id ≠ other) :
    file.canEdit (edit? id) (file.contentEdited (editOther? other) content?) =
      file.canEdit (edit? id) content? := by
  cases hread : file.contentOutcome content? with
  | error failure => rw [contentEdited_of_error hread]
  | ok tasks =>
    cases hedit : editOther? other tasks with
    | none => rw [contentEdited_of_none hread hedit]
    | some edited =>
      have hedited := (BuiltIn.contentOutcome_of_edited (hsecond.edits other) hread hedit).1
      rw [contentEdited_of_some hread hedit, canEdit, canEdit, hread, hedited]
      refine congrArg Except.ok ?_
      dsimp only
      rw [hfirst.map_restored, Option.isSome_map,
        (hfirst.edits id).isSome_of_ne (hsecond.edits other) hne hedit]

/-- Edits of two different tasks leave the same content in either order. -/
theorem contentEdited_comm (hfirst : TaskList.Replaces edit? make)
    (hsecond : TaskList.Replaces editOther? makeOther) (hne : id ≠ other) :
    file.contentEdited (editOther? other) (file.contentEdited (edit? id) content?) =
      file.contentEdited (edit? id) (file.contentEdited (editOther? other) content?) := by
  cases hread : file.contentOutcome content? with
  | error failure => simp only [contentEdited_of_error hread]
  | ok tasks =>
    have hcomm := hfirst.comm hsecond hne tasks
    have hstored {change? : Int → TaskList → Option TaskList} {made : Task → List Task}
        (hreplaces : TaskList.Replaces change? made) {number : Int} {edited : TaskList}
        (hedit : change? number tasks = some edited) :=
      (BuiltIn.contentOutcome_of_edited (hreplaces.edits number) hread hedit).1
    cases hone : edit? id tasks with
    | none =>
      rw [contentEdited_of_none hread hone]
      cases htwo : editOther? other tasks with
      | none => rw [contentEdited_of_none hread htwo, contentEdited_of_none hread hone]
      | some edited =>
        rw [hone, htwo, Option.bind_none, Option.bind_some] at hcomm
        rw [contentEdited_of_some hread htwo,
          contentEdited_content hfirst (hstored hsecond htwo), ← hcomm]
        rfl
    | some edited =>
      rw [contentEdited_of_some hread hone, contentEdited_content hsecond (hstored hfirst hone)]
      cases htwo : editOther? other tasks with
      | none =>
        rw [hone, htwo, Option.bind_none, Option.bind_some] at hcomm
        rw [contentEdited_of_none hread htwo, contentEdited_of_some hread hone, hcomm]
        rfl
      | some editedOther =>
        have hagain := (hsecond.edits other).isSome_of_ne (hfirst.edits id) hne.symm hone
        rw [htwo, Option.isSome_some, Option.isSome_iff_exists] at hagain
        obtain ⟨both, hboth⟩ := hagain
        rw [hone, htwo, Option.bind_some, Option.bind_some, hboth] at hcomm
        rw [contentEdited_of_some hread htwo,
          contentEdited_content hfirst (hstored hsecond htwo), hboth, ← hcomm]
        rfl

end TaskFile

namespace BuiltIn

variable {file : TaskFile} {session : Session} {content? : Option (List UInt8)} {id other : Int}
  {edit? editOther? : Int → TaskList → Option TaskList} {make makeOther : Task → List Task}

/-- What a command on one task answers, by whether there is such a task. -/
def answerAt (id : Int) (report : String) (found : Bool) : Text.RawText :=
  if found then report else notFoundMessage id

/-- Whether a computation, from a session on, is not failed by the storage. -/
def Stored {α : Type} (attempt : Attempt α) (session : Session) : Prop :=
  ∀ failure, (attempt.runFrom session).1 = .error failure → failure.isOfStorage = false

/-- A request that comes to an edit of the tasks in the file, and to an answer that says whether the
    edit could be made, wherever the storage does not fail it. -/
structure Follows (file : TaskFile) (request : Request) (edit? : TaskList → Option TaskList)
    (answer : Bool → Text.RawText) : Prop where
  finds : ∀ session, session.LogsApart file → Stored (handle file request) session →
    ∃ content?, session.Finds file content?
  edits : ∀ session content?, session.Finds file content? → Stored (handle file request) session →
    ∃ after, (handle file request).runFrom session =
        ((file.canEdit edit? content?).map answer, after) ∧
      file.Shows after.tree after.directory (file.contentEdited edit? content?) ∧
      after.LogsApart file

variable {record : Int → Log.Record} {report : Int → String}

theorem finds_of_performAt (hapart : session.LogsApart file)
    (hstored : Stored (performAt file (some id) edit? record report) session) :
    ∃ content?, session.Finds file content? := by
  obtain ⟨loaded, -, hperform⟩ := runFrom_performAt file id edit? record report session
  rw [Stored, hperform] at hstored
  refine Session.Finds.of_loadOutcome hapart fun failure hload => ?_
  rw [hload] at hstored
  exact hstored failure rfl

/-- A command on one task goes by the content of the file alone. -/
theorem runFrom_performAt_of_finds (hfinds : session.Finds file content?)
    (hedits : TaskList.EditsFirst id (edit? id))
    (hstored : Stored (performAt file (some id) edit? record report) session) :
    ∃ after, (performAt file (some id) edit? record report).runFrom session =
        ((file.canEdit (edit? id) content?).map (answerAt id (report id)), after) ∧
      file.Shows after.tree after.directory (file.contentEdited (edit? id) content?) ∧
      after.LogsApart file := by
  obtain ⟨loaded, hloaded, hperform⟩ := runFrom_performAt file id edit? record report session
  have hshows := hfinds.loaded hloaded
  have hapart := hloaded.logsApart hfinds.apart
  rw [Stored, hperform, hfinds.loadOutcome] at hstored
  rw [hperform, hfinds.loadOutcome, TaskFile.canEdit]
  cases hread : file.contentOutcome content? with
  | error failure =>
    rw [TaskFile.contentEdited_of_error hread]
    exact ⟨loaded, rfl, hshows, hapart⟩
  | ok tasks =>
    rw [hread] at hstored
    dsimp only [Except.map] at hstored ⊢
    cases hedit : edit? id tasks with
    | none =>
      rw [TaskFile.contentEdited_of_none hread hedit]
      exact ⟨loaded, rfl, hshows, hapart⟩
    | some edited =>
      rw [TaskFile.contentEdited_of_some hread hedit]
      rw [hedit] at hstored
      dsimp only at hstored ⊢
      have hissued := (loaded.continues_issue (record id)).logsApart hapart
      have hfits := hedits.fitsLine (TaskFile.fitsLine_of_contentOutcome hread) hedit
      have hwritable : ∀ task ∈ edited, task.writingFailure? = none :=
        fun task hmem => (hfits task hmem).writingFailure?_eq_none
      rcases hsave : (file.save { tasks := edited }).runFrom (loaded.issue (record id)) with
        ⟨failure | _, saved⟩
      · rw [Attempt.runFrom_bind_of_error hsave] at hstored
        have hstorage := TaskFile.isOfStorage_of_save hissued hwritable hsave
        rw [hstored failure rfl] at hstorage
        cases hstorage
      · have hname := TaskFile.name_ne_of_save hsave
        refine ⟨saved, ?_, TaskFile.shows_of_save hname hissued.draft hsave,
          TaskFile.logsApart_of_save hname hissued hsave⟩
        rw [Attempt.runFrom_bind_of_ok hsave]
        rfl

/-- What is logged before makes no difference to what a request follows. -/
theorem follows_of_performAt {request : Request} {running : Log.Record}
    (edit? : Int → TaskList → Option TaskList) (record : Int → Log.Record) (report : Int → String)
    (hedits : TaskList.EditsFirst id (edit? id))
    (hhandle : handle file request =
      (do
        Session.log running
        performAt file (some id) edit? record report)) :
    Follows file request (edit? id) (answerAt id (report id)) := by
  have hrun (session : Session) : (handle file request).runFrom session =
      (performAt file (some id) edit? record report).runFrom (session.issue running) := by
    rw [hhandle, Attempt.runFrom_bind, Session.runFrom_log]
  constructor
  · intro session hapart hstored
    have hissued := session.continues_issue running
    rw [Stored, hrun] at hstored
    obtain ⟨content?, hfinds⟩ := finds_of_performAt (hissued.logsApart hapart) hstored
    exact ⟨content?, hfinds.of_continues hissued.symm⟩
  · intro session content? hfinds hstored
    rw [Stored, hrun] at hstored
    rw [hrun]
    exact runFrom_performAt_of_finds (hfinds.of_continues (session.continues_issue running)) hedits
      hstored

/-- The commands that change one task put something in its place. -/
theorem exists_follows {name : String} (hname : name ∈ oneTaskCommands) :
    ∃ (edit? : Int → TaskList → Option TaskList) (make : Task → List Task) (report : Int → String),
      TaskList.Replaces edit? make ∧ ∀ file id,
        Follows file (requestAt name id) (edit? id) (answerAt id (report id)) := by
  have hname : name = "done" ∨ name = "rm" := by simpa [oneTaskCommands] using hname
  rcases hname with rfl | rfl
  · exact ⟨_, _, _, TaskList.replaces_markDone?, fun file id =>
      follows_of_performAt (fun id tasks => TaskList.markDone? tasks id) TaskList.doneRecord
        (fun id => s!"Marked {id} done.")
        (TaskList.editsFirst_markDone? id) (handle_command done rfl)⟩
  · exact ⟨_, _, _, TaskList.replaces_remove?, fun file id =>
      follows_of_performAt _ TaskList.removedRecord (fun id => s!"Removed {id}.")
        (TaskList.editsFirst_remove? id) (handle_command remove rfl)⟩

/-- The answers to two requests, one after the other, and the session after both. -/
structure Answers where
  first : Except Failure Text.RawText
  second : Except Failure Text.RawText
  last : Session

def handleBoth (file : TaskFile) (session : Session) (first second : Request) : Answers :=
  let (answer, between) := (handle file first).runFrom session
  let (next, last) := (handle file second).runFrom between
  ⟨answer, next, last⟩

/-- Neither request was failed by the storage. -/
def Answers.Stored (answers : Answers) : Prop :=
  ∀ failure, answers.first = .error failure ∨ answers.second = .error failure →
    failure.isOfStorage = false

theorem Answers.Stored.first {first second : Request}
    (hstored : (handleBoth file session first second).Stored) :
    BuiltIn.Stored (handle file first) session := by
  intro failure hfails
  rcases hrun : (handle file first).runFrom session with ⟨answer, between⟩
  rw [handleBoth, hrun] at hstored
  rw [hrun] at hfails
  exact hstored failure (.inl hfails)

/-- Two requests go by the content of the file, and the second one by what the first one left. -/
theorem handleBoth_of_follows {first second : Request}
    {edit? editOther? : TaskList → Option TaskList} {answer answerOther : Bool → Text.RawText}
    (hfinds : session.Finds file content?) (hfirst : Follows file first edit? answer)
    (hsecond : Follows file second editOther? answerOther)
    (hstored : (handleBoth file session first second).Stored) :
    ∃ last, handleBoth file session first second =
        ⟨(file.canEdit edit? content?).map answer,
          (file.canEdit editOther? (file.contentEdited edit? content?)).map answerOther, last⟩ ∧
      file.Shows last.tree last.directory
        (file.contentEdited editOther? (file.contentEdited edit? content?)) := by
  obtain ⟨between, hrun, hshows, hapart⟩ :=
    hfirst.edits session content? hfinds hstored.first
  rw [handleBoth, hrun] at hstored ⊢
  obtain ⟨last, hrunLast, hlast, -⟩ := hsecond.edits between _ (.of_shows hshows hapart)
    fun failure hfails => hstored failure (.inr hfails)
  exact ⟨last, by dsimp only; rw [hrunLast], hlast⟩

/-- Commands on two different tasks give the same answers in either order, and leave the file with
    the same content. A log that is written to the file or its draft is another matter. -/
theorem commands_commute {first second : String} (hfirst : first ∈ oneTaskCommands)
    (hsecond : second ∈ oneTaskCommands) (hne : id ≠ other) (hapart : session.LogsApart file)
    (hthere : (handleBoth file session (requestAt first id) (requestAt second other)).Stored)
    (hback : (handleBoth file session (requestAt second other) (requestAt first id)).Stored) :
    let there := handleBoth file session (requestAt first id) (requestAt second other)
    let back := handleBoth file session (requestAt second other) (requestAt first id)
    there.first = back.second ∧ there.second = back.first ∧
      ∃ content?, file.Shows there.last.tree there.last.directory content? ∧
        file.Shows back.last.tree back.last.directory content? := by
  obtain ⟨edit?, make, report, hreplaces, hfollows⟩ := exists_follows hfirst
  obtain ⟨editOther?, makeOther, reportOther, hreplacesOther, hfollowsOther⟩ :=
    exists_follows hsecond
  obtain ⟨content?, hfinds⟩ := (hfollows file id).finds session hapart hthere.first
  obtain ⟨last, hrun, hlast⟩ :=
    handleBoth_of_follows hfinds (hfollows file id) (hfollowsOther file other) hthere
  obtain ⟨lastBack, hrunBack, hlastBack⟩ :=
    handleBoth_of_follows hfinds (hfollowsOther file other) (hfollows file id) hback
  rw [hrun, hrunBack]
  dsimp only
  refine ⟨?_, ?_, _, hlast, ?_⟩
  · rw [TaskFile.canEdit_contentEdited hreplaces hreplacesOther hne]
  · rw [TaskFile.canEdit_contentEdited hreplacesOther hreplaces hne.symm]
  · rw [TaskFile.contentEdited_comm hreplaces hreplacesOther hne]
    exact hlastBack

theorem commands_commute_restored :
    let file : TaskFile := { path := ⟨.here, ["t"]⟩ }
    let content := Text.Utf8.encode "x\n1|0|a\r\r\n2|0|b\r\r\n2|0|c\n"
    let session : Session := { tree := ⟨[(["t"], .file content)]⟩, directory := [], clock := 0 }
    let there := handleBoth file session (requestAt "done" 1) (requestAt "rm" 2)
    let back := handleBoth file session (requestAt "rm" 2) (requestAt "done" 1)
    there.first = .ok "Marked 1 done." ∧ back.second = .ok "Marked 1 done." ∧
      ∃ content?, file.Shows there.last.tree there.last.directory content? ∧
        file.Shows back.last.tree back.last.directory content? := by
  intro file content session
  have hapart : session.LogsApart file := ⟨by decide, by decide⟩
  have hthere : (handleBoth file session (requestAt "done" 1) (requestAt "rm" 2)).first =
        .ok "Marked 1 done." ∧
      (handleBoth file session (requestAt "done" 1) (requestAt "rm" 2)).second =
        .ok "Removed 2." := by
    decide +kernel
  have hback : (handleBoth file session (requestAt "rm" 2) (requestAt "done" 1)).first =
        .ok "Removed 2." ∧
      (handleBoth file session (requestAt "rm" 2) (requestAt "done" 1)).second =
        .ok "Marked 1 done." := by
    decide +kernel
  have hcommute := commands_commute (by decide) (by decide) (by decide) hapart
    (show (handleBoth file session (requestAt "done" 1) (requestAt "rm" 2)).Stored by
      simp [Answers.Stored, hthere])
    (by simp [Answers.Stored, hback])
  exact ⟨hthere.1, hback.2, hcommute.2.2⟩

/-- Where the log is written to the file, the order of two commands shows there. -/
theorem commands_do_not_commute :
    let file : TaskFile := { path := ⟨.here, ["t"]⟩, strict := true }
    let routing : Log.Routing :=
      { level := Log.debug
        handlers := [⟨Log.warning, .console⟩, ⟨Log.debug, .file (some ["t"])⟩] }
    let session : Session :=
      { tree := ⟨[(["t"], .file [0x78, 0x0A])]⟩, directory := [], clock := 0,
        routing }
    let there := handleBoth file session (requestAt "done" 1) (requestAt "rm" 2)
    let back := handleBoth file session (requestAt "rm" 2) (requestAt "done" 1)
    let refused : Except Failure Text.RawText := .error (.corruptLine file.path 1 "x")
    [there.first, there.second, back.first, back.second] = List.replicate 4 refused ∧
      there.last.tree.get? ["t"] ≠ back.last.tree.get? ["t"] := by
  intro file sink session there back refused
  constructor
  · decide +kernel
  · decide +kernel

end BuiltIn

end Checklist
