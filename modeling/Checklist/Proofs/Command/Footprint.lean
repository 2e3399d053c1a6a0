import Checklist.Proofs.Command.OtherTasks

namespace Checklist

/-- A session that goes on from another one, over files of which nothing changed but the log, and
    that directories on the way of a file were made. -/
structure Session.GrewFor (before : Session) (file : TaskFile) (after : Session) : Prop where
  self : before.Continues after after.tree
  kept : ∀ place, place ∉ before.logPlaces →
    FileTree.KeptAt file.path.parent before.directory before.tree after.tree place

namespace Session.GrewFor

variable {file : TaskFile} {before middle after : Session} {tasks : TaskList}

theorem of_issue (session : Session) (file : TaskFile) (record : Log.Record) :
    session.GrewFor file (session.issue record) := by
  have hissued := session.continues_issue record
  exact ⟨hissued.self, fun place hlog => .inl (hissued.tree.entries place hlog)⟩

theorem of_rooted
    (hafter : before.Continues after (file.rooted before.tree before.directory)) :
    before.GrewFor file after := by
  refine ⟨hafter.self, fun place hlog => ?_⟩
  rw [FileTree.KeptAt, hafter.tree.entries place hlog]
  exact file.grewAlong_rooted before.tree before.directory place

theorem trans (hfirst : before.GrewFor file middle) (hsecond : middle.GrewFor file after) :
    before.GrewFor file after := by
  refine ⟨hfirst.self.trans hsecond.self, fun place hlog => ?_⟩
  have hkept := hsecond.kept place (hfirst.self.logPlaces.symm ▸ hlog)
  rw [hfirst.self.directory] at hkept
  exact (hfirst.kept place hlog).trans hkept

/-- What is saved later on is saved. -/
theorem saved (hgrew : before.GrewFor file middle) (hsaved : file.Saved tasks middle after) :
    file.Saved tasks before after := by
  obtain ⟨hcontent, hdraft, hothers⟩ := hsaved
  rw [hgrew.self.directory] at hcontent hothers
  refine ⟨hcontent, hdraft, fun place hplace hplaceDraft hlog => ?_⟩
  have hkept := hothers place hplace hplaceDraft (hgrew.self.logPlaces.symm ▸ hlog)
  exact (hgrew.kept place hlog).trans hkept

end Session.GrewFor

namespace TaskFile

variable {file : TaskFile} {tree : FileTree} {directory : Location} {before after : Session}
  {tasks : TaskList}

theorem loadOutcome_lenient (hload : file.loadOutcome tree directory = .ok tasks) :
    file.lenient.loadOutcome tree directory = .ok tasks := by
  have hmake := makeDirectories_of_loadOutcome hload
  obtain ⟨content?, hshows, hread⟩ := shows_of_loadOutcome hload
  have hlenient : file.lenient.loadOutcome tree directory =
      file.lenient.contentOutcome content? :=
    loadOutcome_of_rooted hmake (shows_lenient_iff.mpr hshows)
  rw [hlenient, contentOutcome_lenient hread]

theorem saved_of_save (hapart : before.LogsApart file)
    (hsave : (file.save { tasks }).runFrom before = (.ok (), after)) :
    file.Saved tasks before after := by
  have hname := name_ne_of_save hsave
  obtain ⟨-, hafter, hleads, htarget, hdraft⟩ := save_eq_ok hname hapart.draft hsave
  exact saved_of_publishes hname hapart.draft hafter hleads htarget hdraft

end TaskFile

namespace BuiltIn

/-- A command that has nothing to change: a listing, or a change at a number that is not in use. -/
def LeavesAlone (request : Request) (tasks : TaskList) : BuiltIn → Prop
  | add => False
  | list => True
  | done | remove => ∃ id, request.id = some id ∧ ∀ task ∈ tasks, task.id ≠ id

/-- What a command makes of the tasks: one more at the end, or the first one of a number done or
    gone. -/
inductive Changes (request : Request) (tasks : TaskList) : BuiltIn → TaskList → Prop where
  | add {words : List Text.RawText} {id : Int} (hwords : request.words = some words)
      (hid : tasks.nextId? = some id) :
      Changes request tasks add (tasks ++ [⟨id, Text.spaced words, false⟩])
  | done {id : Int} {front back : TaskList} {task : Task} (hid : request.id = some id)
      (htasks : tasks = front ++ task :: back) (htask : task.id = id)
      (hfront : ∀ other ∈ front, other.id ≠ id) :
      Changes request tasks done (front ++ { task with done := true } :: back)
  | remove {id : Int} {front back : TaskList} {task : Task} (hid : request.id = some id)
      (htasks : tasks = front ++ task :: back) (htask : task.id = id)
      (hfront : ∀ other ∈ front, other.id ≠ id) :
      Changes request tasks remove (front ++ back)

variable {file : TaskFile} {request : Request} {action : BuiltIn} {session before after : Session}
  {tasks edited : TaskList} {output : Text.RawText}

theorem id_in_use {id : Int} {front back : TaskList} {task : Task} (hid : request.id = some id)
    (htasks : tasks = front ++ task :: back) (htask : task.id = id) :
    ¬ ∃ id, request.id = some id ∧ ∀ task ∈ tasks, task.id ≠ id := by
  rintro ⟨same, hsame, hnone⟩
  obtain rfl := Option.some.inj (hid.symm.trans hsame)
  have hmem : task ∈ tasks := htasks ▸ List.mem_append_right front List.mem_cons_self
  exact hnone task hmem htask

theorem Changes.not_leavesAlone (hchanges : Changes request tasks action edited) :
    ¬ LeavesAlone request tasks action := by
  cases hchanges with
  | add => exact id
  | done hid htasks htask => exact id_in_use hid htasks htask
  | remove hid htasks htask => exact id_in_use hid htasks htask

theorem need_eq_ok {α : Type} {field : String} {value? : Option α} {value : α}
    (hneed : (need field value?).runFrom session = (.ok value, after)) :
    value? = some value ∧ after = session := by
  cases value? with
  | none => cases hneed
  | some other =>
    obtain ⟨hvalue, rfl⟩ := Prod.mk.inj hneed
    exact ⟨congrArg some (Except.ok.inj hvalue), rfl⟩

/-- A command on one task that succeeds found no such task, or saved the list with it changed. -/
theorem performAt_eq_ok {id? : Option Int} {edit? : Int → TaskList → Option TaskList}
    {record : Int → Log.Record} {report : Int → String}
    (hrun : (performAt file id? edit? record report).runFrom session = (.ok output, after)) :
    ∃ id tasks loaded, id? = some id ∧ file.load.runFrom session = (.ok tasks, loaded) ∧
      (edit? id tasks = none ∧ after = loaded ∨
        ∃ edited, edit? id tasks = some edited ∧
          (file.save { tasks := edited }).runFrom (loaded.issue (record id)) = (.ok (), after)) := by
  rw [performAt] at hrun
  obtain ⟨tasks, loaded, hload, hnext⟩ := Attempt.runFrom_bind_eq_ok_iff.mp hrun
  obtain ⟨id, middle, hneed, hedit⟩ := Attempt.runFrom_bind_eq_ok_iff.mp hnext
  obtain ⟨rfl, rfl⟩ := need_eq_ok hneed
  refine ⟨id, tasks, middle, rfl, hload, ?_⟩
  cases hfound : edit? id tasks with
  | none =>
    rw [hfound] at hedit
    exact .inl ⟨rfl, (Prod.mk.inj hedit).2.symm⟩
  | some edited =>
    rw [hfound] at hedit
    obtain ⟨_, issued, hlog, hsaves⟩ := Attempt.runFrom_bind_eq_ok_iff.mp hedit
    obtain ⟨_, saved, hsave, hreport⟩ := Attempt.runFrom_bind_eq_ok_iff.mp hsaves
    obtain ⟨-, rfl⟩ := Prod.mk.inj hlog
    obtain ⟨-, rfl⟩ := Prod.mk.inj hreport
    exact .inr ⟨edited, rfl, hsave⟩

/-- Adding a task succeeds by saving the list with the task behind it. -/
theorem performAdd_eq_ok {words : List Text.RawText}
    (hrun : (performAdd file words).runFrom session = (.ok output, after)) :
    ∃ tasks loaded id record, file.load.runFrom session = (.ok tasks, loaded) ∧
      TaskList.nextId? tasks = some id ∧ record.level = Log.debug ∧
      (file.save { tasks := tasks ++ [⟨id, Text.spaced words, false⟩] }).runFrom
        (loaded.issue record) = (.ok (), after) := by
  obtain ⟨tasks, loaded, hload, -⟩ := Attempt.runFrom_bind_eq_ok_iff.mp hrun
  rw [runFrom_performAdd words hload, TaskList.add?] at hrun
  cases hid : TaskList.nextId? tasks with
  | none =>
    rw [hid] at hrun
    cases hrun
  | some id =>
    rw [hid] at hrun
    obtain ⟨_, saved, hsave, hreport⟩ := Attempt.runFrom_bind_eq_ok_iff.mp hrun
    obtain ⟨-, rfl⟩ := Prod.mk.inj hreport
    exact ⟨tasks, loaded, id, _, hload, hid, rfl, hsave⟩

/-- A command that succeeds loaded the tasks, and then left them alone or saved what it made of
    them. It tells of that no louder than for debugging. -/
theorem perform_eq_ok (hrun : (perform file request action).runFrom session = (.ok output, after)) :
    ∃ tasks loaded, file.load.runFrom session = (.ok tasks, loaded) ∧
      (LeavesAlone request tasks action ∧ after = loaded ∨
        ∃ edited record, Changes request tasks action edited ∧ record.level = Log.debug ∧
          (file.save { tasks := edited }).runFrom (loaded.issue record) = (.ok (), after)) := by
  cases action with
  | add =>
    obtain ⟨words, middle, hneed, hadd⟩ := Attempt.runFrom_bind_eq_ok_iff.mp hrun
    obtain ⟨hwords, rfl⟩ := need_eq_ok hneed
    obtain ⟨tasks, loaded, id, record, hload, hid, hlevel, hsave⟩ := performAdd_eq_ok hadd
    exact ⟨tasks, loaded, hload, .inr ⟨_, record, .add hwords hid, hlevel, hsave⟩⟩
  | list =>
    obtain ⟨tasks, loaded, hload, hlist⟩ := Attempt.runFrom_bind_eq_ok_iff.mp hrun
    exact ⟨tasks, loaded, hload, .inl ⟨trivial, (Prod.mk.inj hlist).2.symm⟩⟩
  | done =>
    obtain ⟨id, tasks, loaded, hid, hload, hcases⟩ := performAt_eq_ok hrun
    refine ⟨tasks, loaded, hload, ?_⟩
    rcases hcases with ⟨hnone, hafter⟩ | ⟨edited, hedit, hsave⟩
    · exact .inl ⟨⟨id, hid, TaskList.modifyFirst?_eq_none_iff.mp hnone⟩, hafter⟩
    · obtain ⟨front, task, back, htask, hfront, htasks, rfl⟩ := TaskList.modifyFirst?_eq_some hedit
      exact .inr ⟨_, _, .done hid htasks htask hfront, rfl, hsave⟩
  | remove =>
    obtain ⟨id, tasks, loaded, hid, hload, hcases⟩ := performAt_eq_ok hrun
    refine ⟨tasks, loaded, hload, ?_⟩
    rcases hcases with ⟨hnone, hafter⟩ | ⟨edited, hedit, hsave⟩
    · exact .inl ⟨⟨id, hid, TaskList.remove?_eq_none_iff.mp hnone⟩, hafter⟩
    · obtain ⟨front, task, back, htask, hfront, htasks, rfl⟩ := TaskList.remove?_eq_some hedit
      exact .inr ⟨_, _, .remove hid htasks htask hfront, rfl, hsave⟩

/-- A request for a command is first told of, and then the command is run. -/
theorem runFrom_handle (file : TaskFile)
    (haction : (registry.find? (request.command.getD "")).map (·.action) = some action)
    (session : Session) :
    (handle file request).runFrom session =
      (perform file request action).runFrom
        (session.issue (Registry.runningRecord (Text.lower (request.command.getD "")))) := by
  obtain ⟨command, hfind, rfl⟩ := Option.map_eq_some_iff.mp haction
  rw [handle, Registry.handle, hfind, Attempt.runFrom_bind, Session.runFrom_log]

/-- A request that succeeds wrote the file exactly if it changed the tasks, and then it wrote exactly
    what they became. A log that is written to the file or its draft is another matter. -/
theorem writes_what_changes {looked : Session}
    (haction : (registry.find? (request.command.getD "")).map (·.action) = some action)
    (hapart : before.LogsApart file)
    (hlook : file.lenient.load.runFrom before = (.ok tasks, looked))
    (hcommand : (handle file request).runFrom before = (.ok output, after)) :
    (LeavesAlone request tasks action →
      (file.path.hasNul = false → after.tree.get? (file.path.place before.directory) =
        before.tree.get? (file.path.place before.directory)) ∧
      ∀ place, place ∉ before.logPlaces →
        FileTree.KeptAt file.path.parent before.directory before.tree after.tree place) ∧
    (¬ LeavesAlone request tasks action →
      ∃ edited, Changes request tasks action edited ∧ file.Saved edited before after) := by
  rw [runFrom_handle file haction] at hcommand
  let issued := before.issue (Registry.runningRecord (Text.lower (request.command.getD "")))
  have hissued : before.Continues issued before.tree := before.continues_issue _
  have hgrewIssued : before.GrewFor file issued := .of_issue before file _
  obtain ⟨found, loaded, hload, hcases⟩ := perform_eq_ok hcommand
  obtain ⟨other, hloadOther, hloaded⟩ := file.runFrom_load issued
  obtain ⟨houtcome, rfl⟩ := Prod.mk.inj (hloadOther.symm.trans hload)
  have hgrew : before.GrewFor file other := hgrewIssued.trans (.of_rooted hloaded)
  -- The command finds the tasks that were looked up.
  obtain rfl : found = tasks := by
    have hfound := TaskFile.loadOutcome_lenient houtcome
    rw [hissued.directory] at hfound
    have hsame := TaskFile.loadOutcome_of_agrees hfound hissued.tree.symm hapart.target
    obtain ⟨lookedOther, hlookOther, -⟩ := file.lenient.runFrom_load before
    rw [hlookOther, hsame] at hlook
    exact Except.ok.inj (Prod.mk.inj hlook).1
  have hapartIssued := hissued.logsApart hapart
  rcases hcases with ⟨halone, rfl⟩ | ⟨edited, record, hchanges, -, hsave⟩
  · refine ⟨fun _ => ⟨fun hnul => ?_, hgrew.kept⟩, fun hnot => absurd halone hnot⟩
    obtain ⟨content?, hshows, -⟩ := TaskFile.shows_of_loadOutcome houtcome
    have hentry := (hshows.of_agrees hloaded.tree hapartIssued.target).get?_place hnul
    rw [hissued.directory] at hentry
    rcases hgrew.kept _ hapart.target with hsame | ⟨-, hmade, -⟩
    · exact hsame
    -- No directory was made in place of the file, or it could not have been loaded.
    · rw [hmade] at hentry
      cases content? <;> cases hentry
  · refine ⟨fun halone => absurd halone hchanges.not_leavesAlone, fun _ => ⟨edited, hchanges, ?_⟩⟩
    have hapartLoaded := (other.continues_issue record).logsApart (hloaded.logsApart hapartIssued)
    have hsaved := TaskFile.saved_of_save hapartLoaded hsave
    exact (hgrew.trans (.of_issue other file record)).saved hsaved

/-- Of two tasks with the same number the first one goes. With it go a malformed line, a blank one
    and a left-over draft. -/
theorem writes_what_changes_first_of_two :
    let file : TaskFile := { path := ⟨.here, ["t"]⟩ }
    let content := Text.Utf8.encode "x\n1|0|a\r\n\n1|1|b"
    let before : Session :=
      { tree := ⟨[(["t"], .file content), (["t.tmp"], .file [0xFF])]⟩, directory := [], clock := 0 }
    ∃ after, (handle file (requestAt "rm" 1)).runFrom before = (.ok "Removed 1.", after) ∧
      file.Saved [⟨1, "b", true⟩] before after := by
  intro file content before
  have hapart : before.LogsApart file := ⟨by decide, by decide⟩
  have haction : (registry.find? ((requestAt "rm" 1).command.getD "")).map (·.action) =
      some remove := congrArg (Option.map (·.action)) (find?_command remove)
  have hlook := Attempt.runFrom_eq_of_fst (show (file.lenient.load.runFrom before).1 =
    .ok [⟨1, "a", false⟩, ⟨1, "b", true⟩] by decide +kernel)
  have hcommand := Attempt.runFrom_eq_of_fst
    (show ((handle file (requestAt "rm" 1)).runFrom before).1 = .ok "Removed 1." by decide +kernel)
  have hchanged : ¬ LeavesAlone (requestAt "rm" 1) [⟨1, "a", false⟩, ⟨1, "b", true⟩] remove := by
    rintro ⟨id, hid, hnone⟩
    exact hnone _ List.mem_cons_self (Option.some.inj hid)
  obtain ⟨edited, hchanges, hsaved⟩ :=
    (writes_what_changes haction hapart hlook hcommand).2 hchanged
  refine ⟨_, hcommand, ?_⟩
  cases hchanges with
  | @remove id front back task hid htasks htask hfront =>
    cases front with
    | nil =>
      obtain ⟨-, rfl⟩ := List.cons.inj htasks
      exact hsaved
    | cons first rest =>
      obtain ⟨rfl, -⟩ := List.cons.inj htasks
      exact absurd (Option.some.inj hid) (hfront _ List.mem_cons_self)

/-- Where the log is written to the file, even a listing changes it. -/
theorem listing_writes_to_logged_file :
    let file : TaskFile := { path := ⟨.here, ["t"]⟩ }
    let routing : Log.Routing :=
      { level := Log.debug
        handlers := [⟨Log.warning, .console⟩, ⟨Log.debug, .file (some ["t"])⟩] }
    let before : Session :=
      { tree := ⟨[(["t"], .file (Text.Utf8.encode "1|0|a\n"))]⟩, directory := [], clock := 0,
        routing }
    let listed := (handle file { command := some "list" }).runFrom before
    (file.lenient.load.runFrom before).1 = .ok [⟨1, "a", false⟩] ∧ listed.1 = .ok "1 [ ] a" ∧
      listed.2.tree.get? ["t"] ≠ before.tree.get? ["t"] := by
  dsimp only
  and_intros
  all_goals decide +kernel

end BuiltIn

end Checklist
