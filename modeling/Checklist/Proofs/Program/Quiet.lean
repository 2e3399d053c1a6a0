import Checklist.Proofs.Command.Footprint
import Checklist.Proofs.Command.Registration
import Checklist.Proofs.Program.Endings
import Checklist.Proofs.Program.Simulation
import Checklist.Proofs.TaskFile.LineBreaks

namespace Checklist

/-- The line on the error stream that warns of a line break in the text of a task. -/
def Task.breakLine (clock : Nat) (task : Task) : String :=
  Log.stamp clock ++ " WARNING tiny_todo.tasks.task_models: " ++
    s!"Task {task.id} text contains a line break; it will not load back intact\n"

namespace Log

/-- Where the console shows warnings, it shows nothing that is told for information or less. -/
theorem filter_isShown_of_le_info {records : List Record}
    (hrecords : ∀ record ∈ records, record.level ≤ info) :
    records.filter (IsShown warning) = [] := by
  rw [List.filter_eq_nil_iff]
  intro record hmem hshown
  have hloud : warning ≤ record.level := (of_decide_eq_true hshown).2.1
  exact absurd (Int.le_trans hloud (hrecords record hmem)) (by decide)

theorem isShown_breakWarning (task : Task) : IsShown warning task.breakWarning := by
  have hown : "tiny_todo.".toList <+: "tiny_todo.tasks.task_models".toList := by decide
  have hlevel : debug ≤ warning := by decide
  exact ⟨hlevel, Int.le_refl _, .inr (.inl hown)⟩

theorem transcript_breakWarning (clock : Nat) (task : Task) :
    transcript clock [task.breakWarning] = task.breakLine clock := by
  have hlead : " WARNING tiny_todo.tasks.task_models: " =
      " " ++ ("WARNING" ++ (" " ++ ("tiny_todo.tasks.task_models" ++ ": "))) := by decide
  have hend : " text contains a line break; it will not load back intact\n" =
      " text contains a line break; it will not load back intact" ++ "\n" := by decide
  rw [transcript_singleton, Task.breakLine, hlead, hend]
  simp only [Record.render, Task.breakWarning, levelName, warning, critical, error, toString,
    String.append_assoc]
  rfl

/-- What the console shows of a save are the warnings of line breaks, in the order of the tasks. -/
theorem transcript_lineRecords (clock : Nat) (tasks : TaskList) :
    transcript clock ((tasks.flatMap Task.lineRecords).filter (IsShown warning)) =
      String.join ((tasks.filter Task.hasLineBreak).map (Task.breakLine clock)) := by
  induction tasks with
  | nil => rfl
  | cons task rest ih =>
    rw [List.flatMap_cons, List.filter_append, transcript_append, ih, Task.lineRecords_eq]
    by_cases hbreak : task.hasLineBreak = true
    · have hshown : [task.breakWarning].filter (IsShown warning) = [task.breakWarning] := by
        simp [isShown_breakWarning]
      rw [if_pos hbreak, hshown, transcript_breakWarning, List.filter_cons_of_pos hbreak,
        List.map_cons, String.join_cons]
    · rw [if_neg hbreak, List.filter_cons_of_neg hbreak]
      simp

end Log

/-- All that warnings show of the records of some tasks, among others that are no louder than for
    information, are the line breaks. -/
theorem Session.Tells.errorText_of_lineRecords {before after : Session} {tasks : TaskList}
    {front back : List Log.Record}
    (htells : before.Tells (front ++ tasks.flatMap Task.lineRecords ++ back) after)
    (hlevel : before.routing.ShowsFrom Log.warning)
    (hfront : ∀ record ∈ front, record.level ≤ Log.info)
    (hback : ∀ record ∈ back, record.level ≤ Log.info) :
    after.errorText = before.errorText ++
      String.join ((tasks.filter Task.hasLineBreak).map (Task.breakLine before.clock)) := by
  rw [htells.errorText _ hlevel, List.filter_append, List.filter_append,
    Log.filter_isShown_of_le_info hfront, Log.filter_isShown_of_le_info hback, List.nil_append,
    List.append_nil, Log.transcript_lineRecords]

namespace BuiltIn

/-- What a command that succeeds makes of a file with tasks. It leaves them alone, or it changes them
    and saves the list that then stands. -/
inductive Effect (file : TaskFile) (request : Request) (action : BuiltIn) (tasks : TaskList)
    (before after : Session) : Option TaskList → Prop where
  | nothing (halone : action.LeavesAlone request tasks) :
      Effect file request action tasks before after none
  | saved {edited : TaskList} (hchanges : action.Changes request tasks edited)
      (hsaved : file.Saved edited before after) :
      Effect file request action tasks before after (some edited)

variable {file : TaskFile} {request : Request} {action : BuiltIn} {tasks : TaskList}
  {before routed after : Session} {saved? : Option TaskList} {output : Text.RawText}

theorem Effect.eq_none (heffect : Effect file request action tasks before after saved?)
    (halone : action.LeavesAlone request tasks) : saved? = none := by
  cases heffect with
  | nothing => rfl
  | saved hchanges => exact absurd halone hchanges.not_leavesAlone

/-- Where the log goes before a command runs is no part of its effect. -/
theorem Effect.of_quiet (heffect : Effect file request action tasks routed after saved?)
    (hquiet : routed.logPlaces = []) (htree : routed.tree = before.tree)
    (hdirectory : routed.directory = before.directory) :
    Effect file request action tasks before after saved? := by
  cases heffect with
  | nothing halone => exact .nothing halone
  | saved hchanges hsaved =>
    refine .saved hchanges ⟨hdirectory ▸ hsaved.content, hsaved.draft, ?_⟩
    intro place hplace hdraft _
    rw [← hdirectory] at hplace hdraft ⊢
    exact htree ▸ hsaved.others place hplace hdraft (by simp [hquiet])

/-- A command that succeeds warns of the line breaks in the tasks that it saves, and of nothing
    else. -/
theorem errorText_of_handle
    (haction : (registry.find? (request.command.getD "")).map (·.action) = some action)
    (hlevel : routed.routing.ShowsFrom Log.warning) (hquiet : routed.logPlaces = [])
    (hrun : (handle file request).runFrom routed = (.ok output, after)) :
    ∃ tasks saved?, file.loadOutcome routed.tree routed.directory = .ok tasks ∧
      Effect file request action tasks routed after saved? ∧
      after.errorText = routed.errorText ++ String.join
        (((saved?.getD []).filter Task.hasLineBreak).map (Task.breakLine routed.clock)) := by
  rw [runFrom_handle file haction] at hrun
  let running := Registry.runningRecord (Text.lower (request.command.getD ""))
  have hissued := routed.continues_issue running
  obtain ⟨tasks, loaded, hload, hcases⟩ := perform_eq_ok hrun
  obtain ⟨loads, hloads, hrooted⟩ := file.runFrom_load (routed.issue running)
  obtain ⟨houtcome, rfl⟩ := Prod.mk.inj (hloads.symm.trans hload)
  rw [Session.tree_issue hquiet, hissued.directory] at houtcome
  -- Up to here nothing is told that warnings would show.
  obtain ⟨records, htells, hrecords⟩ := file.tellsOnly_load.exists_tells hload
  have hloaded := (routed.tells_issue running).trans htells
  have hdebug {record : Log.Record} (hlevel : record.level = Log.debug) :
      record.level ≤ Log.info := hlevel ▸ (by decide : Log.debug ≤ Log.info)
  have hfront : ∀ record ∈ [running] ++ records, record.level ≤ Log.info :=
    List.forall_mem_append.mpr ⟨by simpa using hdebug rfl, hrecords⟩
  rcases hcases with ⟨halone, rfl⟩ | ⟨edited, record, hchanges, hrecord, hsave⟩
  · have htold : routed.Tells
        ([running] ++ records ++ ([] : TaskList).flatMap Task.lineRecords ++ []) after := by
      simpa using hloaded
    exact ⟨tasks, none, houtcome, .nothing halone,
      htold.errorText_of_lineRecords hlevel hfront (by simp)⟩
  · have hgrew : routed.GrewFor file (loads.issue record) :=
      (Session.GrewFor.of_issue routed file running).trans
        ((Session.GrewFor.of_rooted hrooted).trans (.of_issue loads file record))
    have hapart := Session.logsApart_of_quiet (hgrew.self.logPlaces.trans hquiet) file
    have hsaved := hgrew.saved (TaskFile.saved_of_save hapart hsave)
    have htold := (hloaded.trans (loads.tells_issue record)).trans (TaskFile.tells_of_save hsave)
    refine ⟨tasks, some edited, houtcome, .saved hchanges hsaved, ?_⟩
    rw [← List.append_assoc] at htold
    exact htold.errorText_of_lineRecords hlevel
      (List.forall_mem_append.mpr ⟨hfront, by simpa using hdebug hrecord⟩)
      (by simpa using hdebug rfl)

end BuiltIn

/-- The file that commands are run on. -/
def Configuration.file? (configuration : Configuration) : Option TaskFile :=
  configuration.dataFile.map fun path => { path, strict := configuration.strictLoad }

namespace Program

/-- A command line that asks for a command, and the tasks that the command finds. -/
structure Calls (configuration : Configuration) (words : List Text.RawText) (before : Session)
    (request : Request) (action : BuiltIn) (file : TaskFile) (tasks : TaskList) : Prop where
  parsed : CommandLine.parse BuiltIn.registry words = .request request
  registered : (BuiltIn.registry.find? (request.command.getD "")).map (·.action) = some action
  configured : configuration.file? = some file
  loaded : (file.load.runFrom before).1 = .ok tasks

/-- What a run that succeeds did: it showed a help text, or a command had its effect. -/
inductive Succeeded (configuration : Configuration) (words : List Text.RawText)
    (before after : Session) : Option TaskList → Prop where
  | help {command : Option (Command BuiltIn)}
      (hparse : CommandLine.parse BuiltIn.registry words = .help command) :
      Succeeded configuration words before after none
  | command {request : Request} {action : BuiltIn} {file : TaskFile} {tasks : TaskList}
      {saved? : Option TaskList}
      (hcalls : Calls configuration words before request action file tasks)
      (heffect : BuiltIn.Effect file request action tasks before after saved?) :
      Succeeded configuration words before after saved?

variable {configuration : Configuration} {words : List Text.RawText} {request : Request}
  {action : BuiltIn} {file : TaskFile} {tasks : TaskList} {before routed after : Session}
  {output : Text.RawText} {saved? : Option TaskList}

theorem Succeeded.eq_none (hsucceeded : Succeeded configuration words before after saved?)
    (hcalls : Calls configuration words before request action file tasks)
    (halone : action.LeavesAlone request tasks) : saved? = none := by
  cases hsucceeded with
  | help => rfl
  | command hother heffect =>
    obtain rfl := CommandLine.Parsed.request.inj (hother.parsed.symm.trans hcalls.parsed)
    obtain rfl := Option.some.inj (hother.registered.symm.trans hcalls.registered)
    obtain rfl := Option.some.inj (hother.configured.symm.trans hcalls.configured)
    obtain rfl := Except.ok.inj (hother.loaded.symm.trans hcalls.loaded)
    exact heffect.eq_none halone

theorem handle_of_perform
    (hrun : (perform file request).runFrom routed = (.ok { code := 0, output }, after)) :
    ∃ reply, (BuiltIn.handle file request).runFrom routed = (.ok reply, after) := by
  rw [perform, Attempt.runFrom_tryCatch, Attempt.runFrom_bind] at hrun
  rcases hhandle : (BuiltIn.handle file request).runFrom routed with ⟨failure | reply, handled⟩
  · rw [hhandle] at hrun
    dsimp only at hrun
    split at hrun
    · obtain ⟨_, logged, -, hrun⟩ := Attempt.runFrom_bind_eq_ok_iff.mp hrun
      obtain ⟨_, printed, -, hrun⟩ := Attempt.runFrom_bind_eq_ok_iff.mp hrun
      cases hrun
    · cases hrun
  · rw [hhandle] at hrun
    obtain ⟨-, rfl⟩ := Prod.mk.inj hrun
    exact ⟨reply, rfl⟩

/-- A request that is answered with success was one for a command, which succeeded. -/
theorem handle_of_answer
    (hrun : (answer configuration request).runFrom routed = (.ok { code := 0, output }, after)) :
    ∃ name file reply, request.command = some name ∧ configuration.file? = some file ∧
      (BuiltIn.handle file request).runFrom routed = (.ok reply, after) := by
  have husage : (do
      Session.printError (← helpText none)
      return { code := usageError } : Attempt Ending).runFrom routed ≠
        (.ok { code := 0, output }, after) := by
    intro hhelp
    obtain ⟨text, middle, -, hhelp⟩ := Attempt.runFrom_bind_eq_ok_iff.mp hhelp
    obtain ⟨_, printed, -, hhelp⟩ := Attempt.runFrom_bind_eq_ok_iff.mp hhelp
    cases hhelp
  unfold answer at hrun
  split at hrun
  · exact absurd hrun husage
  · exact absurd hrun husage
  · next name _ hname =>
    split at hrun
    · cases hrun
    · next path hpath =>
      obtain ⟨reply, hhandle⟩ := handle_of_perform hrun
      refine ⟨name, _, reply, hname, ?_, hhandle⟩
      rw [Configuration.file?, hpath, Option.map_some]

theorem succeeded_of_run (hlevel : configuration.logLevel = "WARNING")
    (hfile : configuration.logFile = none)
    (hrun : (run configuration words).runFrom before = (.ok { code := 0, output }, after)) :
    ∃ saved?, Succeeded configuration words before after saved? ∧
      after.errorText = before.errorText ++ String.join
        (((saved?.getD []).filter Task.hasLineBreak).map (Task.breakLine before.clock)) := by
  rw [run, hlevel, hfile, Attempt.runFrom_bind_of_ok (runFrom_setup before)] at hrun
  cases hparse : CommandLine.parse BuiltIn.registry words with
  | help command =>
    rw [hparse] at hrun
    obtain ⟨text, middle, hhelp, hend⟩ := Attempt.runFrom_bind_eq_ok_iff.mp hrun
    obtain ⟨outcome, hshown⟩ := runFrom_helpText command
      { before with routing := .toConsole Log.warning }
    obtain ⟨-, rfl⟩ := Prod.mk.inj (hshown.symm.trans hhelp)
    obtain ⟨-, rfl⟩ := Prod.mk.inj hend
    exact ⟨none, .help hparse, by simp⟩
  | misuse command message =>
    rw [hparse] at hrun
    obtain ⟨_, printed, -, hend⟩ := Attempt.runFrom_bind_eq_ok_iff.mp hrun
    cases hend
  | request request =>
    rw [hparse] at hrun
    obtain ⟨name, file, reply, hname, hconfigured, hhandle⟩ := handle_of_answer hrun
    obtain ⟨command, hnamed, -⟩ := CommandLine.chooses_of_parse hparse hname
    obtain ⟨hfind, -⟩ := Registry.find?_of_named? hnamed
    have haction : (BuiltIn.registry.find? (request.command.getD "")).map (·.action) =
        some command.action := by
      rw [hname]
      exact congrArg (Option.map (·.action)) hfind
    obtain ⟨tasks, saved?, houtcome, heffect, herror⟩ :=
      BuiltIn.errorText_of_handle haction (Log.Routing.showsFrom_toConsole _) rfl hhandle
    refine ⟨saved?, .command ⟨hparse, haction, hconfigured, ?_⟩ (heffect.of_quiet rfl rfl rfl),
      herror⟩
    obtain ⟨loaded, hload, -⟩ := file.runFrom_load before
    rw [hload]
    exact houtcome

/-- A run without a log file that shows warnings and succeeds writes to the error stream one line for
    each task that it saves with a line break in the text, in the order of the list, and nothing
    else. Where the tasks are left alone it writes nothing. -/
theorem errorText_of_success (hlevel : configuration.logLevel = "WARNING")
    (hfile : configuration.logFile = none)
    (hrun : (run configuration words).runFrom before = (.ok { code := 0, output }, after)) :
    (∃ saved?, Succeeded configuration words before after saved? ∧
      after.errorText = before.errorText ++ String.join
        (((saved?.getD []).filter Task.hasLineBreak).map (Task.breakLine before.clock))) ∧
    ∀ request action file tasks,
      Calls configuration words before request action file tasks →
        action.LeavesAlone request tasks → after.errorText = before.errorText := by
  obtain ⟨saved?, hsucceeded, herror⟩ := succeeded_of_run hlevel hfile hrun
  refine ⟨⟨saved?, hsucceeded, herror⟩, fun request action file tasks hcalls halone => ?_⟩
  rw [herror, hsucceeded.eq_none hcalls halone]
  simp

/-- A task that was loaded with a carriage return in its text is warned about when another one is
    done. The line that was skipped is not mentioned. -/
theorem errorText_of_success_loaded_return :
    let configuration : Configuration := { dataFile := some ⟨.here, ["t"]⟩ }
    let content := Text.Utf8.encode "x\n1|0|a\rb\n2|0|c\n"
    let before : Session := { tree := ⟨[(["t"], .file content)]⟩, directory := [], clock := 0 }
    ∃ after saved?,
      (run configuration ["done", "2"]).runFrom before =
        (.ok { code := 0, output := "Marked 2 done.\n" }, after) ∧
      Succeeded configuration ["done", "2"] before after saved? ∧
      String.join (((saved?.getD []).filter Task.hasLineBreak).map (Task.breakLine 0)) =
        (⟨1, "a\rb", false⟩ : Task).breakLine 0 := by
  intro configuration content before
  have hrun := Attempt.runFrom_eq_of_fst (show ((run configuration ["done", "2"]).runFrom before).1 =
    .ok { code := 0, output := "Marked 2 done.\n" } by decide +kernel)
  obtain ⟨⟨saved?, hsucceeded, herror⟩, -⟩ := errorText_of_success rfl rfl hrun
  refine ⟨_, saved?, hrun, hsucceeded, ?_⟩
  have hshown : ((run configuration ["done", "2"]).runFrom before).2.errorText =
      (⟨1, "a\rb", false⟩ : Task).breakLine 0 := by decide +kernel
  simpa [before] using herror.symm.trans hshown

end Program

end Checklist
