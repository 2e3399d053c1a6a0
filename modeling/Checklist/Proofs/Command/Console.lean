import Checklist.Command.BuiltIn
import Checklist.Proofs.Session.Console

namespace Checklist

namespace TaskFile

variable {file : TaskFile}

theorem ignoresConsole_load (file : TaskFile) : file.load.IgnoresConsole := by
  refine .bind (Session.ignoresConsole_makeDirectories _) fun _ =>
    .bind (Session.ignoresConsole_inspect _) fun entry? => ?_
  cases entry? with
  | none => exact .bind (Session.ignoresConsole_log _) fun _ => .pure []
  | some entry =>
    refine .bind (Session.ignoresConsole_inspect _) fun content =>
      .bind (Session.ignoresConsole_logAll _) fun _ => ?_
    cases (Reading.ofBytes file.strict file.path content).outcome with
    | error failure => exact .throw failure
    | ok tasks => exact .bind (Session.ignoresConsole_log _) fun _ => .pure tasks

theorem ignoresConsole_failOn (fault : Option String) : (failOn fault).IgnoresConsole := by
  cases fault with
  | none => exact .pure ()
  | some message => exact .throw _

theorem ignoresConsole_take (place : Location) (written : Nat) (steps : List WriteStep) :
    (take place written steps).IgnoresConsole := by
  induction steps generalizing written with
  | nil => exact .pure ()
  | cons step rest ih =>
    cases step with
    | record record => exact .bind (Session.ignoresConsole_log record) fun _ => ih written
    | portion bytes => exact .bind (Session.ignoresConsole_overwrite _ _ _) fun _ => ih _

theorem ignoresConsole_writeThrough (file : TaskFile) (draft : Path) (source : TaskSource)
    (faults : SaveFaults) : (file.writeThrough draft source faults).IgnoresConsole := by
  have hopen : (openDraft draft faults.opening).IgnoresConsole :=
    .bind (ignoresConsole_failOn _) fun _ => Session.ignoresConsole_change _
  refine .bind hopen fun place => .bind (ignoresConsole_take place _ _) fun _ => ?_
  cases (Writing.ofTasks source.failure {} source.tasks).failure with
  | some failure => exact .throw failure
  | none =>
    exact .bind (ignoresConsole_failOn _) fun _ =>
      .bind (ignoresConsole_failOn _) fun _ => Session.ignoresConsole_rename _ _

theorem ignoresConsole_discard (draft : Path) (faults : SaveFaults) :
    (discard draft faults).IgnoresConsole := by
  have hunlink := Session.ignoresConsole_unlink draft
  refine .tryCatch (.bind (ignoresConsole_failOn _) fun _ => hunlink) fun failure => ?_
  cases failure with
  | file error =>
    dsimp only
    split
    · exact .pure ()
    · exact .throw _
  | _ => exact .throw _

theorem ignoresConsole_save (file : TaskFile) (source : TaskSource) (faults : SaveFaults) :
    (file.save source faults).IgnoresConsole := by
  have hdraft : file.draft.IgnoresConsole := by
    rw [TaskFile.draft]
    split
    · exact .pure _
    · exact .throw _
  refine .bind (ignoresConsole_failOn _) fun _ =>
    .bind (Session.ignoresConsole_makeDirectories _) fun _ => .bind hdraft fun draft =>
      .bind (.tryCatch ?_ fun failure => ?_) fun _ => Session.ignoresConsole_log _
  · exact ignoresConsole_writeThrough file draft source faults
  · exact .bind (ignoresConsole_discard draft faults) fun _ => .throw failure

end TaskFile

namespace BuiltIn

theorem ignoresConsole_need {α : Type} (field : String) (value? : Option α) :
    (need field value?).IgnoresConsole := by
  cases value? with
  | none => exact .throw _
  | some value => exact .pure value

theorem ignoresConsole_performAt (file : TaskFile) (id? : Option Int)
    (edit? : Int → TaskList → Option TaskList) (record : Int → Log.Record)
    (report : Int → String) : (performAt file id? edit? record report).IgnoresConsole := by
  refine .bind file.ignoresConsole_load fun tasks => .bind (ignoresConsole_need _ _) fun id => ?_
  cases edit? id tasks with
  | none => exact .pure _
  | some edited =>
    exact .bind (Session.ignoresConsole_log _) fun _ =>
      .bind (file.ignoresConsole_save _ _) fun _ => .pure _

theorem ignoresConsole_performAdd (file : TaskFile) (words : List Text.RawText) :
    (performAdd file words).IgnoresConsole := by
  refine .bind file.ignoresConsole_load fun tasks => ?_
  cases TaskList.add? tasks (Text.spaced words) with
  | none => exact .throw _
  | some added =>
    exact .bind (Session.ignoresConsole_log _) fun _ =>
      .bind (file.ignoresConsole_save _ _) fun _ => .pure _

theorem ignoresConsole_perform (file : TaskFile) (request : Request) (action : BuiltIn) :
    (perform file request action).IgnoresConsole := by
  cases action with
  | add => exact .bind (ignoresConsole_need _ _) fun words => ignoresConsole_performAdd file words
  | list => exact .bind file.ignoresConsole_load fun _ => .pure _
  | done => exact ignoresConsole_performAt file request.id _ _ _
  | remove => exact ignoresConsole_performAt file request.id _ _ _

theorem ignoresConsole_handle (file : TaskFile) (request : Request) :
    (handle file request).IgnoresConsole := by
  rw [handle, Registry.handle]
  split
  · exact .pure _
  · exact .bind (Session.ignoresConsole_log _) fun _ => ignoresConsole_perform file request _

end BuiltIn

end Checklist
