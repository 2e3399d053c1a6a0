import Checklist.Task
import Checklist.TaskFile
import Checklist.TaskFile.Backlog

namespace Checklist

/-- Tasks to be saved. They may stop coming, with a message, after those that are listed. -/
structure TaskSource where
  tasks : List Task
  failure : Option String := none
  deriving Repr, DecidableEq

/-- Failures from outside during a save, each with its message. -/
structure SaveFaults where
  parents : Option String := none
  opening : Option String := none
  sync : Option String := none
  replacing : Option String := none
  cleanup : Option String := none
  deriving Repr, DecidableEq

/-- A step of writing tasks on lines: a record is issued, or bytes go to the file behind those that
    went before. -/
inductive WriteStep where
  | record (record : Log.Record)
  | portion (bytes : List UInt8)
  deriving Repr, DecidableEq

/-- What came of writing tasks on lines: the steps, and the failure that stopped it if one did. -/
structure Writing where
  steps : List WriteStep
  failure : Option Failure
  deriving Repr, DecidableEq

/-- How a task fails to be put on a line, if it does. Its number is written before its line is
    encoded. -/
def Task.writingFailure? (task : Task) : Option Failure :=
  if task.isWritable then
    if Text.isEncodable task.line then none else some (.unencodable task.line)
  else some .unwritableNumber

namespace Writing

/-- Puts tasks on lines until one cannot be written or no more come. What is on its way in the end
    goes to the file in any case. -/
def ofTasks (interruption : Option String) (backlog : Backlog) : List Task → Writing
  | [] => ⟨[.portion backlog.bytes], interruption.map .sourceFailed⟩
  | task :: rest =>
    let logged := task.lineRecords.map .record
    match task.writingFailure? with
    | some failure => ⟨logged ++ [.portion backlog.bytes], some failure⟩
    | none =>
      let (early, grown) := backlog.push (Text.Utf8.encode task.line)
      let (late, grown) := grown.push (Text.Utf8.encode "\n")
      let writing := ofTasks interruption grown rest
      ⟨logged ++ (early ++ late).map .portion ++ writing.steps, writing.failure⟩

end Writing

namespace TaskFile

def savedRecord (file : TaskFile) (saved : Nat) : Log.Record :=
  Log.Topic.taskFile.record Log.debug s!"Saved {saved} tasks to {file.path}"

def failOn (fault : Option String) : Attempt Unit :=
  match fault with
  | some message => throw (.file (.fault message))
  | none => return ()

/-- Takes the steps of writing an open file of which a count of bytes are written. -/
def take (place : Location) : Nat → List WriteStep → Attempt Unit
  | _, [] => return ()
  | written, .record record :: rest => do
    Session.log record
    take place written rest
  | written, .portion bytes :: rest => do
    Session.overwrite place written bytes
    take place (written + bytes.length) rest

/-- Opens the draft from its start. A path with a NUL never reaches the system, so that no failure
    from there comes before its refusal. -/
def openDraft (draft : Path) (fault : Option String) : Attempt Location := do
  failOn (if draft.hasNul then none else fault)
  Session.create draft

/-- Writes the draft and puts it in place of the file. What was written before a failure is in
    the draft. -/
def writeThrough (file : TaskFile) (draft : Path) (source : TaskSource) (faults : SaveFaults) :
    Attempt Unit := do
  let place ← openDraft draft faults.opening
  let writing := Writing.ofTasks source.failure {} source.tasks
  take place 0 writing.steps
  match writing.failure with
  | some failure => throw failure
  | none =>
    failOn faults.sync
    failOn faults.replacing
    Session.rename draft file.path

/-- Deletes the draft. Refusals of the system are passed over. -/
def discard (draft : Path) (faults : SaveFaults) : Attempt Unit :=
  tryCatch (do failOn faults.cleanup; Session.unlink draft) fun failure =>
    match failure with
    | .file error => if error.isSystem then return () else throw failure
    | _ => throw failure

/-- Saves tasks as the content of the file. The old content stays until the new one is complete,
    and a failure leaves it as it was. -/
def save (file : TaskFile) (source : TaskSource) (faults : SaveFaults := {}) : Attempt Unit := do
  failOn faults.parents
  file.ensureDirectory
  let draft ← file.draft
  tryCatch (file.writeThrough draft source faults) fun failure => do
    discard draft faults
    throw failure
  Session.log (file.savedRecord source.tasks.length)

end TaskFile

end Checklist
