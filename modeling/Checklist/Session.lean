import Checklist.Failure
import Checklist.FileTree.Access
import Checklist.Log.Routing
import Checklist.Log.Stamp
import Checklist.Text.Utf8

namespace Checklist

/-- What a run of the program can change: the files, the records issued so far and the text on the
    error stream. The directory is the one in which paths without a root start. -/
structure Session where
  tree : FileTree
  directory : Location
  /-- The time that log lines show, in milliseconds after the start of 1970. -/
  clock : Nat
  routing : Log.Routing := {}
  records : List Log.Record := []
  errorText : String := ""
  deriving Repr

/-- A computation in a session that can fail. What it did before it failed stays done. -/
abbrev Attempt (α : Type) := ExceptT Failure (StateM Session) α

namespace Attempt

/-- Runs a computation from a session: its outcome and the session after it. -/
def runFrom {α : Type} (attempt : Attempt α) (session : Session) :
    Except Failure α × Session :=
  (ExceptT.run attempt).run session

@[simp] theorem runFrom_pure {α : Type} (a : α) (session : Session) :
    (pure a : Attempt α).runFrom session = (.ok a, session) := rfl

@[simp] theorem runFrom_throw {α : Type} (failure : Failure) (session : Session) :
    (throw failure : Attempt α).runFrom session = (.error failure, session) := rfl

@[simp] theorem runFrom_get (session : Session) :
    (get : Attempt Session).runFrom session = (.ok session, session) := rfl

@[simp] theorem runFrom_set (next session : Session) :
    (set next : Attempt PUnit).runFrom session = (.ok ⟨⟩, next) := rfl

@[simp] theorem runFrom_modify (change : Session → Session) (session : Session) :
    (modify change : Attempt PUnit).runFrom session = (.ok ⟨⟩, change session) := rfl

/-- The second computation starts where the first one succeeded, and is not reached from where it
    failed. -/
theorem runFrom_bind {α β : Type} (first : Attempt α) (second : α → Attempt β)
    (session : Session) :
    (first >>= second).runFrom session =
      match first.runFrom session with
      | (.ok a, after) => (second a).runFrom after
      | (.error failure, after) => (.error failure, after) := by
  change (match first.runFrom session with
    | (outcome, after) => StateT.run (ExceptT.bindCont second outcome) after) = _
  rcases first.runFrom session with ⟨_ | _, after⟩ <;> rfl

/-- The handler starts where the computation failed. What was done before is not undone. -/
theorem runFrom_tryCatch {α : Type} (attempt : Attempt α) (handler : Failure → Attempt α)
    (session : Session) :
    (tryCatch attempt handler).runFrom session =
      match attempt.runFrom session with
      | (.ok a, after) => (.ok a, after)
      | (.error failure, after) => (handler failure).runFrom after := by
  simp only [runFrom, tryCatch, tryCatchThe, MonadExceptOf.tryCatch, ExceptT.tryCatch,
    ExceptT.run, ExceptT.mk, StateT.run_bind]
  rcases StateT.run attempt session with ⟨_ | _, after⟩ <;> rfl

end Attempt

namespace Session

/-- The session after a handler got a record. -/
def emit (record : Log.Record) (session : Session) (handler : Log.Handler) : Session :=
  if handler.takes record then
    let line := record.render (Log.stamp session.clock)
    match handler.sink with
    | .console => { session with errorText := session.errorText ++ line }
    | .file (some place) =>
      { session with tree := session.tree.append place (Text.Utf8.encode line) }
    | .file none => session
  else session

/-- The session after a record was issued. Without any handler only warnings and errors are seen, as
    bare messages. -/
def issue (session : Session) (record : Log.Record) : Session :=
  let session := { session with records := session.records ++ [record] }
  if session.routing.level ≤ record.level then
    if session.routing.handlers.isEmpty then
      if Log.warning ≤ record.level then
        { session with errorText := session.errorText ++ record.message ++ "\n" }
      else session
    else session.routing.handlers.foldl (emit record) session
  else session

/-- Changes where records go. -/
def reroute (change : Log.Routing → Log.Routing) : Attempt Unit :=
  modify fun session => { session with routing := change session.routing }

def log (record : Log.Record) : Attempt Unit :=
  modify (·.issue record)

def logAll (records : List Log.Record) : Attempt Unit :=
  modify fun session => records.foldl issue session

def printError (text : String) : Attempt Unit :=
  modify fun session => { session with errorText := session.errorText ++ text }

/-- Asks something of the files without changing them. -/
def inspect {α : Type} (question : FileTree → Location → Except FileError α) : Attempt α := do
  let session ← get
  match question session.tree session.directory with
  | .ok answer => return answer
  | .error error => throw (.file error)

/-- Changes the files in one step that either succeeds or leaves them alone. -/
def change {α : Type} (step : FileTree → Location → Except FileError (FileTree × α)) :
    Attempt α := do
  let session ← get
  match step session.tree session.directory with
  | .ok (tree, answer) =>
    set { session with tree }
    return answer
  | .error error => throw (.file error)

/-- Makes a directory and every missing directory on the way to it. -/
def makeDirectories (path : Path) : Attempt Unit := do
  let session ← get
  let (tree, outcome) := session.tree.makeDirectories session.directory path
  set { session with tree }
  match outcome with
  | .ok () => return ()
  | .error error => throw (.file error)

def peek? (path : Path) : Attempt (Option Entry) :=
  inspect fun tree directory => tree.peek? directory path

def read (path : Path) : Attempt (List UInt8) :=
  inspect fun tree directory => tree.read directory path

/-- Opens a file for writing from its start, and gives its place. -/
def create (path : Path) : Attempt Location :=
  change fun tree directory => tree.create directory path

/-- Opens a file for writing at its end, and gives its place. -/
def openEnd (path : Path) : Attempt Location :=
  change fun tree directory => tree.openEnd directory path

/-- Writes bytes into an open file behind a count of its first ones. -/
def overwrite (place : Location) (start : Nat) (bytes : List UInt8) : Attempt Unit :=
  modify fun session => { session with tree := session.tree.overwrite place start bytes }

/-- Moves a file onto another place. An open log file moves with it, and one it replaces is
    lost. -/
def rename (source target : Path) : Attempt Unit := do
  let (origin, goal) ← change fun tree directory => tree.rename directory source target
  reroute (·.follow origin goal)

/-- Deletes a file. A log file that is open there is lost. -/
def unlink (path : Path) : Attempt Unit := do
  let place ← change fun tree directory => tree.unlink directory path
  reroute (·.forget place)

end Session

end Checklist
