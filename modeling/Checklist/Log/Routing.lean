import Checklist.FileTree
import Checklist.Log.Record

namespace Checklist.Log

/-- Where a handler brings records: to the error stream, or to an open file. The file has no place
    once it was deleted or replaced, and what is written to it then is lost. -/
inductive Sink where
  | console
  | file (place : Option Location)
  deriving Repr, DecidableEq

namespace Sink

/-- The sink after the file at a place was deleted or replaced. -/
def forget (place : Location) : Sink → Sink
  | console => console
  | file other => file (if other = some place then none else other)

/-- The sink after the file at `origin` was moved onto `goal`. -/
def follow (origin goal : Location) (sink : Sink) : Sink :=
  match sink.forget goal with
  | console => console
  | file other => file (if other = some origin then some goal else other)

end Sink

/-- A sink with the least level of the records that it gets. -/
structure Handler where
  level : Int
  sink : Sink
  deriving Repr, DecidableEq

/-- Where records go. Below its level nothing is logged at all, and everything else is brought to
    all handlers in turn. Warnings that code raises about itself are records only once they are
    captured. -/
structure Routing where
  level : Int := warning
  handlers : List Handler := []
  capturesWarnings : Bool := false
  deriving Repr, DecidableEq

/-- The program's own records may appear on the console. Records of others have to be errors. -/
def allowedOnConsole (logger : String) (level : Int) : Bool :=
  logger == ownLoggers || (ownLoggers ++ ".").toList.isPrefixOf logger.toList || error ≤ level

/-- Whether a handler lets a record through to its sink. -/
def Handler.takes (handler : Handler) (record : Record) : Bool :=
  handler.level ≤ record.level &&
    match handler.sink with
    | .console => allowedOnConsole record.logger record.level
    | .file _ => true

namespace Routing

def addHandler (routing : Routing) (handler : Handler) : Routing :=
  { routing with handlers := routing.handlers ++ [handler] }

def removeHandler (routing : Routing) (handler : Handler) : Routing :=
  { routing with handlers := routing.handlers.erase handler }

/-- Removes one handler after the other. -/
def clear (routing : Routing) : Routing :=
  routing.handlers.foldl removeHandler routing

/-- Changes every sink and nothing else. -/
def mapSinks (change : Sink → Sink) (routing : Routing) : Routing :=
  { routing with
    handlers := routing.handlers.map fun handler => { handler with sink := change handler.sink } }

/-- The routing after the file at a place was deleted or replaced. -/
def forget (place : Location) : Routing → Routing :=
  mapSinks (Sink.forget place)

/-- The routing after the file at `origin` was moved onto `goal`. -/
def follow (origin goal : Location) : Routing → Routing :=
  mapSinks (Sink.follow origin goal)

/-- No handler is left once each of them was removed. -/
theorem clear_eq (routing : Routing) : routing.clear = { routing with handlers := [] } := by
  obtain ⟨level, handlers, capturesWarnings⟩ := routing
  unfold clear
  induction handlers with
  | nil => rfl
  | cons handler rest ih =>
    rw [List.foldl_cons, removeHandler, List.erase_cons_head]
    exact ih

end Routing

/-- How a level is asked for. Something that is neither a number nor a name is known by how it
    is shown. -/
inductive LevelChoice where
  | number (level : Int)
  | name (name : String)
  | other (shown : String)
  deriving Repr, DecidableEq

end Checklist.Log
