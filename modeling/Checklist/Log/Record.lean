namespace Checklist.Log

/-- The standard levels. Any integer is a level; these have names. -/
def notSet : Int := 0
def debug : Int := 10
def info : Int := 20
def warning : Int := 30
def error : Int := 40
def critical : Int := 50

/-- The name of a level in log lines. A level without a name is shown by its number. -/
def levelName (level : Int) : String :=
  if level = critical then "CRITICAL"
  else if level = error then "ERROR"
  else if level = warning then "WARNING"
  else if level = info then "INFO"
  else if level = debug then "DEBUG"
  else if level = notSet then "NOTSET"
  else s!"Level {level}"

def namedLevels : List (String × Int) :=
  [("CRITICAL", critical), ("FATAL", critical), ("ERROR", error), ("WARN", warning),
    ("WARNING", warning), ("INFO", info), ("DEBUG", debug), ("NOTSET", notSet)]

/-- One thing worth telling. A traced record carries the trace of a failure. -/
structure Record where
  level : Int
  logger : String
  message : String
  traced : Bool := false
  deriving Repr, DecidableEq

/-- The family of loggers that belong to the program itself. -/
def ownLoggers : String := "tiny_todo"

/-- The parts of the program that log. -/
inductive Topic where
  | taskLine
  | taskList
  | taskFile
  | commands
  | program
  deriving Repr, DecidableEq

def Topic.logger : Topic → String
  | .taskLine => ownLoggers ++ ".tasks.task_models"
  | .taskList => ownLoggers ++ ".tasks.task_store"
  | .taskFile => ownLoggers ++ ".tasks.task_file"
  | .commands => ownLoggers ++ ".cli.commands"
  | .program => ownLoggers ++ ".cli.main"

/-- A record of one of the program's own parts. -/
def Topic.record (topic : Topic) (level : Int) (message : String) : Record :=
  { level, logger := topic.logger, message }

/-- The record as text: one line, and one more for a trace. -/
def Record.render (stamp : String) (record : Record) : String :=
  s!"{stamp} {levelName record.level} {record.logger}: {record.message}\n" ++
    if record.traced then "<traceback>\n" else ""

/-- The record of a warning that code raised about itself. -/
def Record.ofWarning (place text : String) : Record :=
  { level := warning, logger := "py.warnings", message := s!"{place}: UserWarning: {text}\n" }

end Checklist.Log
