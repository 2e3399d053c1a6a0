import Checklist.Session

namespace Checklist.Log

/-- The level that was asked for, if there is one. -/
def LevelChoice.resolve : LevelChoice → Except Failure Int
  | .number level => .ok level
  | .name wanted =>
    match namedLevels.lookup wanted with
    | some level => .ok level
    | none => .error (.unknownLevel wanted)
  | .other shown => .error (.notALevel shown)

structure Setup where
  console : LevelChoice := .number warning
  file : Option Path := none
  fileLevel : LevelChoice := .number debug
  deriving Repr, DecidableEq

/-- Opens a log file for adding to it, in a directory that is made if it is missing. -/
def openFile (path : Path) (level : LevelChoice) : Attempt Handler := do
  Session.makeDirectories path.parent
  let session ← get
  let place ← Session.openEnd (path.absolute session.directory)
  let level ← level.resolve
  return { level, sink := .file (some place) }

/-- Adds a handler for the log file, if there is to be one. -/
def Setup.addFile (setup : Setup) : Attempt Unit :=
  match setup.file with
  | none => return ()
  | some path => do
    let handler ← openFile path setup.fileLevel
    Session.reroute (·.addHandler handler)

/-- Sets logging up anew: all handlers are removed, and there is one for the console and one for the
    log file, if there is to be one. What was done before a failure stays done. -/
def Setup.apply (setup : Setup) : Attempt Unit := do
  Session.reroute fun routing => Routing.clear { routing with level := debug }
  let consoleLevel ← setup.console.resolve
  Session.reroute (·.addHandler { level := consoleLevel, sink := .console })
  setup.addFile
  Session.reroute fun routing => { routing with capturesWarnings := true }

/-- Issues a warning that code raised about itself. Unless it is captured it goes to the error stream
    and is no record. Without any handler a captured one is not seen, not even as a bare message. -/
def warn (place text : String) : Attempt Unit := do
  let session ← get
  let record := Record.ofWarning place text
  if session.routing.capturesWarnings then
    if session.routing.handlers.isEmpty then
      set { session with records := session.records ++ [record] }
    else Session.log record
  else Session.printError record.message

/-- Names that mean something other than a level where a level name is looked up: a text and a
    table of formats. Asking for them is a mistake of its own. -/
def reservedNames : List (String × LevelChoice) :=
  [("BASIC_FORMAT", .name "%(levelname)s:%(name)s:%(message)s"),
    ("_STYLES", .other
      ("\x7b'%': (<class 'logging.PercentStyle'>, '%(levelname)s:%(name)s:%(message)s'), " ++
        "'\x7b': (<class 'logging.StrFormatStyle'>, " ++
        "'\x7blevelname\x7d:\x7bname\x7d:\x7bmessage\x7d'), " ++
        "'$': (<class 'logging.StringTemplateStyle'>, " ++
        "'$\x7blevelname\x7d:$\x7bname\x7d:$\x7bmessage\x7d')\x7d"))]

/-- The level that an upper-case name chooses. A name that means nothing chooses warnings. -/
def LevelChoice.ofName (name : String) : LevelChoice :=
  match namedLevels.lookup name with
  | some level => .number level
  | none => (reservedNames.lookup name).getD (.number warning)

end Checklist.Log
