import Checklist.Program
import Std.Time.DateTime.Timestamp

namespace Checklist.Main

/-- The places on the way from the root to a place, the place itself last. -/
def waypoints (place : Location) : List Location :=
  (List.range place.length).map fun count => place.take (count + 1)

def systemPath (place : Location) : String :=
  "/" ++ "/".intercalate place

/-- Looks at one place of the real files and records what stands there. -/
def look (tree : FileTree) (place : Location) : IO FileTree := do
  let target := (← IO.currentDir) / systemPath place
  if ← target.isDir then return tree.put place .directory
  else if ← target.pathExists then
    return tree.put place (.file (← IO.FS.readBinFile target).toList)
  else return tree

/-- Looks at places and at all directories above them. -/
def lookAt (tree : FileTree) (places : List Location) : IO FileTree :=
  (places.flatMap waypoints).foldlM look tree

/-- Brings one place of the real files to its new entry. New content is written beside the file and
    moved onto it. -/
def bring (place : Location) (before after : Option Entry) : IO Unit := do
  let target := systemPath place
  match before, after with
  | none, some .directory => IO.FS.createDir target
  | _, some (.file content) =>
    IO.FS.writeBinFile (target ++ ".new") ⟨content.toArray⟩
    IO.FS.rename (target ++ ".new") target
  | some (.file _), none => IO.FS.removeFile target
  | _, _ => return ()

/-- Brings the real files from one tree to another, directories before what they hold. -/
def bringAll (before after : FileTree) : IO Unit := do
  let places := ((before.entries ++ after.entries).map (·.1)).eraseDups
  for place in places.mergeSort fun left right => left.length ≤ right.length do
    if before.get? place != after.get? place then
      bring place (before.get? place) (after.get? place)

def names (text : String) : Location :=
  (Path.ofString text).parts

/-- Every place that a configuration may touch. -/
def touched (directory : Location) (configuration : Configuration) : List Location :=
  let place (path : Path) : Location := (path.absolute directory).parts
  let data := configuration.dataFile.toList
  data.map place ++ (data.filterMap fun path => (TaskFile.draft? { path }).map place) ++
    configuration.logFile.toList.map place

/-- A file of the system as text, which is empty where it cannot be read. -/
def systemText (path : String) : IO String := do
  try IO.FS.readFile path catch _ => return ""

/-- The accounts that the system lists, and among them the one that the program runs under. -/
def systemAccounts : IO Accounts := do
  let entries := ((← systemText "/etc/passwd").splitOn "\n").filterMap fun line =>
    match line.splitOn ":" with
    | name :: _ :: user :: _ :: _ :: home :: _ => some (name, user, home)
    | _ => none
  let running? := ((← systemText "/proc/self/status").splitOn "\n").findSome? fun line =>
    match line.splitOn "\t" with
    | "Uid:" :: user :: _ => some user
    | _ => none
  let own := (entries.find? fun (_, user, _) => running? == some user).map fun (_, _, home) => home
  return { own, named := entries.map fun (name, _, home) => (name, home) }

def runProgram (words : List String) : IO UInt32 := do
  let directory := names (← IO.currentDir).toString
  let application := names ((← IO.appPath).parent.getD ".").toString
  let applicationPath : Path := ⟨.root, application⟩
  let values ← ["TODO_DATA_DIR", "TODO_DATA_FILE", "TODO_STRICT_LOAD", "TODO_LOG_LEVEL",
    "TODO_LOG_FILE", "HOME"].mapM fun name => return (name, ← IO.getEnv name)
  let environment := Environment.ofVariables (fun name => (values.lookup name).bind id)
    (← systemAccounts)
  let start ← lookAt {} [directory, application ++ ["pyproject.toml"], application ++ ["src"]]
  let made := do
    let dataDirectory ← (defaultDataDirectory start directory applicationPath
      (userDataDirectory ((environment.homeOf? "~").getD ""))).mapError Failure.file
    Settings.ofEnvironment environment dataDirectory
  match made with
  | .error failure =>
    IO.eprintln failure.message
    return 1
  | .ok settings =>
    let configuration := settings.configuration
    let before ← lookAt start (touched directory configuration)
    let clock := (← Std.Time.Timestamp.now).toMillisecondsSinceUnixEpoch.toInt.toNat
    let (outcome, after) :=
      (Program.run configuration (words.map Text.ofString)).runFrom
        { tree := before, directory, clock }
    bringAll before after.tree
    IO.eprint after.errorText
    match outcome with
    | .ok ending =>
      IO.print (Text.escapeSurrogates ending.output)
      return ending.code.toUInt32
    | .error failure =>
      IO.eprintln failure.message
      return 1

end Checklist.Main

def main (words : List String) : IO UInt32 :=
  Checklist.Main.runProgram words
