import Checklist.Proofs.Command.Holding
import Checklist.Proofs.Program.Orders
import Mathlib.Data.List.Forall2

namespace Checklist

namespace Order

variable {file : TaskFile} {session : Session} {stored : Option TaskList} {order : Order}

/-- An order on one task changes the list in the file as it changes the stored one. -/
theorem performAt_applyAt {id : Nat} {changed : TaskList}
    (edit? : Int → TaskList → Option TaskList) (record : Int → Log.Record) (report : Int → String)
    (hholds : file.Holds session.tree session.directory stored)
    (hquiet : session.logPlaces = []) (hedits : TaskList.EditsFirst id (edit? id))
    (hedit : edit? id (stored.getD []) =
      if (stored.getD []).any (·.id == (id : Int)) then some changed else none) :
    ∃ after, (BuiltIn.performAt file (some (id : Int)) edit? record report).runFrom session =
        ((applyAt stored id changed (report id)).2, after) ∧
      after.HasReady file (applyAt stored id changed (report id)).1 ∧
      after.directory = session.directory := by
  obtain ⟨after, hrun, hafter, hdirectory⟩ :=
    BuiltIn.performAt_of_holds edit? record report hholds hquiet hedits
  rw [hedit] at hrun hafter
  by_cases hany : (stored.getD []).any (·.id == (id : Int)) = true
  · rw [if_pos hany] at hrun hafter
    rw [applyAt, if_pos hany]
    exact ⟨after, hrun, hafter, hdirectory⟩
  · rw [if_neg hany] at hrun hafter
    rw [applyAt, if_neg hany]
    exact ⟨after, hrun, hafter, hdirectory⟩

/-- A new task goes behind those that are held. They stay where it cannot be added, and also where
    it was added in vain because the longer list cannot be written. -/
theorem performAdd_apply {words : List Text.RawText}
    (hholds : file.Holds session.tree session.directory stored)
    (hquiet : session.logPlaces = []) (hfeed : .char '\n' ∉ Text.spaced words)
    (hreturn : (Text.spaced words).getLast? ≠ some (.char '\r')) :
    ∃ after, (BuiltIn.performAdd file words).runFrom session =
        (((add words).apply stored).2, after) ∧
      after.HasReady file ((add words).apply stored).1 ∧ after.directory = session.directory := by
  obtain ⟨loaded, hload, hloaded, hdirectory⟩ := Session.load_of_holds hholds hquiet
  have hlast : largest (stored.getD []) = TaskList.lastId (stored.getD []) :=
    (TaskList.lastId_eq _).symm
  rw [BuiltIn.runFrom_performAdd words hload, apply, hlast]
  by_cases hfull : Task.maxId ≤ TaskList.lastId (stored.getD [])
  · rw [TaskList.add?_eq, if_neg (by omega)]
    dsimp only
    rw [if_pos hfull]
    exact ⟨loaded, rfl, hloaded, hdirectory⟩
  · have hroom : TaskList.lastId (stored.getD []) < Task.maxId := by omega
    have hadd := TaskList.add?_eq (stored.getD []) (Text.spaced words)
    rw [if_pos hroom] at hadd
    have hwriting := TaskList.findSome?_writingFailure?_concat
      (fun task hmem => (hholds.storable task hmem).toFitsLine) hroom (Text.spaced words)
    rw [hadd]
    dsimp only
    rw [if_neg hfull]
    let record := TaskList.addedRecord
      ⟨TaskList.lastId (stored.getD []) + 1, Text.spaced words, false⟩
    have hissued := hloaded.issue record
    have hissuedDirectory := (loaded.continues_issue record).directory.trans hdirectory
    by_cases hencodable : Text.isEncodable (Text.spaced words) = true
    · obtain ⟨saved, hsave, hsaved, hsavedDirectory⟩ := hissued.save
        (TaskList.storable_of_add? hholds.storable hfeed hreturn hencodable hadd)
      rw [if_pos hencodable, Attempt.runFrom_bind_of_ok hsave]
      exact ⟨saved, rfl, hsaved, hsavedDirectory.trans hissuedDirectory⟩
    · rw [if_neg hencodable] at hwriting
      obtain ⟨kept, hsave, hkept, hkeptDirectory⟩ := hissued.save_failure hwriting
      rw [if_neg hencodable, Attempt.runFrom_bind_of_error hsave]
      exact ⟨kept, rfl, hkept, hkeptDirectory.trans hissuedDirectory⟩

/-- An order does to the file what it does to the stored tasks, and gives the reply. -/
theorem perform_apply (hholds : file.Holds session.tree session.directory stored)
    (hquiet : session.logPlaces = []) (hadmissible : order.Admissible) :
    ∃ after, (BuiltIn.perform file order.request order.action).runFrom session =
        ((order.apply stored).2, after) ∧
      after.HasReady file (order.apply stored).1 ∧ after.directory = session.directory := by
  cases order with
  | list => exact BuiltIn.performList_of_holds hholds hquiet
  | done id =>
    exact performAt_applyAt (fun id tasks => TaskList.markDone? tasks id) TaskList.doneRecord
      (fun id => s!"Marked {id} done.") hholds hquiet (TaskList.editsFirst_markDone? id)
      (TaskList.markDone?_eq (stored.getD []) id)
  | remove id =>
    exact performAt_applyAt TaskList.remove? TaskList.removedRecord (fun id => s!"Removed {id}.")
      hholds hquiet (TaskList.editsFirst_remove? id) (TaskList.remove?_eq id (stored.getD []))
  | add words =>
    obtain ⟨-, -, hfeed, hreturn⟩ := hadmissible
    exact performAdd_apply hholds hquiet hfeed hreturn

/-- What is logged before a command runs makes no difference to what it does. -/
theorem handle_apply (hholds : file.Holds session.tree session.directory stored)
    (hquiet : session.logPlaces = []) (hadmissible : order.Admissible) :
    ∃ after, (BuiltIn.handle file order.request).runFrom session =
        ((order.apply stored).2, after) ∧
      after.HasReady file (order.apply stored).1 ∧ after.directory = session.directory := by
  have hcommand : order.request.command = some order.action.command.name := by cases order <;> rfl
  -- No log file is open, so the record that a command runs leaves the files alone.
  let running := Registry.runningRecord (Text.lower order.action.command.name)
  have hissued := session.continues_issue running
  have hholdsIssued : file.Holds (session.issue running).tree (session.issue running).directory
      stored := by
    rw [Session.tree_issue hquiet, hissued.directory]
    exact hholds
  obtain ⟨after, hrun, hafter, hdirectory⟩ :=
    perform_apply hholdsIssued (hissued.logPlaces.trans hquiet) hadmissible
  refine ⟨after, ?_, hafter, hdirectory.trans hissued.directory⟩
  rw [BuiltIn.handle_command order.action hcommand, Attempt.runFrom_bind, Session.runFrom_log]
  exact hrun

end Order

namespace Program

variable {path : Path} {strict : Bool} {tree : FileTree} {directory : Location}
  {stored : Option TaskList} {order : Order}

/-- With warnings on the console and no log file, setting up logging changes nothing else. -/
theorem runFrom_setup (session : Session) :
    (Log.Setup.apply { console := consoleLevel "WARNING" }).runFrom session =
      (.ok (), { session with routing := .toConsole Log.warning }) := by
  have hlevel : consoleLevel "WARNING" = .number Log.warning := by decide +kernel
  rw [hlevel, Log.Setup.runFrom_apply_console]
  rfl

/-- How a run sets up logging. -/
def setup (configuration : Configuration) : Log.Setup :=
  { console := consoleLevel configuration.logLevel, file := configuration.logFile }

/-- Once logging is set up and a request was read, all that is left of a run is to answer it. -/
theorem runFrom_run_of_request {configuration : Configuration} {request : Request}
    {line : List Text.RawText} {before routed : Session}
    (hsetup : (setup configuration).apply.runFrom before = (.ok (), routed))
    (hparse : CommandLine.parse BuiltIn.registry line = .request request) :
    (run configuration line).runFrom before = (answer configuration request).runFrom routed := by
  rw [setup] at hsetup
  rw [run, Attempt.runFrom_bind_of_ok hsetup, hparse]

/-- A command that succeeds makes the run succeed, and its reply is what is printed. -/
theorem runFrom_perform_of_ok {file : TaskFile} {request : Request} {routed after : Session}
    {reply : Text.RawText}
    (hhandle : (BuiltIn.handle file request).runFrom routed = (.ok reply, after)) :
    (perform file request).runFrom routed =
      (.ok { code := success, output := reply ++ "\n" }, after) := by
  rw [perform, Attempt.runFrom_tryCatch, Attempt.runFrom_bind_of_ok hhandle]
  rfl

theorem runFrom_perform_of_unexpected {file : TaskFile} {request : Request}
    {routed after : Session} {failure : Failure} (hunexpected : failure.isExpected = false)
    (hhandle : (BuiltIn.handle file request).runFrom routed = (.error failure, after)) :
    (perform file request).runFrom routed = (.error failure, after) := by
  rw [perform, Attempt.runFrom_tryCatch, Attempt.runFrom_bind_of_error hhandle]
  dsimp only
  rw [if_neg (by simp [hunexpected]), Attempt.runFrom_throw]

theorem runFrom_perform {file : TaskFile} {request : Request} {session after : Session}
    {reply : Except Failure Text.RawText}
    (hhandle : (BuiltIn.handle file request).runFrom session = (reply, after)) :
    ∃ ended, (perform file request).runFrom session = (Order.ending reply, ended) ∧
      after.Continues ended after.tree := by
  cases reply with
  | ok reply => exact ⟨after, runFrom_perform_of_ok hhandle, .refl after⟩
  | error failure =>
    rw [Order.ending]
    cases hexpected : failure.isExpected with
    | false => exact ⟨after, runFrom_perform_of_unexpected hexpected hhandle, .refl after⟩
    | true =>
      have hreported := after.continues_issue (failedRecord (request.command.getD ""))
      rw [perform, Attempt.runFrom_tryCatch, Attempt.runFrom_bind_of_error hhandle]
      dsimp only
      rw [if_pos hexpected]
      exact ⟨_, rfl, hreported.directory, hreported.routing, hreported.tree⟩

/-- One run of the program does one order, and the file can be used for the next one. -/
theorem run_order (hholds : TaskFile.Holds { path, strict } tree directory stored)
    (hadmissible : order.Admissible) (clock : Nat) :
    ∃ after, (run { dataFile := some path, strictLoad := strict } order.commandLine).runFrom
        { tree, directory, clock } = (Order.ending (order.apply stored).2, after) ∧
      TaskFile.Holds { path, strict } after.tree directory (order.apply stored).1 := by
  let routed : Session :=
    { tree, directory, clock, routing := .toConsole Log.warning }
  obtain ⟨handled, hhandle, hready, hdirectory⟩ :=
    Order.handle_apply (show TaskFile.Holds _ routed.tree _ _ from hholds) rfl hadmissible
  obtain ⟨after, hperform, hafter⟩ := runFrom_perform hhandle
  refine ⟨after, ?_, ?_⟩
  · have hsetup : (setup { dataFile := some path, strictLoad := strict }).apply.runFrom
        { tree, directory, clock } = (.ok (), routed) := runFrom_setup _
    rw [runFrom_run_of_request hsetup (Order.parse_commandLine hadmissible)]
    cases order <;> exact hperform
  · have hagrees := hready.quiet ▸ hafter.tree
    have hdirectory : handled.directory = directory := hdirectory
    rw [← hdirectory]
    exact (hready.ready.of_agrees hagrees).holds

/-- Several runs of the program, each with a command line and at a time of its own. The files that
    one run leaves are those that the next one finds, and nothing else goes from run to run. -/
def runs (configuration : Configuration) (directory : Location) :
    FileTree → List (List Text.RawText × Nat) → List (Except Failure Ending × FileTree)
  | _, [] => []
  | tree, (words, clock) :: rest =>
    let (outcome, after) := (run configuration words).runFrom { tree, directory, clock }
    (outcome, after.tree) :: runs configuration directory after.tree rest

/-- However many orders the program is given one after the other, it does to the file what they do
    to the stored tasks, and ends as they say, after every one of them. An order that fails is no
    exception. -/
theorem runs_simulate_orders {orders : List (Order × Nat)}
    (hholds : TaskFile.Holds { path, strict } tree directory stored)
    (hadmissible : ∀ order ∈ orders, order.1.Admissible) :
    List.Forall₂
      (fun ran expected =>
        ran.1 = expected.2 ∧
          TaskFile.Holds { path, strict } ran.2 directory expected.1)
      (runs { dataFile := some path, strictLoad := strict } directory tree
        (orders.map fun order => (order.1.commandLine, order.2)))
      (Order.applyAll stored (orders.map (·.1))) := by
  -- Each run starts from the files of the one before, which hold what the order before left stored.
  induction orders generalizing tree stored with
  | nil => exact .nil
  | cons order rest ih =>
    obtain ⟨after, hrun, hafter⟩ :=
      run_order hholds (hadmissible order List.mem_cons_self) order.2
    have hrest := ih hafter fun other hother => hadmissible other (List.mem_cons_of_mem _ hother)
    rw [List.map_cons, List.map_cons, runs, hrun, Order.applyAll]
    exact .cons ⟨rfl, hafter⟩ hrest

/-- The second of the words to be added is a byte that is no character. -/
theorem runs_simulate_orders_from_nothing :
    let path : Path := ⟨.here, ["t"]⟩
    let byte : Text.RawText := [.surrogate 0x4FF]
    List.Forall₂
      (fun ran expected => ran.1 = expected.2 ∧ TaskFile.Holds { path } ran.2 [] expected.1)
      (runs { dataFile := some path } [] {}
        [(["add", "buy", "milk"], 0), (["add", "buy", byte], 30), (["done", "1"], 60),
          (["list"], 120)])
      [(some [⟨1, "buy milk", false⟩], .ok { code := 0, output := "Added task 1: buy milk\n" }),
        (some [⟨1, "buy milk", false⟩], .error (.unencodable ("2|0|buy " ++ byte))),
        (some [⟨1, "buy milk", true⟩], .ok { code := 0, output := "Marked 1 done.\n" }),
        (some [⟨1, "buy milk", true⟩], .ok { code := 0, output := "1 [x] buy milk\n" })] := by
  intro path byte
  have hholds : TaskFile.Holds { path } {} [] none :=
    ⟨⟨rfl, rfl, ⟨_, rfl⟩, (⟨[(["t.tmp"], .file [])]⟩, ["t.tmp"]), by decide +kernel⟩, rfl, by simp⟩
  have hadmissible : ∀ order ∈ [(Order.add ["buy", "milk"], 0), (.add ["buy", byte], 30),
      (.done 1, 60), (.list, 120)], order.1.Admissible := by decide
  have happly :
      Order.applyAll none [.add ["buy", "milk"], .add ["buy", byte], .done 1, .list] =
        [(some [⟨1, "buy milk", false⟩], .ok { code := 0, output := "Added task 1: buy milk\n" }),
          (some [⟨1, "buy milk", false⟩], .error (.unencodable ("2|0|buy " ++ byte))),
          (some [⟨1, "buy milk", true⟩], .ok { code := 0, output := "Marked 1 done.\n" }),
          (some [⟨1, "buy milk", true⟩], .ok { code := 0, output := "1 [x] buy milk\n" })] := by
    decide +kernel
  rw [← happly]
  exact runs_simulate_orders hholds hadmissible

/-- No task is added to a list that uses the largest number, and none whose text has lone
    surrogates. -/
theorem run_add_changes_nothing :
    let path : Path := ⟨.here, ["t"]⟩
    let byte : Text.RawText := [.surrogate 0x4FF]
    let full : TaskList := [⟨Task.maxId, "x", false⟩]
    let single : TaskList := [⟨1, "x", false⟩]
    let before (tasks : TaskList) : Session :=
      { tree := ⟨[(["t"], .file tasks.content)]⟩, directory := [], clock := 0 }
    let refused := (run { dataFile := some path } ["add", "y"]).runFrom (before full)
    let failed := (run { dataFile := some path } ["add", byte]).runFrom (before single)
    ((∀ task ∈ full, task.Storable) ∧ refused.1 = .ok { code := 1 } ∧
      refused.2.tree.get? ["t"] = some (.file full.content) ∧
      refused.2.tree.get? ["t"] ≠
        some (.file (TaskList.content (full ++ [⟨Task.maxId + 1, "y", false⟩])))) ∧
    (∀ task ∈ single, task.Storable) ∧ failed.1 = .error (.unencodable ("2|0|" ++ byte)) ∧
      failed.2.tree.get? ["t"] = some (.file single.content) := by
  dsimp only
  and_intros
  all_goals decide +kernel

end Program

end Checklist
