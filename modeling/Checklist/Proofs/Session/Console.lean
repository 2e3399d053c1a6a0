import Checklist.Proofs.Session.Telling
import Mathlib.Data.List.Forall2

namespace Checklist

/-- Handlers that differ at most in what their console shows. -/
structure Log.Handler.Alike (first second : Handler) : Prop where
  sink : first.sink = second.sink
  level : first.sink ≠ .console → first.level = second.level

/-- Routings that differ at most in what their consoles show. -/
structure Log.Routing.Alike (first second : Routing) : Prop where
  level : first.level = second.level
  handlers : List.Forall₂ Handler.Alike first.handlers second.handlers

theorem Log.Routing.Alike.mapSinks {first second : Routing} (halike : first.Alike second)
    {change : Sink → Sink} (hconsole : change .console = .console) :
    (first.mapSinks change).Alike (second.mapSinks change) := by
  refine ⟨halike.level, List.forall₂_map_left_iff.mpr (List.forall₂_map_right_iff.mpr ?_)⟩
  refine halike.handlers.imp fun handler other hpair => ⟨congrArg change hpair.sink, ?_⟩
  intro hfile
  refine hpair.level fun hsink => hfile ?_
  dsimp only
  rw [hsink, hconsole]

/-- Consoles may show records from any level on. -/
theorem Log.Routing.alike_toConsole (level other : Int) :
    (toConsole level).Alike (toConsole other) :=
  ⟨rfl, .cons ⟨rfl, fun hne => absurd rfl hne⟩ .nil⟩

namespace Session

/-- Sessions that differ at most in what their consoles show. -/
structure Alike (first second : Session) : Prop where
  tree : first.tree = second.tree
  directory : first.directory = second.directory
  clock : first.clock = second.clock
  records : first.records = second.records
  routing : first.routing.Alike second.routing

namespace Alike

variable {first second : Session}

/-- Sessions without a log file are alike whatever level their consoles have. -/
theorem of_consoleLevel (session : Session) (level other : Int) :
    ({ session with routing := .toConsole level } : Session).Alike
      { session with routing := .toConsole other } :=
  ⟨rfl, rfl, rfl, rfl, Log.Routing.alike_toConsole level other⟩

/-- Handlers that are alike write the same to the files. -/
theorem emit (halike : first.Alike second) (record : Log.Record) {handler other : Log.Handler}
    (hhandlers : handler.Alike other) :
    (Session.emit record first handler).Alike (Session.emit record second other) := by
  obtain ⟨level, sink⟩ := handler
  obtain ⟨otherLevel, otherSink⟩ := other
  obtain rfl : sink = otherSink := hhandlers.sink
  cases sink with
  | console =>
    -- Whatever is shown, nothing but the error streams can come to differ.
    have hshown (session : Session) (level : Int) : ∃ errorText,
        Session.emit record session ⟨level, .console⟩ = { session with errorText } := by
      unfold Session.emit
      split
      · exact ⟨_, rfl⟩
      · exact ⟨session.errorText, rfl⟩
    obtain ⟨firstText, hfirst⟩ := hshown first level
    obtain ⟨secondText, hsecond⟩ := hshown second otherLevel
    rw [hfirst, hsecond]
    exact ⟨halike.tree, halike.directory, halike.clock, halike.records, halike.routing⟩
  | file place =>
    obtain rfl : level = otherLevel := hhandlers.level (by simp)
    unfold Session.emit
    split
    · cases place with
      | none => exact halike
      | some place =>
        refine ⟨?_, halike.directory, halike.clock, halike.records, halike.routing⟩
        dsimp only
        rw [halike.tree, halike.clock]
    · exact halike

theorem emitAll (halike : first.Alike second) (record : Log.Record)
    {handlers others : List Log.Handler}
    (hhandlers : List.Forall₂ Log.Handler.Alike handlers others) :
    (handlers.foldl (Session.emit record) first).Alike
      (others.foldl (Session.emit record) second) := by
  induction hhandlers generalizing first second with
  | nil => exact halike
  | cons hpair _ ih => exact ih (halike.emit record hpair)

/-- A record goes to the same files, whatever the consoles show of it. -/
theorem issue (halike : first.Alike second) (record : Log.Record) :
    (first.issue record).Alike (second.issue record) := by
  have hempty : first.routing.handlers.isEmpty = second.routing.handlers.isEmpty := by
    rw [Bool.eq_iff_iff, List.isEmpty_iff_length_eq_zero, List.isEmpty_iff_length_eq_zero,
      halike.routing.handlers.length_eq]
  have hnoted : ({ first with records := first.records ++ [record] } : Session).Alike
      { second with records := second.records ++ [record] } :=
    ⟨halike.tree, halike.directory, halike.clock, by rw [halike.records], halike.routing⟩
  unfold Session.issue
  dsimp only
  rw [← halike.routing.level, ← hempty]
  split
  · split
    · split
      · exact ⟨halike.tree, halike.directory, halike.clock, by rw [halike.records], halike.routing⟩
      · exact hnoted
    · exact hnoted.emitAll record halike.routing.handlers
  · exact hnoted

theorem issueAll (halike : first.Alike second) (records : List Log.Record) :
    (records.foldl Session.issue first).Alike (records.foldl Session.issue second) := by
  induction records generalizing first second with
  | nil => exact halike
  | cons record rest ih => exact ih (halike.issue record)

/-- Files that change alike leave the sessions alike. -/
theorem withTree (halike : first.Alike second) (tree : FileTree) :
    ({ first with tree } : Session).Alike { second with tree } :=
  ⟨rfl, halike.directory, halike.clock, halike.records, halike.routing⟩

/-- Log files that are moved or lost alike leave the sessions alike. -/
theorem mapSinks (halike : first.Alike second) {change : Log.Sink → Log.Sink}
    (hconsole : change .console = .console) :
    ({ first with routing := first.routing.mapSinks change } : Session).Alike
      { second with routing := second.routing.mapSinks change } :=
  ⟨halike.tree, halike.directory, halike.clock, halike.records, halike.routing.mapSinks hconsole⟩

end Alike

end Session

namespace Attempt

variable {α β : Type} {attempt : Attempt α} {next : α → Attempt β}

/-- A computation to which it makes no difference what the console shows. -/
def IgnoresConsole (attempt : Attempt α) : Prop :=
  ∀ first second : Session, first.Alike second →
    (attempt.runFrom first).1 = (attempt.runFrom second).1 ∧
      (attempt.runFrom first).2.Alike (attempt.runFrom second).2

namespace IgnoresConsole

theorem pure (a : α) : (Pure.pure a : Attempt α).IgnoresConsole :=
  fun _ _ halike => ⟨rfl, halike⟩

theorem throw (failure : Failure) : (MonadExcept.throw failure : Attempt α).IgnoresConsole :=
  fun _ _ halike => ⟨rfl, halike⟩

theorem modify {change : Session → Session}
    (hchange : ∀ first second : Session, first.Alike second →
      (change first).Alike (change second)) :
    (modify change : Attempt PUnit).IgnoresConsole :=
  fun first second halike => ⟨rfl, hchange first second halike⟩

theorem bind (hfirst : attempt.IgnoresConsole) (hnext : ∀ a, (next a).IgnoresConsole) :
    (attempt >>= next).IgnoresConsole := by
  intro first second halike
  obtain ⟨houtcome, hmiddle⟩ := hfirst first second halike
  rw [runFrom_bind, runFrom_bind]
  rcases hrun : attempt.runFrom first with ⟨outcome, middle⟩
  rcases hrunOther : attempt.runFrom second with ⟨other, middleOther⟩
  rw [hrun, hrunOther] at houtcome hmiddle
  obtain rfl : outcome = other := houtcome
  cases outcome with
  | error failure => exact ⟨rfl, hmiddle⟩
  | ok a => exact hnext a _ _ hmiddle

theorem tryCatch {handler : Failure → Attempt α} (hattempt : attempt.IgnoresConsole)
    (hhandler : ∀ failure, (handler failure).IgnoresConsole) :
    (MonadExcept.tryCatch attempt handler).IgnoresConsole := by
  intro first second halike
  obtain ⟨houtcome, hmiddle⟩ := hattempt first second halike
  rw [runFrom_tryCatch, runFrom_tryCatch]
  rcases hrun : attempt.runFrom first with ⟨outcome, middle⟩
  rcases hrunOther : attempt.runFrom second with ⟨other, middleOther⟩
  rw [hrun, hrunOther] at houtcome hmiddle
  obtain rfl : outcome = other := houtcome
  cases outcome with
  | error failure => exact hhandler failure _ _ hmiddle
  | ok a => exact ⟨rfl, hmiddle⟩

end IgnoresConsole

end Attempt

namespace Session

theorem ignoresConsole_log (record : Log.Record) : (log record).IgnoresConsole :=
  .modify fun _ _ halike => halike.issue record

theorem ignoresConsole_logAll (records : List Log.Record) : (logAll records).IgnoresConsole :=
  .modify fun _ _ halike => halike.issueAll records

theorem ignoresConsole_printError (text : String) : (printError text).IgnoresConsole :=
  .modify fun _ _ halike =>
    ⟨halike.tree, halike.directory, halike.clock, halike.records, halike.routing⟩

theorem ignoresConsole_inspect {α : Type}
    (question : FileTree → Location → Except FileError α) :
    (inspect question).IgnoresConsole := by
  intro first second halike
  rw [runFrom_inspect, runFrom_inspect, halike.tree, halike.directory]
  split <;> exact ⟨rfl, halike⟩

theorem ignoresConsole_change {α : Type}
    (step : FileTree → Location → Except FileError (FileTree × α)) :
    (change step).IgnoresConsole := by
  intro first second halike
  have hstep : step first.tree first.directory = step second.tree second.directory := by
    rw [halike.tree, halike.directory]
  rw [runFrom_change, runFrom_change, hstep]
  split
  · exact ⟨rfl, halike.withTree _⟩
  · exact ⟨rfl, halike⟩

theorem ignoresConsole_makeDirectories (path : Path) : (makeDirectories path).IgnoresConsole := by
  intro first second halike
  have hmade : first.tree.makeDirectories first.directory path =
      second.tree.makeDirectories second.directory path := by rw [halike.tree, halike.directory]
  rw [runFrom_makeDirectories, runFrom_makeDirectories, hmade]
  exact ⟨rfl, halike.withTree _⟩

theorem ignoresConsole_overwrite (place : Location) (start : Nat) (bytes : List UInt8) :
    (overwrite place start bytes).IgnoresConsole :=
  .modify fun _ _ halike => halike.tree ▸ halike.withTree _

theorem ignoresConsole_rename (source target : Path) : (rename source target).IgnoresConsole := by
  exact .bind (ignoresConsole_change _) fun (origin, goal) =>
    .modify fun _ _ halike => halike.mapSinks rfl

theorem ignoresConsole_unlink (path : Path) : (unlink path).IgnoresConsole := by
  exact .bind (ignoresConsole_change _) fun place =>
    .modify fun _ _ halike => halike.mapSinks rfl

end Session

end Checklist
