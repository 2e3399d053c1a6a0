import Checklist.Log.Setup
import Checklist.Proofs.Session.Steps
import Checklist.Proofs.TaskFile.Lines

namespace Checklist

namespace Log

/-- Something that is told: a record, or a warning that code raised about itself. -/
inductive Event where
  | logged (record : Record)
  | warned (place text : String)
  deriving Repr, DecidableEq

/-- The record that an event comes to. -/
def Event.toRecord : Event → Record
  | .logged record => record
  | .warned place text => .ofWarning place text

def Event.tell : Event → Attempt Unit
  | .logged record => Session.log record
  | .warned place text => warn place text

/-- Tells events one after the other. -/
def tellAll (events : List Event) : Attempt Unit :=
  events.forM Event.tell

/-- Whether a record is to be seen on the console. Records of others than the program have to be
    errors for that. -/
def IsShown (consoleLevel : Int) (record : Record) : Prop :=
  debug ≤ record.level ∧ consoleLevel ≤ record.level ∧
    (record.logger = "tiny_todo" ∨ "tiny_todo.".toList <+: record.logger.toList ∨
      error ≤ record.level)

instance (consoleLevel : Int) (record : Record) : Decidable (IsShown consoleLevel record) :=
  inferInstanceAs (Decidable (_ ∧ _ ∧ _))

/-- Whether a record is to go to a log file. -/
def IsFiled (fileLevel : Int) (record : Record) : Prop :=
  debug ≤ record.level ∧ fileLevel ≤ record.level

instance (fileLevel : Int) (record : Record) : Decidable (IsFiled fileLevel record) :=
  inferInstanceAs (Decidable (_ ∧ _))

/-- Records as text, one after the other. -/
def transcript (clock : Nat) (records : List Record) : String :=
  String.join (records.map (Record.render (stamp clock)))

@[simp] theorem transcript_nil (clock : Nat) : transcript clock [] = "" := rfl

theorem transcript_singleton (clock : Nat) (record : Record) :
    transcript clock [record] = record.render (stamp clock) := by
  simp [transcript]

theorem transcript_append (clock : Nat) (front back : List Record) :
    transcript clock (front ++ back) = transcript clock front ++ transcript clock back := by
  rw [transcript, List.map_append, String.join_append]
  rfl

/-- What is chosen of some records is chosen of the first one, and then of the others. -/
theorem transcript_filter_cons (clock : Nat) (chosen : Record → Bool) (record : Record)
    (rest : List Record) :
    transcript clock ((record :: rest).filter chosen) =
      transcript clock ([record].filter chosen) ++ transcript clock (rest.filter chosen) := by
  rw [← List.singleton_append, List.filter_append, transcript_append]

theorem Handler.takes_console_iff {routing : Routing} (hlevel : routing.level = debug)
    (consoleLevel : Int) (record : Record) :
    (routing.level ≤ record.level ∧ Handler.takes ⟨consoleLevel, .console⟩ record = true) ↔
      IsShown consoleLevel record := by
  have hprefix : (ownLoggers ++ ".").toList = "tiny_todo.".toList := by decide
  simp only [Handler.takes, allowedOnConsole, IsShown, hlevel, hprefix, Bool.and_eq_true,
    Bool.or_eq_true, decide_eq_true_eq, beq_iff_eq, List.isPrefixOf_iff_prefix, or_assoc]
  rfl

example : ¬ IsShown debug { level := warning, logger := "tiny_todo_other", message := "" } := by
  decide +kernel

theorem Handler.takes_file_iff {routing : Routing} (hlevel : routing.level = debug)
    (fileLevel : Int) (place : Option Location) (record : Record) :
    (routing.level ≤ record.level ∧ Handler.takes ⟨fileLevel, .file place⟩ record = true) ↔
      IsFiled fileLevel record := by
  simp [Handler.takes, IsFiled, hlevel]

/-- The handlers that show records on the console. -/
def Routing.consoles (routing : Routing) : List Handler :=
  routing.handlers.filter (·.sink = .console)

/-- A routing with a single handler for the console, which shows records from a level on. -/
structure Routing.ShowsFrom (routing : Routing) (consoleLevel : Int) : Prop where
  level : routing.level = debug
  consoles : routing.consoles = [⟨consoleLevel, .console⟩]

theorem Routing.showsFrom_toConsole (consoleLevel : Int) :
    (toConsole consoleLevel).ShowsFrom consoleLevel :=
  ⟨rfl, rfl⟩

theorem Routing.ShowsFrom.isEmpty_handlers {routing : Routing} {consoleLevel : Int}
    (hshows : routing.ShowsFrom consoleLevel) : routing.handlers.isEmpty = false := by
  cases hhandlers : routing.handlers with
  | nil =>
    have hconsoles := hshows.consoles
    simp [Routing.consoles, hhandlers] at hconsoles
  | cons handler rest => rfl

end Log

theorem Text.Utf8.encode_empty : encode "" = [] := by decide

namespace Session

variable {session : Session} {consoleLevel fileLevel : Int} {place : Location}
  {content : List UInt8}

@[simp] theorem clock_emit (session : Session) (record : Log.Record) (handler : Log.Handler) :
    (emit record session handler).clock = session.clock := by
  unfold emit
  split
  · dsimp only
    split <;> rfl
  · rfl

@[simp] theorem clock_emitAll (session : Session) (record : Log.Record)
    (handlers : List Log.Handler) :
    (handlers.foldl (emit record) session).clock = session.clock := by
  induction handlers generalizing session with
  | nil => rfl
  | cons handler rest ih => rw [List.foldl_cons, ih, clock_emit]

@[simp] theorem clock_issue (session : Session) (record : Log.Record) :
    (session.issue record).clock = session.clock := by
  unfold issue
  dsimp only
  split
  · split
    · split <;> rfl
    · rw [clock_emitAll]
  · rfl

/-- What a handler shows of a record. -/
def shownBy (session : Session) (record : Log.Record) (handler : Log.Handler) : String :=
  if handler.takes record then record.render (Log.stamp session.clock) else ""

theorem errorText_emit (session : Session) (record : Log.Record) (handler : Log.Handler) :
    (emit record session handler).errorText =
      session.errorText ++ String.join
        (([handler].filter (·.sink = .console)).map (session.shownBy record)) := by
  obtain ⟨level, sink⟩ := handler
  cases sink with
  | console =>
    have hone : [(⟨level, .console⟩ : Log.Handler)].filter (·.sink = .console) =
        [⟨level, .console⟩] := rfl
    rw [hone, List.map_singleton, shownBy, emit]
    split <;> simp [String.join]
  | file place =>
    unfold emit
    split
    · cases place <;> simp
    · simp

/-- Only the handlers for the console show anything of a record, each of them in turn. -/
theorem errorText_emitAll (session : Session) (record : Log.Record)
    (handlers : List Log.Handler) :
    (handlers.foldl (emit record) session).errorText =
      session.errorText ++ String.join
        ((handlers.filter (·.sink = .console)).map (session.shownBy record)) := by
  induction handlers generalizing session with
  | nil => simp
  | cons handler rest ih =>
    have hsame : (emit record session handler).shownBy record = session.shownBy record := by
      unfold shownBy
      rw [clock_emit]
    rw [List.foldl_cons, ih, hsame, errorText_emit, String.append_assoc, ← String.join_append,
      ← List.map_append, ← List.filter_append, List.singleton_append]

/-- What a record adds to the error stream. -/
theorem errorText_issue (hshows : session.routing.ShowsFrom consoleLevel) (record : Log.Record) :
    (session.issue record).errorText = session.errorText ++
      Log.transcript session.clock ([record].filter (Log.IsShown consoleLevel)) := by
  have htakes := Log.Handler.takes_console_iff hshows.level consoleLevel record
  unfold issue
  dsimp only
  rw [hshows.isEmpty_handlers]
  by_cases hlevel : session.routing.level ≤ record.level
  · rw [if_pos hlevel, if_neg (by decide), errorText_emitAll]
    have hconsoles : session.routing.handlers.filter (·.sink = .console) = _ := hshows.consoles
    rw [hconsoles]
    by_cases hshown : Log.IsShown consoleLevel record
    · simp [shownBy, (htakes.mpr hshown).2, hshown, Log.transcript_singleton, String.join]
    · have hrefused : Log.Handler.takes ⟨consoleLevel, .console⟩ record = false :=
        Bool.eq_false_iff.mpr fun htaken => hshown (htakes.mp ⟨hlevel, htaken⟩)
      simp [shownBy, hrefused, hshown, String.join]
  · have hhidden : ¬ Log.IsShown consoleLevel record := fun hshown => hlevel (htakes.mpr hshown).1
    rw [if_neg hlevel]
    simp [hhidden]

/-- What several records add to the error stream, in their order. -/
theorem errorText_issueAll (hshows : session.routing.ShowsFrom consoleLevel)
    (records : List Log.Record) :
    (records.foldl issue session).errorText = session.errorText ++
      Log.transcript session.clock (records.filter (Log.IsShown consoleLevel)) := by
  induction records generalizing session with
  | nil => simp
  | cons record rest ih =>
    have hrest := ih ((session.continues_issue record).routing ▸ hshows)
    rw [List.foldl_cons, hrest, Log.transcript_filter_cons _ _ record rest,
      errorText_issue hshows, clock_issue, String.append_assoc]

theorem tree_emit_file (session : Session) (record : Log.Record) (level : Int)
    (place : Location) :
    (emit record session ⟨level, .file (some place)⟩).tree =
      if Log.Handler.takes ⟨level, .file (some place)⟩ record then
        session.tree.append place (Text.Utf8.encode (record.render (Log.stamp session.clock)))
      else session.tree := by
  rw [emit]
  split <;> rfl

/-- What a record adds to the log file, where one is open besides the console. -/
theorem get?_issue (hlevel : session.routing.level = Log.debug)
    (hhandlers : session.routing.handlers =
      [⟨consoleLevel, .console⟩, ⟨fileLevel, .file (some place)⟩])
    (hroot : place ≠ []) (hfile : session.tree.get? place = some (.file content))
    (record : Log.Record) :
    (session.issue record).tree.get? place = some (.file (content ++
      Text.Utf8.encode (Log.transcript session.clock
        ([record].filter (Log.IsFiled fileLevel))))) := by
  have htakes := Log.Handler.takes_file_iff hlevel fileLevel (some place) record
  have hissue : (session.issue record).tree =
      if Log.IsFiled fileLevel record then
        session.tree.append place (Text.Utf8.encode (record.render (Log.stamp session.clock)))
      else session.tree := by
    unfold issue
    dsimp only
    by_cases hreached : session.routing.level ≤ record.level
    · rw [if_pos hreached, hhandlers, List.isEmpty_cons, if_neg (by decide), List.foldl_cons,
        List.foldl_cons, List.foldl_nil, tree_emit_file, clock_emit, tree_emit rfl]
      simp only [← htakes, hreached, true_and]
    · rw [if_neg hreached, if_neg fun hfiled => hreached (htakes.mpr hfiled).1]
  rw [hissue]
  by_cases hfiled : Log.IsFiled fileLevel record
  · have hfilter : [record].filter (Log.IsFiled fileLevel) = [record] := by simp [hfiled]
    rw [if_pos hfiled, hfilter, Log.transcript_singleton, FileTree.append, hfile]
    dsimp only
    rw [FileTree.get?_put _ _ hroot, if_pos rfl]
  · have hfilter : [record].filter (Log.IsFiled fileLevel) = [] := by simp [hfiled]
    rw [if_neg hfiled, hfilter, Log.transcript_nil, hfile, Text.Utf8.encode_empty, List.append_nil]

/-- What several records add to the log file, in their order. -/
theorem get?_issueAll (hlevel : session.routing.level = Log.debug)
    (hhandlers : session.routing.handlers =
      [⟨consoleLevel, .console⟩, ⟨fileLevel, .file (some place)⟩])
    (hroot : place ≠ []) (hfile : session.tree.get? place = some (.file content))
    (records : List Log.Record) :
    (records.foldl issue session).tree.get? place = some (.file (content ++
      Text.Utf8.encode (Log.transcript session.clock
        (records.filter (Log.IsFiled fileLevel))))) := by
  induction records generalizing session content with
  | nil => simpa [Text.Utf8.encode_empty] using hfile
  | cons record rest ih =>
    have hrouting := (session.continues_issue record).routing
    have hfirst := session.get?_issue hlevel hhandlers hroot hfile record
    have hrest := ih (hrouting ▸ hlevel) (hrouting ▸ hhandlers) hfirst
    rw [List.foldl_cons, hrest, Log.transcript_filter_cons _ _ record rest, clock_issue,
      Text.ofString_append, Text.Utf8.encode_append, List.append_assoc]

end Session

namespace Log

variable {session : Session}

/-- Where warnings are captured and there is some handler, to tell an event is to issue its
    record. -/
theorem runFrom_tell (hcaptures : session.routing.capturesWarnings = true)
    (hhandlers : session.routing.handlers.isEmpty = false) (event : Event) :
    event.tell.runFrom session = (.ok (), session.issue event.toRecord) := by
  cases event with
  | logged record => rfl
  | warned place text =>
    rw [Event.tell, warn, Attempt.runFrom_bind, Attempt.runFrom_get]
    dsimp only
    rw [hcaptures, hhandlers]
    rfl

theorem runFrom_tellAll (hcaptures : session.routing.capturesWarnings = true)
    (hhandlers : session.routing.handlers.isEmpty = false) (events : List Event) :
    (tellAll events).runFrom session =
      (.ok (), (events.map Event.toRecord).foldl Session.issue session) := by
  induction events generalizing session with
  | nil => rfl
  | cons event rest ih =>
    have hrouting := (session.continues_issue event.toRecord).routing
    change (event.tell >>= fun _ => tellAll rest).runFrom session = _
    rw [Attempt.runFrom_bind_of_ok (runFrom_tell hcaptures hhandlers event),
      ih (hrouting ▸ hcaptures) (hrouting ▸ hhandlers)]
    rfl

end Log

end Checklist
