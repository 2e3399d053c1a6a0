import Checklist.Proofs.Log.Events

namespace Checklist

namespace Session

/-- A session that goes on from another one, and the records that were issued meanwhile. The console
    shows those of them that are to be seen there, and nothing else. -/
structure Tells (before : Session) (records : List Log.Record) (after : Session) : Prop where
  clock : after.clock = before.clock
  showsFrom : ∀ level, before.routing.ShowsFrom level → after.routing.ShowsFrom level
  issued : after.records = before.records ++ records
  errorText : ∀ level, before.routing.ShowsFrom level →
    after.errorText = before.errorText ++
      Log.transcript before.clock (records.filter (Log.IsShown level))

namespace Tells

variable {before middle after : Session} {records more : List Log.Record}

theorem refl (session : Session) : session.Tells [] session :=
  ⟨rfl, fun _ => id, by simp, by simp⟩

/-- Whatever happens to the files is not told. -/
theorem of_tree (session : Session) (tree : FileTree) : session.Tells [] { session with tree } :=
  ⟨rfl, fun _ => id, by simp, by simp⟩

theorem trans (hfirst : before.Tells records middle) (hsecond : middle.Tells more after) :
    before.Tells (records ++ more) after := by
  refine ⟨hsecond.clock.trans hfirst.clock, fun level hshows =>
    hsecond.showsFrom level (hfirst.showsFrom level hshows), ?_, ?_⟩
  · rw [hsecond.issued, hfirst.issued, List.append_assoc]
  · intro level hshows
    rw [hsecond.errorText level (hfirst.showsFrom level hshows), hfirst.errorText level hshows,
      hfirst.clock, List.filter_append, Log.transcript_append, String.append_assoc]

/-- A step that issues no record comes in anywhere. -/
theorem trans_silent (hfirst : before.Tells records middle) (hsecond : middle.Tells [] after) :
    before.Tells records after := by
  simpa using hfirst.trans hsecond

end Tells

theorem tells_issue (session : Session) (record : Log.Record) :
    session.Tells [record] (session.issue record) :=
  ⟨session.clock_issue record, fun _ hshows => (session.continues_issue record).routing ▸ hshows,
    session.records_issue record, fun _ hshows => errorText_issue hshows record⟩

theorem tells_issueAll (session : Session) (records : List Log.Record) :
    session.Tells records (records.foldl issue session) := by
  induction records generalizing session with
  | nil => exact .refl session
  | cons record rest ih => exact (session.tells_issue record).trans (ih _)

end Session

/-- Moving a log file or losing it does not concern the console. -/
theorem Log.Routing.ShowsFrom.follow {routing : Routing} {consoleLevel : Int}
    (hshows : routing.ShowsFrom consoleLevel) (origin goal : Location) :
    (routing.follow origin goal).ShowsFrom consoleLevel := by
  have hsink (sink : Sink) : sink.follow origin goal = .console ↔ sink = .console := by
    cases sink <;> simp [Sink.follow, Sink.forget]
  have hconsoles : routing.handlers.filter (·.sink = .console) = [⟨consoleLevel, .console⟩] :=
    hshows.consoles
  have hkeeps : (routing.follow origin goal).handlers.filter (·.sink = .console) =
      (routing.handlers.filter (·.sink = .console)).map fun handler =>
        { handler with sink := handler.sink.follow origin goal } := by
    rw [Routing.follow, mapSinks, List.filter_map]
    congr 1
    exact List.filter_congr fun handler _ => by simp [hsink]
  exact ⟨hshows.level, by rw [Routing.consoles, hkeeps, hconsoles]; rfl⟩

namespace Attempt

variable {α β : Type} {attempt : Attempt α} {next : α → Attempt β} {allowed : Log.Record → Prop}
  {session after : Session} {outcome : Except Failure α}

/-- A computation that issues no record and prints nothing, whether it succeeds or not. -/
def IsSilent (attempt : Attempt α) : Prop :=
  ∀ session : Session, session.Tells [] (attempt.runFrom session).2

/-- A computation that issues certain records only, and prints nothing else. -/
def TellsOnly (allowed : Log.Record → Prop) (attempt : Attempt α) : Prop :=
  ∀ session : Session, ∃ records, session.Tells records (attempt.runFrom session).2 ∧
    ∀ record ∈ records, allowed record

theorem IsSilent.tells (hsilent : attempt.IsSilent)
    (hrun : attempt.runFrom session = (outcome, after)) : session.Tells [] after := by
  have htells := hsilent session
  rwa [hrun] at htells

theorem IsSilent.tellsOnly (hsilent : attempt.IsSilent) : attempt.TellsOnly allowed :=
  fun session => ⟨[], hsilent session, by simp⟩

namespace TellsOnly

theorem exists_tells (htells : attempt.TellsOnly allowed)
    (hrun : attempt.runFrom session = (outcome, after)) :
    ∃ records, session.Tells records after ∧ ∀ record ∈ records, allowed record := by
  have hexists := htells session
  rwa [hrun] at hexists

theorem pure (a : α) : (Pure.pure a : Attempt α).TellsOnly allowed :=
  fun session => ⟨[], .refl session, by simp⟩

theorem throw (failure : Failure) :
    (MonadExcept.throw failure : Attempt α).TellsOnly allowed :=
  fun session => ⟨[], .refl session, by simp⟩

theorem bind (hfirst : attempt.TellsOnly allowed) (hnext : ∀ a, (next a).TellsOnly allowed) :
    (attempt >>= next).TellsOnly allowed := by
  intro session
  obtain ⟨records, htells, hrecords⟩ := hfirst session
  rw [runFrom_bind]
  rcases hrun : attempt.runFrom session with ⟨failure | a, middle⟩
  · rw [hrun] at htells
    exact ⟨records, htells, hrecords⟩
  · rw [hrun] at htells
    obtain ⟨more, hmore, hallowed⟩ := hnext a middle
    refine ⟨records ++ more, htells.trans hmore, ?_⟩
    intro record hmem
    rcases List.mem_append.mp hmem with hmem | hmem
    · exact hrecords record hmem
    · exact hallowed record hmem

theorem logAll {records : List Log.Record} (hrecords : ∀ record ∈ records, allowed record) :
    (Session.logAll records).TellsOnly allowed :=
  fun session => ⟨records, session.tells_issueAll records, hrecords⟩

theorem log {record : Log.Record} (hrecord : allowed record) :
    (Session.log record).TellsOnly allowed := by
  have hrecords : ∀ other ∈ [record], allowed other := by simpa using hrecord
  exact logAll hrecords

end TellsOnly

end Attempt

namespace Session

theorem isSilent_inspect {α : Type} (question : FileTree → Location → Except FileError α) :
    (inspect question).IsSilent := by
  intro session
  rw [runFrom_inspect]
  split <;> exact .refl session

theorem isSilent_change {α : Type}
    (step : FileTree → Location → Except FileError (FileTree × α)) : (change step).IsSilent := by
  intro session
  rw [runFrom_change]
  split
  · exact .of_tree session _
  · exact .refl session

theorem isSilent_makeDirectories (path : Path) : (makeDirectories path).IsSilent := by
  intro session
  rw [runFrom_makeDirectories]
  exact .of_tree session _

theorem isSilent_overwrite (place : Location) (start : Nat) (bytes : List UInt8) :
    (overwrite place start bytes).IsSilent :=
  fun session => .of_tree session _

theorem isSilent_rename (source target : Path) : (rename source target).IsSilent := by
  intro session
  rw [runFrom_rename]
  split
  · next tree origin goal _ =>
    exact ⟨rfl, fun _ hshows => hshows.follow origin goal, by simp, by simp⟩
  · exact .refl session

end Session

end Checklist
