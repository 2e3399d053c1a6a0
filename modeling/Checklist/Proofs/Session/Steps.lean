import Checklist.Log.Setup
import Checklist.Proofs.FileTree.Operations

namespace Checklist

namespace Attempt

variable {α β : Type} {first : Attempt α} {second : α → Attempt β} {session after : Session}

/-- A computation that succeeds in two parts, part by part. -/
theorem runFrom_bind_eq_ok_iff {b : β} :
    (first >>= second).runFrom session = (.ok b, after) ↔
      ∃ a middle, first.runFrom session = (.ok a, middle) ∧
        (second a).runFrom middle = (.ok b, after) := by
  rw [runFrom_bind]
  rcases first.runFrom session with ⟨_ | a, middle⟩
  · simp
  · constructor
    · intro hsecond
      exact ⟨a, middle, rfl, hsecond⟩
    · rintro ⟨_, _, hfirst, hsecond⟩
      cases hfirst
      exact hsecond

/-- A computation in two parts fails in the first one, or in the second one. -/
theorem runFrom_bind_eq_error_iff {failure : Failure} :
    (first >>= second).runFrom session = (.error failure, after) ↔
      first.runFrom session = (.error failure, after) ∨
        ∃ a middle, first.runFrom session = (.ok a, middle) ∧
          (second a).runFrom middle = (.error failure, after) := by
  rw [runFrom_bind]
  rcases first.runFrom session with ⟨_ | a, middle⟩
  · simp
  · constructor
    · intro hsecond
      exact .inr ⟨a, middle, rfl, hsecond⟩
    · rintro (hfirst | ⟨_, _, hfirst, hsecond⟩)
      · cases hfirst
      · cases hfirst
        exact hsecond

theorem runFrom_eq_of_fst {outcome : Except Failure α}
    (houtcome : (first.runFrom session).1 = outcome) :
    first.runFrom session = (outcome, (first.runFrom session).2) :=
  Prod.ext houtcome rfl

theorem runFrom_bind_of_ok {a : α} {middle : Session}
    (hfirst : first.runFrom session = (.ok a, middle)) :
    (first >>= second).runFrom session = (second a).runFrom middle := by
  rw [runFrom_bind, hfirst]

theorem runFrom_bind_of_error {failure : Failure} {middle : Session}
    (hfirst : first.runFrom session = (.error failure, middle)) :
    (first >>= second).runFrom session = (.error failure, middle) := by
  rw [runFrom_bind, hfirst]

/-- A handler that always fails in the end plays no part where the whole succeeds. -/
theorem runFrom_of_tryCatch {a : α} {handler : Failure → Attempt α}
    (hfails : ∀ failure middle, ∃ other, ((handler failure).runFrom middle).1 = .error other)
    (hrun : (tryCatch first handler).runFrom session = (.ok a, after)) :
    first.runFrom session = (.ok a, after) := by
  rw [runFrom_tryCatch] at hrun
  rcases hfirst : first.runFrom session with ⟨failure | b, middle⟩
  · rw [hfirst] at hrun
    obtain ⟨other, hother⟩ := hfails failure middle
    dsimp only at hrun
    rw [hrun] at hother
    cases hother
  · rw [hfirst] at hrun
    exact hrun

end Attempt

namespace Log

/-- The place of the file of a sink, if it has one that was neither deleted nor replaced. -/
def Sink.place? : Sink → Option Location
  | console => none
  | file place => place

theorem Sink.forget_of_ne {sink : Sink} {place : Location} (hplace : sink.place? ≠ some place) :
    sink.forget place = sink := by
  cases sink with
  | console => rfl
  | file other =>
    have hother : other ≠ some place := hplace
    simp [forget, hother]

theorem Sink.follow_of_ne {sink : Sink} {origin goal : Location}
    (horigin : sink.place? ≠ some origin) (hgoal : sink.place? ≠ some goal) :
    sink.follow origin goal = sink := by
  rw [follow, forget_of_ne hgoal]
  cases sink with
  | console => rfl
  | file other =>
    have hother : other ≠ some origin := horigin
    simp [hother]

theorem Routing.mapSinks_eq_self {routing : Routing} {change : Sink → Sink}
    (hkeeps : ∀ handler ∈ routing.handlers, change handler.sink = handler.sink) :
    routing.mapSinks change = routing := by
  have hhandlers : routing.handlers.map (fun handler =>
      { handler with sink := change handler.sink }) = routing.handlers.map id :=
    List.map_congr_left fun handler hmem => by rw [hkeeps handler hmem, id]
  rw [mapSinks, hhandlers, List.map_id]

/-- The places of the log files that are open and were neither deleted nor replaced. -/
def Routing.places (routing : Routing) : List Location :=
  routing.handlers.filterMap (·.sink.place?)

theorem Routing.place?_ne {routing : Routing} {handler : Handler} {place : Location}
    (hmem : handler ∈ routing.handlers) (hplace : place ∉ routing.places) :
    handler.sink.place? ≠ some place :=
  fun heq => hplace (List.mem_filterMap.mpr ⟨handler, hmem, heq⟩)

/-- Everything from a level on goes to the console, and nothing to a file. -/
def Routing.toConsole (consoleLevel : Int) : Routing where
  level := debug
  handlers := [⟨consoleLevel, .console⟩]
  capturesWarnings := true

/-- The routing is not concerned with a file that is moved, and with what it replaces, unless one of
    them is a log file. -/
theorem Routing.follow_of_not_mem {routing : Routing} {origin goal : Location}
    (horigin : origin ∉ routing.places) (hgoal : goal ∉ routing.places) :
    routing.follow origin goal = routing :=
  mapSinks_eq_self fun _ hmem =>
    Sink.follow_of_ne (routing.place?_ne hmem horigin) (routing.place?_ne hmem hgoal)

/-- A log file that stays open when another file is moved was open there before, and it was not
    replaced. -/
theorem Routing.mem_places_follow {routing : Routing} {origin goal place : Location}
    (horigin : origin ∉ routing.places) (hplace : place ∈ (routing.follow origin goal).places) :
    place ∈ routing.places ∧ place ≠ goal := by
  obtain ⟨moved, hmoved, hopen⟩ := List.mem_filterMap.mp hplace
  obtain ⟨handler, hmem, rfl⟩ := List.mem_map.mp hmoved
  dsimp only at hopen
  have hne := routing.place?_ne hmem horigin
  obtain ⟨level, sink⟩ := handler
  cases sink with
  | console => cases hopen
  | file other =>
    have hother : other ≠ some origin := hne
    by_cases hgoal : other = some goal
    · simp [Sink.follow, Sink.forget, Sink.place?, hgoal] at hopen
    · simp only [Sink.follow, Sink.forget, if_neg hgoal, if_neg hother, Sink.place?] at hopen
      refine ⟨List.mem_filterMap.mpr ⟨_, hmem, hopen⟩, ?_⟩
      rintro rfl
      exact hgoal hopen

theorem Routing.forget_of_not_mem {routing : Routing} {place : Location}
    (hplace : place ∉ routing.places) : routing.forget place = routing :=
  mapSinks_eq_self fun _ hmem => Sink.forget_of_ne (routing.place?_ne hmem hplace)

end Log

theorem FileTree.append_agreesExcept (tree : FileTree) (place : Location) (bytes : List UInt8) :
    (tree.append place bytes).AgreesExcept [place] tree := by
  unfold append
  split
  · next content hget =>
    constructor
    · intro other
      by_cases hroot : other = []
      · simp [hroot]
      · rw [get?_put tree _ hroot]
        split
        · next hother => simp [hother, hget]
        · rfl
    · intro other hother
      by_cases hroot : other = []
      · simp [hroot]
      · rw [get?_put tree _ hroot, if_neg (by simpa using hother)]
  · exact .refl [place] tree

namespace Session

/-- The places of the log files that are open. -/
def logPlaces (session : Session) : List Location :=
  session.routing.places

/-- A session that goes on from another one, over the files of a tree but for what was logged. -/
structure Continues (before after : Session) (tree : FileTree) : Prop where
  directory : after.directory = before.directory
  routing : after.routing = before.routing
  tree : after.tree.AgreesExcept before.logPlaces tree

namespace Continues

variable {before middle after : Session} {tree : FileTree}

theorem refl (session : Session) : session.Continues session session.tree :=
  ⟨rfl, rfl, .refl _ _⟩

theorem logPlaces (hcontinues : before.Continues after tree) :
    after.logPlaces = before.logPlaces := by
  rw [Session.logPlaces, hcontinues.routing, Session.logPlaces]

theorem trans (hfirst : before.Continues middle middle.tree)
    (hsecond : middle.Continues after tree) : before.Continues after tree :=
  ⟨hsecond.directory.trans hfirst.directory, hsecond.routing.trans hfirst.routing,
    hfirst.logPlaces ▸ hsecond.tree⟩

/-- The tree may be replaced by one that differs in the log file only. -/
theorem congr {other : FileTree} (hcontinues : before.Continues after tree)
    (hagrees : tree.AgreesExcept before.logPlaces other) : before.Continues after other :=
  ⟨hcontinues.directory, hcontinues.routing, hcontinues.tree.trans hagrees⟩

theorem self (hcontinues : before.Continues after tree) :
    before.Continues after after.tree :=
  ⟨hcontinues.directory, hcontinues.routing, .refl _ _⟩

end Continues

theorem continues_emit (session : Session) (record : Log.Record) {handler : Log.Handler}
    (hmem : handler ∈ session.routing.handlers) :
    session.Continues (emit record session handler) session.tree := by
  unfold emit
  split
  · dsimp only
    split
    · exact ⟨rfl, rfl, .refl _ _⟩
    · next place hsink =>
      have hplace : place ∈ session.logPlaces :=
        List.mem_filterMap.mpr ⟨handler, hmem, by rw [hsink]; rfl⟩
      exact ⟨rfl, rfl, (session.tree.append_agreesExcept place _).mono (by simpa using hplace)⟩
    · exact .refl session
  · exact .refl session

/-- Handlers that get a record one after the other write to log files at most. -/
theorem continues_emitAll (session : Session) (record : Log.Record) (handlers : List Log.Handler)
    (hsubset : handlers ⊆ session.routing.handlers) :
    session.Continues (handlers.foldl (emit record) session) session.tree := by
  induction handlers generalizing session with
  | nil => exact .refl session
  | cons handler rest ih =>
    have hfirst := session.continues_emit record (hsubset List.mem_cons_self)
    have hrest := ih (emit record session handler)
      (hfirst.routing ▸ List.subset_of_cons_subset hsubset)
    exact (hfirst.self.trans hrest).congr hfirst.tree

theorem continues_issue (session : Session) (record : Log.Record) :
    session.Continues (session.issue record) session.tree := by
  unfold issue
  dsimp only
  split
  · split
    · split <;> exact ⟨rfl, rfl, .refl _ _⟩
    · obtain ⟨hdirectory, hrouting, htree⟩ :=
        ({ session with records := session.records ++ [record] } : Session).continues_emitAll record
          session.routing.handlers (List.Subset.refl _)
      exact ⟨hdirectory, hrouting, htree⟩
  · exact ⟨rfl, rfl, .refl _ _⟩

theorem tree_emit {handler : Log.Handler} (hquiet : handler.sink.place? = none)
    (session : Session) (record : Log.Record) :
    (emit record session handler).tree = session.tree := by
  unfold emit
  split
  · dsimp only
    split
    · rfl
    · next place hsink =>
      rw [hsink] at hquiet
      cases hquiet
    · rfl
  · rfl

theorem tree_emitAll {handlers : List Log.Handler}
    (hquiet : ∀ handler ∈ handlers, handler.sink.place? = none) (session : Session)
    (record : Log.Record) : (handlers.foldl (emit record) session).tree = session.tree := by
  induction handlers generalizing session with
  | nil => rfl
  | cons handler rest ih =>
    rw [List.foldl_cons, ih fun other hother => hquiet other (List.mem_cons_of_mem _ hother),
      tree_emit (hquiet handler List.mem_cons_self)]

theorem tree_issue {session : Session} (hquiet : session.logPlaces = []) (record : Log.Record) :
    (session.issue record).tree = session.tree := by
  unfold issue
  dsimp only
  split
  · split
    · split <;> rfl
    · rw [tree_emitAll (List.filterMap_eq_nil_iff.mp hquiet)]
  · rfl

@[simp] theorem records_emit (session : Session) (record : Log.Record) (handler : Log.Handler) :
    (emit record session handler).records = session.records := by
  unfold emit
  split
  · dsimp only
    split <;> rfl
  · rfl

@[simp] theorem records_emitAll (session : Session) (record : Log.Record)
    (handlers : List Log.Handler) :
    (handlers.foldl (emit record) session).records = session.records := by
  induction handlers generalizing session with
  | nil => rfl
  | cons handler rest ih => rw [List.foldl_cons, ih, records_emit]

@[simp] theorem records_issue (session : Session) (record : Log.Record) :
    (session.issue record).records = session.records ++ [record] := by
  unfold issue
  dsimp only
  split
  · split
    · split <;> rfl
    · rw [records_emitAll]
  · rfl

@[simp] theorem runFrom_log (record : Log.Record) (session : Session) :
    (log record).runFrom session = (.ok (), session.issue record) := rfl

@[simp] theorem runFrom_logAll (records : List Log.Record) (session : Session) :
    (logAll records).runFrom session = (.ok (), records.foldl issue session) := rfl

theorem continues_issueAll (session : Session) (records : List Log.Record) :
    session.Continues (records.foldl issue session) session.tree := by
  induction records generalizing session with
  | nil => exact .refl session
  | cons record rest ih =>
    have hfirst := session.continues_issue record
    exact (hfirst.self.trans (ih _)).congr hfirst.tree

@[simp] theorem records_issueAll (session : Session) (records : List Log.Record) :
    (records.foldl issue session).records = session.records ++ records := by
  induction records generalizing session with
  | nil => simp
  | cons record rest ih => simp [ih]

theorem runFrom_inspect {α : Type} (question : FileTree → Location → Except FileError α)
    (session : Session) :
    (inspect question).runFrom session =
      match question session.tree session.directory with
      | .ok answer => (.ok answer, session)
      | .error error => (.error (.file error), session) := by
  rw [inspect, Attempt.runFrom_bind, Attempt.runFrom_get]
  dsimp only
  cases question session.tree session.directory <;> rfl

theorem runFrom_change {α : Type} (step : FileTree → Location → Except FileError (FileTree × α))
    (session : Session) :
    (change step).runFrom session =
      match step session.tree session.directory with
      | .ok (tree, answer) => (.ok answer, { session with tree })
      | .error error => (.error (.file error), session) := by
  rw [change, Attempt.runFrom_bind, Attempt.runFrom_get]
  dsimp only
  rcases step session.tree session.directory with _ | ⟨tree, answer⟩ <;> rfl

theorem runFrom_makeDirectories (path : Path) (session : Session) :
    (makeDirectories path).runFrom session =
      ((session.tree.makeDirectories session.directory path).2.mapError .file,
        { session with tree := (session.tree.makeDirectories session.directory path).1 }) := by
  rw [makeDirectories, Attempt.runFrom_bind, Attempt.runFrom_get]
  dsimp only
  rcases session.tree.makeDirectories session.directory path with ⟨tree, _ | _⟩ <;> rfl

@[simp] theorem runFrom_overwrite (place : Location) (start : Nat) (bytes : List UInt8)
    (session : Session) :
    (overwrite place start bytes).runFrom session =
      (.ok (), { session with tree := session.tree.overwrite place start bytes }) := rfl

theorem runFrom_rename (source target : Path) (session : Session) :
    (rename source target).runFrom session =
      match session.tree.rename session.directory source target with
      | .ok (tree, origin, goal) =>
        (.ok (), { session with tree, routing := session.routing.follow origin goal })
      | .error error => (.error (.file error), session) := by
  rw [rename, Attempt.runFrom_bind, runFrom_change]
  rcases session.tree.rename session.directory source target with _ | ⟨tree, origin, goal⟩ <;> rfl

theorem runFrom_unlink (path : Path) (session : Session) :
    (unlink path).runFrom session =
      match session.tree.unlink session.directory path with
      | .ok (tree, place) =>
        (.ok (), { session with tree, routing := session.routing.forget place })
      | .error error => (.error (.file error), session) := by
  rw [unlink, Attempt.runFrom_bind, runFrom_change]
  rcases session.tree.unlink session.directory path with _ | ⟨tree, place⟩ <;> rfl

@[simp] theorem runFrom_reroute (change : Log.Routing → Log.Routing) (session : Session) :
    (reroute change).runFrom session =
      (.ok (), { session with routing := change session.routing }) := rfl

end Session

namespace Log.Setup

/-- All handlers are gone before the level of the console is looked at, and its handler is there
    before the log file is opened. -/
theorem runFrom_apply (setup : Setup) (session : Session) :
    setup.apply.runFrom session =
      match setup.console.resolve with
      | .error failure =>
        (.error failure,
          { session with routing := { session.routing with level := debug, handlers := [] } })
      | .ok consoleLevel =>
        (do
          setup.addFile
          Session.reroute fun routing =>
            { routing with capturesWarnings := true } : Attempt Unit).runFrom
          { session with
            routing :=
              { session.routing with level := debug, handlers := [⟨consoleLevel, .console⟩] } } := by
  rw [apply, Attempt.runFrom_bind, Session.runFrom_reroute, Routing.clear_eq]
  cases setup.console.resolve <;> rfl

/-- Without a log file a setup fails only where the level of the console is refused. -/
theorem runFrom_apply_console (console : LevelChoice) (session : Session) :
    (apply { console }).runFrom session =
      match console.resolve with
      | .error failure =>
        (.error failure,
          { session with routing := { session.routing with level := debug, handlers := [] } })
      | .ok consoleLevel =>
        (.ok (), { session with routing := .toConsole consoleLevel }) := by
  rw [runFrom_apply]
  cases console.resolve <;> rfl

end Log.Setup

end Checklist
