import Checklist.Proofs.Command.OtherTasks
import Checklist.Proofs.Command.Plan
import Checklist.Proofs.TaskFile.LaterLines
import Checklist.Proofs.TaskFile.Ready
import Mathlib.Data.List.Induction

namespace Checklist

/-- Whether a text can be added to stored tasks without harm to the file. Each of its later lines
    must be blank or store a task, and those tasks bring numbers of their own. Where no number is
    left for a new task nothing is added, and a text with lone surrogates is not stored. -/
def TaskList.Accepts (tasks : TaskList) (text : Text.RawText) : Prop :=
  tasks.lastId < Task.maxId → Text.isEncodable text = true →
    ∃ more, Reading.Accounts (tasks.length + 2) (Task.laterLines text) more [] ∧
      (tasks.map (·.id) ++ (tasks.lastId + 1) :: more.map (·.id)).Nodup

/-- A text of a single line does no harm, since the number of its task is new. -/
theorem TaskList.accepts_of_lineFeed_not_mem {tasks : TaskList} {text : Text.RawText}
    (hnodup : (tasks.map (·.id)).Nodup) (hfree : .char '\n' ∉ text) : tasks.Accepts text := by
  intro _ _
  have hlater : Task.laterLines text = [] := by
    rw [Task.laterLines, Text.pieces_of_not_mem (Text.Utf8.lineFeed_not_mem_encode hfree),
      List.tail_cons]
  refine ⟨[], hlater ▸ .nil _, ?_⟩
  rw [List.map_nil, List.nodup_append]
  refine ⟨hnodup, by simp, ?_⟩
  rintro id hmem _ hnew rfl
  obtain ⟨task, htask, rfl⟩ := List.mem_map.mp hmem
  have hle := le_lastId htask
  rw [List.mem_singleton.mp hnew] at hle
  omega

/-- A strict load succeeds, and no two of the tasks that it gives have the same number. -/
def Session.WellFormed (session : Session) (path : Path) : Prop :=
  ∃ tasks loaded, (TaskFile.load { path, strict := true }).runFrom session = (.ok tasks, loaded) ∧
    (tasks.map (·.id)).Nodup

namespace BuiltIn

/-- A request to add these words as a task. -/
structure Adds (request : Request) (words : List Text.RawText) : Prop where
  command : (registry.find? (request.command.getD "")).map (·.action) = some add
  words : request.words = some words

/-- The session after several requests were handled, one after the other. A request that fails does
    not keep the next one from being handled. -/
def handleAll (file : TaskFile) (session : Session) (requests : List Request) : Session :=
  requests.foldl (fun session request => ((handle file request).runFrom session).2) session

/-- The tasks that a command stores in place of those it loaded, if it stores any. Those it would
    save are not stored if one of them cannot be written. -/
def stored? (request : Request) (tasks : TaskList) (action : BuiltIn) : Option TaskList :=
  (edited? request tasks action).filter fun edited =>
    (edited.findSome? Task.writingFailure?).isNone

/-- What a file holds after a command that found some content in it. -/
def contentBy (file : TaskFile) (request : Request) (content? : Option (List UInt8))
    (action : BuiltIn) : Option (List UInt8) :=
  match file.contentOutcome content? with
  | .ok tasks => ((stored? request tasks action).map TaskList.content).or content?
  | .error _ => content?

/-- What a file holds after a request. -/
def contentAfter (file : TaskFile) (content? : Option (List UInt8)) (request : Request) :
    Option (List UInt8) :=
  match registry.find? (request.command.getD "") with
  | some command => contentBy file request content? command.action
  | none => content?

variable {file : TaskFile} {request : Request} {session : Session} {content? : Option (List UInt8)}
  {tasks edited : TaskList} {action : BuiltIn}

/-- A command that saves tasks adds one at the end, or changes the first one of a number and leaves
    its number alone. -/
theorem edited?_eq_some (hedit : edited? request tasks action = some edited) :
    (action = add ∧ tasks.lastId < Task.maxId ∧ ∃ words, request.words = some words ∧
        edited = tasks ++ [⟨tasks.lastId + 1, Text.spaced words, false⟩]) ∨
      (action ≠ add ∧ ∃ id change?, TaskList.EditsFirst id change? ∧ change? tasks = some edited ∧
        (edited.map (·.id)).Sublist (tasks.map (·.id))) := by
  cases action with
  | add =>
    obtain ⟨words, hwords, hadd⟩ := Option.bind_eq_some_iff.mp hedit
    rw [TaskList.add?_eq] at hadd
    split at hadd
    · next hroom => exact .inl ⟨rfl, hroom, words, hwords, (Option.some.inj hadd).symm⟩
    · cases hadd
  | list => cases hedit
  | done =>
    obtain ⟨id, -, hmark⟩ := Option.bind_eq_some_iff.mp hedit
    exact .inr ⟨by decide, id, _, TaskList.editsFirst_markDone? id, hmark,
      (TaskList.map_id_of_markDone? hmark).symm ▸ List.Sublist.refl _⟩
  | remove =>
    obtain ⟨id, -, hremove⟩ := Option.bind_eq_some_iff.mp hedit
    exact .inr ⟨by decide, id, _, TaskList.editsFirst_remove? id, hremove,
      (TaskList.sublist_of_remove? hremove).map _⟩

/-- What can be saved once the tasks were loaded is what the file holds then. -/
theorem canStore_goesOn {next : Attempt Text.RawText} {edit : Option TaskList}
    (hstore : session.CanStore file content?) (hgoes : GoesOn file next edit) :
    (next.runFrom session).2.CanStore file (((edit.filter fun edited =>
      (edited.findSome? Task.writingFailure?).isNone).map TaskList.content).or content?) := by
  cases hgoes with
  | idle hidle =>
    obtain ⟨outcome, hstays⟩ := hidle session
    rw [hstays]
    exact hstore
  | @saves edited record report hsaves =>
    have hissued := hstore.of_continues (session.continues_issue record)
    rw [hsaves, Attempt.runFrom_bind, Session.runFrom_log, Option.filter_some]
    dsimp only
    cases hfails : edited.findSome? Task.writingFailure? with
    | none =>
      obtain ⟨saved, hsave, hsaved⟩ := hissued.save (List.findSome?_eq_none_iff.mp hfails)
      rw [Attempt.runFrom_bind_of_ok hsave]
      exact hsaved
    | some failure =>
      obtain ⟨kept, hsave, hkept⟩ := hissued.save_failure hfails
      rw [Attempt.runFrom_bind_of_error hsave]
      exact hkept

/-- Whatever a command comes to, the file holds what it saved, and what it held before if it saved
    nothing. -/
theorem canStore_perform (action : BuiltIn) (hstore : session.CanStore file content?) :
    ((perform file request action).runFrom session).2.CanStore file
      (contentBy file request content? action) := by
  rcases perform_cases file request action with ⟨missing, hthrow, hnothing⟩ | ⟨next, hload, hgoes⟩
  · have hcontent : contentBy file request content? action = content? := by
      simp only [contentBy, stored?, hnothing]
      split <;> rfl
    rw [hthrow, hcontent]
    exact hstore
  · obtain ⟨loaded, hloaded, hloadedStore⟩ := hstore.load
    rw [hload, Attempt.runFrom_bind, hloaded, contentBy]
    cases hread : file.contentOutcome content? with
    | error failure => exact hloadedStore
    | ok tasks => exact canStore_goesOn hloadedStore (hgoes tasks)

theorem canStore_handle (hstore : session.CanStore file content?) (request : Request) :
    ((handle file request).runFrom session).2.CanStore file
      (contentAfter file content? request) := by
  simp only [handle, Registry.handle, contentAfter]
  cases registry.find? (request.command.getD "") with
  | none => exact hstore
  | some command =>
    dsimp only
    rw [Attempt.runFrom_bind, Session.runFrom_log]
    exact canStore_perform command.action (hstore.of_continues (session.continues_issue _))

/-- However many requests are handled, the file holds what they come to one after the other. -/
theorem canStore_handleAll (hstore : session.CanStore file content?) (requests : List Request) :
    (handleAll file session requests).CanStore file
      (requests.foldl (contentAfter file) content?) := by
  -- What one request leaves is what the next one starts from.
  induction requests generalizing session content? with
  | nil => exact hstore
  | cons request rest ih =>
    rw [handleAll, List.foldl_cons, List.foldl_cons]
    exact ih (canStore_handle hstore request)

/-- A content, or none, of which a strict load gives tasks with numbers of their own. -/
def IsWellFormed (path : Path) (content? : Option (List UInt8)) : Prop :=
  ∃ tasks, TaskFile.contentOutcome { path, strict := true } content? = .ok tasks ∧
    (tasks.map (·.id)).Nodup

/-- How strictly a command reads the file makes no difference to what can be read strictly. -/
theorem contentOutcome_of_strict
    (hread : TaskFile.contentOutcome { path := file.path, strict := true } content? = .ok tasks) :
    file.contentOutcome content? = .ok tasks := by
  obtain ⟨path, strict⟩ := file
  cases strict with
  | true => exact hread
  | false => exact TaskFile.contentOutcome_lenient hread

/-- Storing a new task with any text leaves the file well formed exactly if the text is accepted. -/
theorem isWellFormed_concat_iff {text : Text.RawText} (path : Path)
    (hroom : tasks.lastId < Task.maxId) (hencodable : Text.isEncodable text = true)
    (hfits : ∀ task ∈ tasks, task.FitsLine) :
    IsWellFormed path (some (TaskList.content (tasks ++ [⟨tasks.lastId + 1, text, false⟩]))) ↔
      tasks.Accepts text := by
  have hnonneg := TaskList.lastId_nonneg fun task hmem => (hfits task hmem).nonneg
  have hread := Reading.ofBytes_content_concat_iff path hfits ⟨tasks.lastId + 1, text, false⟩
    (by dsimp only; omega) (by dsimp only; omega) hencodable
  have hids (more : List Task) : (List.map (·.id)
      ((tasks ++ [Task.cut ⟨tasks.lastId + 1, text, false⟩]).map Task.restored ++ more)) =
        tasks.map (·.id) ++ (tasks.lastId + 1) :: more.map (·.id) := by
    simp [Task.restored, Task.cut, Function.comp_def]
  constructor
  · rintro ⟨found, hfound, hnodup⟩ - -
    obtain ⟨more, haccounts, rfl⟩ := (hread found).mp hfound
    exact ⟨more, haccounts, hids more ▸ hnodup⟩
  · intro haccepts
    obtain ⟨more, haccounts, hnodup⟩ := haccepts hroom hencodable
    exact ⟨_, (hread _).mpr ⟨more, haccounts, rfl⟩, (hids more).symm ▸ hnodup⟩

/-- One request leaves a well-formed file well formed exactly if it adds nothing that the stored
    tasks do not accept. -/
theorem isWellFormed_contentAfter_iff
    (hread : TaskFile.contentOutcome { path := file.path, strict := true } content? = .ok tasks)
    (hnodup : (tasks.map (·.id)).Nodup) :
    IsWellFormed file.path (contentAfter file content? request) ↔
      ∀ words, Adds request words → tasks.Accepts (Text.spaced words) := by
  have hsame : IsWellFormed file.path content? := ⟨tasks, hread, hnodup⟩
  have hfits := TaskFile.fitsLine_of_contentOutcome hread
  rw [contentAfter]
  cases hfind : registry.find? (request.command.getD "") with
  | none =>
    refine iff_of_true hsame ?_
    rintro words ⟨hcommand, -⟩
    rw [hfind] at hcommand
    cases hcommand
  | some command =>
    have hadds {words : List Text.RawText} (hadds : Adds request words) : command.action = add := by
      simpa [hfind] using hadds.command
    dsimp only
    rw [contentBy, contentOutcome_of_strict hread]
    dsimp only
    rw [stored?]
    cases hedit : edited? request tasks command.action with
    | none =>
      refine iff_of_true hsame ?_
      -- If words are to be added and nothing is saved, no number is left.
      rintro words hwords hroom
      rw [hadds hwords, edited?, hwords.words, Option.bind_some, TaskList.add?_eq,
        if_pos hroom] at hedit
      cases hedit
    | some edited =>
      rw [Option.filter_some]
      rcases edited?_eq_some hedit with ⟨haction, hroom, words, hwords, rfl⟩ |
        ⟨haction, id, change?, hedits, hchange, hids⟩
      · have hother {other : List Text.RawText} (hother : Adds request other) : words = other :=
          Option.some.inj (hwords.symm.trans hother.words)
        rw [TaskList.findSome?_writingFailure?_concat hfits hroom]
        by_cases hencodable : Text.isEncodable (Text.spaced words) = true
        · rw [if_pos hencodable]
          refine (isWellFormed_concat_iff file.path hroom hencodable hfits).trans ⟨?_, ?_⟩
          · intro haccepts other hadds
            exact hother hadds ▸ haccepts
          · intro hall
            exact hall words ⟨by rw [hfind, Option.map_some, haction], hwords⟩
        · rw [if_neg hencodable]
          refine iff_of_true hsame ?_
          intro other hadds _ hencodableOther
          exact absurd (hother hadds ▸ hencodableOther) hencodable
      · refine iff_of_true ?_ fun words hwords => absurd (hadds hwords) haction
        have hwritable := TaskList.findSome?_writingFailure?_of_fitsLine
          (hedits.fitsLine hfits hchange)
        obtain ⟨hreadEdited, -⟩ := contentOutcome_of_edited hedits hread hchange
        rw [hwritable]
        refine ⟨_, hreadEdited, ?_⟩
        have hkept : (edited.map Task.restored).map (·.id) = edited.map (·.id) := by
          simp [Task.restored, Function.comp_def]
        rw [hkept]
        exact hnodup.sublist hids

theorem wellFormed_iff (hstore : session.CanStore file content?) :
    session.WellFormed file.path ↔ IsWellFormed file.path content? := by
  obtain ⟨loaded, hload, -⟩ := hstore.strictly.load
  constructor
  · rintro ⟨tasks, after, hrun, hnodup⟩
    rw [hload] at hrun
    exact ⟨tasks, (Prod.mk.inj hrun).1, hnodup⟩
  · rintro ⟨tasks, hread, hnodup⟩
    exact ⟨tasks, loaded, by rw [hload, hread], hnodup⟩

/-- One request keeps the file well formed exactly if it adds nothing that the stored tasks do not
    accept. -/
theorem wellFormed_handle_iff (hstore : session.CanStore file content?)
    (hwell : session.WellFormed file.path) :
    ((handle file request).runFrom session).2.WellFormed file.path ↔
      ∀ words (tasks : TaskList) loaded, Adds request words →
        (TaskFile.load { path := file.path, strict := true }).runFrom session =
          (.ok tasks, loaded) → tasks.Accepts (Text.spaced words) := by
  obtain ⟨tasks, hread, hnodup⟩ := (wellFormed_iff hstore).mp hwell
  obtain ⟨loaded, hload, -⟩ := hstore.strictly.load
  rw [wellFormed_iff (canStore_handle hstore request), isWellFormed_contentAfter_iff hread hnodup]
  constructor
  · rintro haccepts words others after hadds hother
    rw [hload, hread] at hother
    obtain rfl := Except.ok.inj (Prod.mk.inj hother).1
    exact haccepts words hadds
  · intro hall words hadds
    exact hall words tasks loaded hadds (by rw [hload, hread])

theorem handleAll_concat (file : TaskFile) (session : Session) (requests : List Request)
    (request : Request) :
    handleAll file session (requests ++ [request]) =
      ((handle file request).runFrom (handleAll file session requests)).2 := by
  rw [handleAll, handleAll, List.foldl_append, List.foldl_cons, List.foldl_nil]

/-- From no file on, handling requests keeps the file well formed throughout exactly if every text
    that is added is accepted by the tasks that are stored then. -/
theorem wellFormed_throughout_iff {requests : List Request}
    (hholds : file.Holds session.tree session.directory none) (hapart : session.LogsApart file) :
    (∀ sofar, sofar <+: requests → (handleAll file session sofar).WellFormed file.path) ↔
      ∀ sofar request words (tasks : TaskList) loaded, sofar ++ [request] <+: requests →
        Adds request words →
        (TaskFile.load { path := file.path, strict := true }).runFrom
          (handleAll file session sofar) = (.ok tasks, loaded) →
        tasks.Accepts (Text.spaced words) := by
  have hstart : session.CanStore file none := ⟨hholds.creatable, hholds.entry, hapart⟩
  have hstore (sofar : List Request) := canStore_handleAll hstart sofar
  constructor
  · intro hall sofar request words tasks loaded hprefix hadds hload
    have hbefore := hall sofar ((List.prefix_append sofar [request]).trans hprefix)
    have hafter := hall _ hprefix
    rw [handleAll_concat] at hafter
    exact (wellFormed_handle_iff (hstore sofar) hbefore).mp hafter words tasks loaded hadds hload
  · intro hall sofar
    induction sofar using List.reverseRecOn with
    | nil =>
      intro _
      exact (wellFormed_iff hstart).mpr ⟨[], rfl, List.nodup_nil⟩
    | append_singleton sofar request ih =>
      intro hprefix
      have hbefore := ih ((List.prefix_append sofar [request]).trans hprefix)
      rw [handleAll_concat]
      refine (wellFormed_handle_iff (hstore sofar) hbefore).mpr ?_
      intro words tasks loaded hadds hload
      exact hall sofar request words tasks loaded hprefix hadds hload

/-- Later lines of a text may be blank, or store tasks with other numbers. -/
theorem wellFormed_throughout_own_lines :
    let file : TaskFile := { path := ⟨.here, ["t"]⟩ }
    let session : Session := { tree := {}, directory := [], clock := 0 }
    let request : Request := { command := some "add", words := some ["a\n \n7|0|b"] }
    (handleAll file session [request]).WellFormed file.path := by
  intro file session request
  have hholds : file.Holds session.tree session.directory none :=
    ⟨⟨rfl, rfl, ⟨_, rfl⟩, (⟨[(["t.tmp"], .file [])]⟩, ["t.tmp"]), by decide +kernel⟩, rfl, by simp⟩
  have hapart : session.LogsApart file := ⟨by decide, by decide⟩
  refine (wellFormed_throughout_iff hholds hapart).mpr ?_ [request] List.prefix_rfl
  intro sofar other words tasks loaded hprefix hadds hload
  obtain ⟨rfl, rfl⟩ : sofar = [] ∧ other = request := by
    have hlength := hprefix.length_le
    cases sofar with
    | nil => simpa using hprefix
    | cons first rest => simp at hlength
  obtain rfl : [] = tasks := by
    have hstart : ((TaskFile.load { path := file.path, strict := true }).runFrom session).1 =
        .ok [] := by decide +kernel
    rw [show handleAll file session [] = session from rfl] at hload
    rw [hload] at hstart
    exact (Except.ok.inj hstart).symm
  obtain rfl := Option.some.inj hadds.words
  have hlater : Task.laterLines (Text.spaced ["a\n \n7|0|b"]) =
      [[0x20], Text.Utf8.encode "7|0|b"] := by decide +kernel
  have hstores : Line.Stores (Text.Utf8.encode "7|0|b") ⟨7, "b", false⟩ :=
    (Line.ofBytes_eq_task_iff (by decide)).mp (by decide +kernel)
  exact fun _ _ => ⟨[⟨7, "b", false⟩], hlater ▸ .blank rfl (.task hstores (.nil _)), by decide⟩

/-- What can break the file: a later line of a text that stores no task, one that stores a task with
    a number in use, and a log that is open at the place of the draft. -/
theorem adding_breaks_file :
    (let file : TaskFile := { path := ⟨.here, ["t"]⟩ }
      let session : Session := { tree := {}, directory := [], clock := 0 }
      let after := handleAll file session [{ command := some "add", words := some ["a\nb"] }]
      (TaskFile.load { path := file.path, strict := true }).runFrom after |>.1 =
        .error (.corruptLine file.path 2 "b")) ∧
    (let file : TaskFile := { path := ⟨.here, ["t"]⟩ }
      let session : Session := { tree := {}, directory := [], clock := 0 }
      let after := handleAll file session [{ command := some "add", words := some ["x\n1|0|y"] }]
      (TaskFile.load { path := file.path, strict := true }).runFrom after |>.1 =
        .ok [⟨1, "x", false⟩, ⟨1, "y", false⟩]) ∧
    (let file : TaskFile := { path := ⟨.here, ["t"]⟩ }
      let routing : Log.Routing :=
        { level := Log.debug
          handlers := [⟨Log.warning, .console⟩, ⟨Log.debug, .file (some ["t.tmp"])⟩] }
      let session : Session :=
        { tree := ⟨[(["t.tmp"], .file [])]⟩, directory := [], clock := 0,
          routing }
      let after := handleAll file session [{ command := some "add", words := some ["y"] }]
      ((TaskFile.load { path := file.path, strict := true }).runFrom after).1.isOk = false) := by
  refine ⟨?_, ?_, ?_⟩
  all_goals decide +kernel

end BuiltIn

end Checklist
