import Checklist.Proofs.Command.WellFormed
import Checklist.Proofs.Program.Simulation

namespace Checklist

namespace BuiltIn

variable {file : TaskFile} {session : Session} {content? : Option (List UInt8)}
  {tasks : TaskList} {id : Int}

theorem runFrom_handle_add (words : List Text.RawText) (session : Session) :
    (handle file { command := some "add", words := some words }).runFrom session =
      (performAdd file words).runFrom
        (session.issue (Registry.runningRecord (Text.lower add.command.name))) := by
  rw [handle_command add rfl, Attempt.runFrom_bind, Session.runFrom_log]
  dsimp only
  rw [perform, need, pure_bind]

/-- Where the file can be written and a number is left, words are added behind the tasks that were
    in it. If they have lone surrogates that fails, and the file stays as it was. -/
theorem performAdd_of_canStore (words : List Text.RawText)
    (hstore : session.CanStore file content?) (hread : file.contentOutcome content? = .ok tasks)
    (hid : tasks.nextId? = some id) :
    (Text.isEncodable (Text.spaced words) = true →
      ∃ after, (performAdd file words).runFrom session =
          (.ok (s!"Added task {id}: " ++ Text.spaced words), after) ∧
        file.Shows after.tree after.directory
          (some (TaskList.content (tasks ++ [⟨id, Text.spaced words, false⟩])))) ∧
    (Text.isEncodable (Text.spaced words) = false →
      ∃ after, (performAdd file words).runFrom session =
          (.error (.unencodable (Task.line ⟨id, Text.spaced words, false⟩)), after) ∧
        after.CanStore file content?) := by
  obtain ⟨loaded, hload, hloaded⟩ := hstore.load
  have hadd : tasks.add? (Text.spaced words) = some
      (tasks ++ [⟨id, Text.spaced words, false⟩], ⟨id, Text.spaced words, false⟩) := by
    rw [TaskList.add?, hid, Option.map_some]
  obtain ⟨hroom, rfl⟩ := TaskList.nextId?_eq_some_iff.mp hid
  have hwriting := TaskList.findSome?_writingFailure?_concat
    (TaskFile.fitsLine_of_contentOutcome hread) hroom (Text.spaced words)
  have hissued := hloaded.of_continues (loaded.continues_issue
    (TaskList.addedRecord ⟨tasks.lastId + 1, Text.spaced words, false⟩))
  rw [hread] at hload
  rw [runFrom_performAdd words hload, hadd]
  constructor
  · intro hencodable
    rw [if_pos hencodable] at hwriting
    obtain ⟨saved, hsave, -⟩ := hissued.save (List.findSome?_eq_none_iff.mp hwriting)
    refine ⟨saved, ?_, ?_⟩
    · dsimp only
      rw [Attempt.runFrom_bind_of_ok hsave]
      rfl
    · exact TaskFile.shows_of_save (TaskFile.name_ne_of_save hsave) hissued.apart.draft hsave
  · intro hencodable
    rw [if_neg (by simp [hencodable])] at hwriting
    obtain ⟨kept, hsave, hkept⟩ := hissued.save_failure hwriting
    refine ⟨kept, ?_, hkept⟩
    dsimp only
    rw [Attempt.runFrom_bind_of_error hsave]

end BuiltIn

namespace Program

/-- The ways to put words behind the name of a command so that all of them are taken as they are:
    behind two dashes, or without a dash at their start. -/
inductive Gives (name : String) (words : List Text.RawText) : List Text.RawText → Prop where
  | dashes : Gives name words (name :: "--" :: words)
  | plain (hplain : ∀ word ∈ words, CommandLine.IsPlain word) : Gives name words (name :: words)

/-- Any words can be added as they are, whatever they look like. If they have lone surrogates they
    are not stored, and the failure to encode them is let out. -/
theorem run_add {words line : List Text.RawText} (hne : words ≠ [])
    (hgives : Gives "add" words line) :
    CommandLine.parse BuiltIn.registry line =
      .request { command := some "add", words := some words } ∧
    ∀ (configuration : Configuration) (path : Path) (before routed looked : Session)
      (content? : Option (List UInt8)) (tasks : TaskList) (id : Int),
      configuration.dataFile = some path →
      (setup configuration).apply.runFrom before = (.ok (), routed) →
      routed.CanStore { path, strict := configuration.strictLoad } content? →
      (TaskFile.load { path, strict := configuration.strictLoad }).runFrom routed =
        (.ok tasks, looked) →
      tasks.nextId? = some id →
      (Text.isEncodable (Text.spaced words) = true →
        ∃ after, (run configuration line).runFrom before =
            (.ok { code := 0, output := s!"Added task {id}: " ++ Text.spaced words ++ "\n" },
              after) ∧
          after.tree.read after.directory path = .ok (TaskList.content tasks ++
            Text.Utf8.encode (s!"{id}|0|" ++ Text.spaced words ++ "\n"))) ∧
      (Text.isEncodable (Text.spaced words) = false →
        ∃ after, (run configuration line).runFrom before =
            (.error (.unencodable (s!"{id}|0|" ++ Text.spaced words)), after) ∧
          after.CanStore { path, strict := configuration.strictLoad } content?) := by
  have hread : CommandLine.readParameter .words line.tail = .ok (some (.words words), []) := by
    cases hgives with
    | dashes => exact CommandLine.readParameter_dashes hne
    | plain hplain => exact CommandLine.readParameter_words hplain hne
  have hline : line = Text.ofString "add" :: line.tail := by cases hgives <;> rfl
  have hparse : CommandLine.parse BuiltIn.registry line =
      .request { command := some "add", words := some words } := by
    rw [hline]
    exact CommandLine.parse_eq_request (by decide) (BuiltIn.named?_command .add) hread
  refine ⟨hparse, ?_⟩
  intro configuration path before routed looked content? tasks id hdata hsetup hstore hload hid
  obtain ⟨loaded, hloaded, -⟩ := hstore.load
  have hcontent := (Prod.mk.inj (hloaded.symm.trans hload)).1
  have hissued := hstore.of_continues
    (routed.continues_issue (Registry.runningRecord (Text.lower BuiltIn.add.command.name)))
  have hadds := BuiltIn.performAdd_of_canStore words hissued hcontent hid
  have hadded : Task.line ⟨id, Text.spaced words, false⟩ = s!"{id}|0|" ++ Text.spaced words := by
    have hstart : Text.ofString s!"{id}|0|" = Text.ofChars (toString id).toList ++ "|0|" :=
      Text.ofString_append _ _
    rw [Task.line_eq, hstart]
    simp [Task.flag, Text.ofString]
  have hrun : (run configuration line).runFrom before =
      (perform { path, strict := configuration.strictLoad }
        { command := some "add", words := some words }).runFrom routed := by
    rw [runFrom_run_of_request hsetup hparse, answer, hdata]
    rfl
  rw [hrun]
  constructor
  · intro hencodable
    obtain ⟨after, hadd, hshows⟩ := hadds.1 hencodable
    refine ⟨after, runFrom_perform_of_ok ((BuiltIn.runFrom_handle_add words routed).trans hadd), ?_⟩
    rw [hshows.found, TaskList.content_append, TaskList.content_cons, TaskList.content_nil,
      List.append_nil, hadded]
  · intro hencodable
    obtain ⟨after, hadd, hkept⟩ := hadds.2 hencodable
    rw [hadded] at hadd
    exact ⟨after, runFrom_perform_of_unexpected rfl
      ((BuiltIn.runFrom_handle_add words routed).trans hadd), hkept⟩

/-- Two dashes among the words, an option and an empty word are entered like any others. -/
theorem run_add_of_dashes :
    let path : Path := ⟨.here, ["t"]⟩
    let before : Session :=
      { tree := ⟨[(["t"], .file (Text.Utf8.encode "x\n7|1|a"))]⟩, directory := [], clock := 0 }
    ∃ after, (run { dataFile := some path } ["add", "--", "--", "-h", "", "--"]).runFrom before =
        (.ok { code := 0, output := "Added task 8: -- -h  --\n" }, after) ∧
      after.tree.read after.directory path =
        .ok (Text.Utf8.encode "7|1|a\n" ++ Text.Utf8.encode "8|0|-- -h  --\n") := by
  intro path before
  let routed : Session := { before with routing := .toConsole Log.warning }
  have hsetup : (setup { dataFile := some path }).apply.runFrom before = (.ok (), routed) :=
    runFrom_setup before
  have hstore : routed.CanStore { path } (some (Text.Utf8.encode "x\n7|1|a")) :=
    ⟨⟨rfl, rfl, ⟨_, rfl⟩, (⟨[(["t"], .file (Text.Utf8.encode "x\n7|1|a")), (["t.tmp"], .file [])]⟩,
      ["t.tmp"]), by decide +kernel⟩, rfl, ⟨by decide, by decide⟩⟩
  have hload := Attempt.runFrom_eq_of_fst
    (show ((TaskFile.load { path }).runFrom routed).1 = .ok [⟨7, "a", true⟩] by decide +kernel)
  let words : List Text.RawText := ["--", "-h", "", "--"]
  have hne : words ≠ [] := by decide
  obtain ⟨hstored, -⟩ :=
    (run_add hne .dashes).2 _ path before routed _ _ _ 8 rfl hsetup hstore hload rfl
  exact hstored (by decide)

/-- What keeps a text from being the last in the file: the log, where it is written to the draft, is
    renamed with the tasks and goes on behind them, and lone surrogates are not stored at all. -/
theorem run_add_not_stored_last :
    let path : Path := ⟨.here, ["t"]⟩
    let before : Session := { tree := {}, directory := [], clock := 0 }
    let logged := (run { dataFile := some path, logFile := some ⟨.here, ["t.tmp"]⟩ }
      ["add", "--", "y"]).runFrom before
    let byte : Text.RawText := [.surrogate 0x4FF]
    let refused := (run { dataFile := some path } ["add", "--", byte]).runFrom before
    (logged.1 = .ok { code := 0, output := "Added task 1: y\n" } ∧
      logged.2.tree.read logged.2.directory path ≠ .ok (Text.Utf8.encode "1|0|y\n")) ∧
    refused.1 = .error (.unencodable ("1|0|" ++ byte)) ∧
      refused.2.tree.peek? refused.2.directory path = .ok none := by
  dsimp only
  and_intros
  all_goals decide +kernel

end Program

end Checklist
