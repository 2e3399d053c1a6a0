import Checklist.Proofs.Command.Console
import Checklist.Proofs.Program.Simulation
import Checklist.Proofs.Settings
import Checklist.Proofs.Text.Case

namespace Checklist

namespace Program

variable {configuration : Configuration} {words : List Text.RawText}

theorem ignoresConsole_helpText (command : Option (Command BuiltIn)) :
    (helpText command).IgnoresConsole := by
  rw [helpText]
  split
  · exact .pure _
  · exact .throw _

theorem ignoresConsole_perform (file : TaskFile) (request : Request) :
    (perform file request).IgnoresConsole := by
  refine .tryCatch (.bind (BuiltIn.ignoresConsole_handle file request) fun _ => .pure _)
    fun failure => ?_
  split
  · exact .bind (Session.ignoresConsole_log _) fun _ =>
      .bind (Session.ignoresConsole_printError _) fun _ => .pure _
  · exact .throw failure

theorem ignoresConsole_answer (configuration : Configuration) (request : Request) :
    (answer configuration request).IgnoresConsole := by
  have husage := (ignoresConsole_helpText none).bind fun text =>
    (Session.ignoresConsole_printError text).bind fun _ =>
      .pure ({ code := usageError } : Ending)
  rw [answer]
  split
  · exact husage
  · exact husage
  · split
    · exact .throw _
    · exact ignoresConsole_perform _ _

/-- After logging is set up, it makes no difference to a run how it was, but for what the console
    shows. -/
theorem run_of_setup {configuration other : Configuration} {words : List Text.RawText}
    {before routed routedOther : Session}
    (hsetup : (setup configuration).apply.runFrom before = (.ok (), routed))
    (hsetupOther : (setup other).apply.runFrom before = (.ok (), routedOther))
    (halike : routed.Alike routedOther) (hdata : configuration.dataFile = other.dataFile)
    (hstrict : configuration.strictLoad = other.strictLoad) :
    ((run configuration words).runFrom before).1 = ((run other words).runFrom before).1 ∧
      ((run configuration words).runFrom before).2.Alike ((run other words).runFrom before).2 := by
  rw [setup] at hsetup hsetupOther
  rw [run, run, Attempt.runFrom_bind_of_ok hsetup, Attempt.runFrom_bind_of_ok hsetupOther]
  cases CommandLine.parse BuiltIn.registry words with
  | help command =>
    exact ((ignoresConsole_helpText command).bind fun text => .pure _) _ _ halike
  | misuse command message =>
    exact ((Session.ignoresConsole_printError _).bind fun _ => .pure _) _ _ halike
  | request request =>
    have hanswer : answer configuration request = answer other request := by
      simp only [answer, hdata, hstrict]
    dsimp only
    rw [hanswer]
    exact ignoresConsole_answer other request _ _ halike

variable {environment : Environment} {defaultDirectory : Path} {settings : Settings}
  {text : String}

/-- The console gets its level by the name in the setting, in upper case and without the blanks
    around it. A blank setting stands for warnings, as a name without meaning does. -/
theorem consoleLevel_levelName (text : String) :
    consoleLevel (Settings.levelName (some text)) =
      Log.LevelChoice.ofName (Text.upper (Text.strip text)) := by
  rw [consoleLevel, Settings.levelName, Settings.present?, Option.filter_some]
  cases hblank : Text.isAllBlank text with
  | true =>
    have hwarning : Log.LevelChoice.ofName (Text.upper "WARNING") =
        Log.LevelChoice.ofName (Text.upper (Text.strip "")) := by decide +kernel
    rw [(Text.Restyled.of_isAllBlank hblank).upper_strip]
    exact hwarning
  | false => exact congrArg Log.LevelChoice.ofName (Text.upper_upper _)

/-- Only two names choose something else than a level for the console. -/
theorem ofName_eq_number {name : String} (hformat : name ≠ "BASIC_FORMAT")
    (hstyles : name ≠ "_STYLES") :
    Log.LevelChoice.ofName name = .number ((Log.namedLevels.lookup name).getD Log.warning) := by
  rw [Log.LevelChoice.ofName]
  cases Log.namedLevels.lookup name with
  | some level => rfl
  | none =>
    simp only [Log.reservedNames, List.lookup_cons, beq_false_of_ne hformat, beq_false_of_ne hstyles]
    rfl

theorem resolve_ofName_reserved {name : String}
    (hreserved : name = "BASIC_FORMAT" ∨ name = "_STYLES") :
    ∃ failure, (Log.LevelChoice.ofName name).resolve = .error failure := by
  rcases hreserved with rfl | rfl
  · exact ⟨_, rfl⟩
  · exact ⟨_, rfl⟩

/-- Without a log file, setting up logging with a level of a certain number changes nothing else. -/
theorem runFrom_setup_number {configuration : Configuration} {level : Int}
    (hfile : configuration.logFile = none)
    (hlevel : consoleLevel configuration.logLevel = .number level) (before : Session) :
    (setup configuration).apply.runFrom before =
      (.ok (), { before with routing := .toConsole level }) := by
  rw [setup, hfile, hlevel, Log.Setup.runFrom_apply_console]
  rfl

/-- The level in the variables is no reason for a run to end in another way or to leave other files
    than with warnings, except for two names that mean something else than a level. Those make
    every run fail before it does anything. -/
theorem run_of_any_level (hlevel : environment.logLevel = some text)
    (hsettings : Settings.ofEnvironment environment defaultDirectory = .ok settings)
    (hfile : settings.logFile = none) :
    let wanted := Text.upper (Text.strip text)
    let level := (Log.namedLevels.lookup wanted).getD Log.warning
    let plain : Configuration := { settings.configuration with logLevel := "WARNING" }
    (wanted ≠ "BASIC_FORMAT" → wanted ≠ "_STYLES" → ∀ before : Session,
      (setup settings.configuration).apply.runFrom before =
        (.ok (), { before with routing := .toConsole level }) ∧
      ∀ words,
        ((run settings.configuration words).runFrom before).1 =
          ((run plain words).runFrom before).1 ∧
        ((run settings.configuration words).runFrom before).2.tree =
          ((run plain words).runFrom before).2.tree) ∧
    (wanted = "BASIC_FORMAT" ∨ wanted = "_STYLES" → ∃ failure, ∀ (before : Session) words,
      (run settings.configuration words).runFrom before =
        (.error failure,
          { before with
            routing := { before.routing with level := Log.debug, handlers := [] } })) := by
  intro wanted level plain
  have hwanted : consoleLevel settings.configuration.logLevel = Log.LevelChoice.ofName wanted := by
    rw [← consoleLevel_levelName, ← hlevel]
    exact congrArg consoleLevel (Settings.logLevel_of_ofEnvironment hsettings)
  have hplain : consoleLevel plain.logLevel = .number Log.warning :=
    show consoleLevel "WARNING" = _ by decide +kernel
  refine ⟨fun hformat hstyles before => ?_, fun hreserved => ?_⟩
  · have hnumber := hwanted.trans (ofName_eq_number hformat hstyles)
    have hsetup := runFrom_setup_number hfile hnumber before
    have hsetupPlain := runFrom_setup_number (show plain.logFile = none from hfile) hplain before
    refine ⟨hsetup, fun words => ?_⟩
    obtain ⟨houtcome, halike⟩ :=
      run_of_setup hsetup hsetupPlain (.of_consoleLevel before level Log.warning) rfl rfl
    exact ⟨houtcome, halike.tree⟩
  · obtain ⟨failure, hfailure⟩ := resolve_ofName_reserved hreserved
    have hsetup (before : Session) :
        (setup settings.configuration).apply.runFrom before =
          (.error failure,
            { before with
              routing := { before.routing with level := Log.debug, handlers := [] } }) := by
      rw [setup, hwanted, Log.Setup.runFrom_apply]
      dsimp only
      rw [hfailure]
    refine ⟨failure, fun before words => ?_⟩
    exact Attempt.runFrom_bind_of_error (hsetup before)

/-- A level name in small letters between blanks, for a listing that shows what is for debugging. -/
theorem run_of_any_level_debug :
    let environment : Environment := { dataFile := some "t", logLevel := some "\u3000debug\n" }
    let settings : Settings := {
      dataDirectory := ⟨.here, ["data"]⟩, dataFile := ⟨.here, ["t"]⟩, strictLoad := false
      logLevel := "DEBUG", logFile := none }
    let before : Session := { tree := {}, directory := [], clock := 0 }
    Settings.ofEnvironment environment ⟨.here, ["data"]⟩ = .ok settings ∧
      (setup settings.configuration).apply.runFrom before =
        (.ok (), { before with routing := .toConsole Log.debug }) ∧
      ((run settings.configuration ["list"]).runFrom before).1 =
        .ok { code := 0, output := "No tasks yet.\n" } := by
  intro environment settings before
  have hsettings : Settings.ofEnvironment environment ⟨.here, ["data"]⟩ = .ok settings := by
    decide +kernel
  have hwanted : Text.upper (Text.strip "\u3000debug\n") = "DEBUG" := by decide +kernel
  obtain ⟨hharmless, -⟩ := run_of_any_level rfl hsettings rfl
  rw [hwanted] at hharmless
  obtain ⟨hsetup, hsame⟩ := hharmless (by decide) (by decide) before
  have hplain : ((run { settings.configuration with logLevel := "WARNING" } ["list"]).runFrom
      before).1 = .ok { code := 0, output := "No tasks yet.\n" } := by decide +kernel
  exact ⟨hsettings, hsetup, (hsame ["list"]).1.trans hplain⟩

/-- A name that means something else than a level makes a listing fail that succeeds with warnings. -/
theorem run_fails_at_format_name :
    let environment : Environment := { dataFile := some "t", logLevel := some "BASIC_FORMAT" }
    let settings : Settings := {
      dataDirectory := ⟨.here, ["data"]⟩, dataFile := ⟨.here, ["t"]⟩, strictLoad := false
      logLevel := "BASIC_FORMAT", logFile := none }
    let before : Session := { tree := {}, directory := [], clock := 0 }
    Settings.ofEnvironment environment ⟨.here, ["data"]⟩ = .ok settings ∧
      ((run settings.configuration ["list"]).runFrom before).1 =
        .error (.unknownLevel "%(levelname)s:%(name)s:%(message)s") ∧
      ((run { settings.configuration with logLevel := "WARNING" } ["list"]).runFrom before).1 =
        .ok { code := 0, output := "No tasks yet.\n" } := by
  dsimp only
  and_intros
  all_goals decide +kernel

end Program

end Checklist
