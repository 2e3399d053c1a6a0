import Checklist.Proofs.Text.Restyled
import Checklist.Settings
import Mathlib.Control.Monad.Basic

namespace Checklist

/-- The first part of a relative path, if it begins with a tilde. -/
def Path.tilde? (path : Path) : Option String :=
  match path.anchor, path.parts with
  | .here, first :: _ => if first.toList.head? = some '~' then some first else none
  | _, _ => none

/-- Whether the home directory can be determined that a part with a tilde stands for. One that itself
    begins with a tilde is none. -/
def Environment.KnowsHome (environment : Environment) (part : String) : Prop :=
  ∃ home, environment.homeOf? part = some home ∧ home.toList.head? ≠ some '~'

namespace Settings

/-- Whether a variable holds a path that begins with a tilde for a home that is not known. -/
def IsHomeless (environment : Environment) (setting : Option String) : Prop :=
  ∃ text part, present? setting = some text ∧ (Path.ofString text).tilde? = some part ∧
    ¬ environment.KnowsHome part

variable {environment : Environment} {path defaultDirectory : Path} {failure : Failure}
  {setting restyled : Option String} {settings : Settings}

/-- Taking off slashes at the end does not take off a tilde at the start. -/
theorem head?_trimmed {directory : List Char} :
    (directory.reverse.dropWhile (· == '/')).reverse.head? = some '~' ↔
      directory.head? = some '~' := by
  let slashes := (directory.reverse.takeWhile (· == '/')).reverse
  let trimmed := (directory.reverse.dropWhile (· == '/')).reverse
  have hsplit : directory = trimmed ++ slashes := by
    rw [← List.reverse_append, List.takeWhile_append_dropWhile, List.reverse_reverse]
  have hslashes : slashes.head? ≠ some '~' := by
    intro htilde
    have hmem := List.mem_reverse.mp (List.mem_of_head? htilde)
    have hslash : ('~' == '/') = true := List.all_eq_true.mp List.all_takeWhile '~' hmem
    exact absurd hslash (by decide)
  change trimmed.head? = some '~' ↔ _
  rw [hsplit, List.head?_append]
  cases htrimmed : trimmed.head? with
  | none => simpa using hslashes
  | some first => simp

/-- A path fails to be expanded where it begins with a tilde for a home that is not known. -/
theorem expandHome_eq_error_iff :
    expandHome environment path = .error failure ↔
      failure = .unknownHome ∧ ∃ part, path.tilde? = some part ∧ ¬ environment.KnowsHome part := by
  obtain ⟨anchor, parts⟩ := path
  cases anchor with
  | root => simp [expandHome, Path.tilde?]
  | doubleRoot => simp [expandHome, Path.tilde?]
  | here =>
    cases parts with
    | nil => simp [expandHome, Path.tilde?]
    | cons first rest =>
      dsimp only [expandHome, Path.tilde?]
      by_cases htilde : first.toList.head? = some '~'
      · rw [if_pos htilde, if_pos htilde]
        simp only [Option.some.injEq, exists_eq_left', Environment.KnowsHome]
        cases environment.homeOf? first with
        | none => simp [eq_comm]
        | some home =>
          simp only [String.toList_ofList, head?_trimmed]
          by_cases hhome : home.toList.head? = some '~'
          · simp [hhome, eq_comm]
          · simp [hhome]
      · rw [if_neg htilde, if_neg htilde]
        simp

theorem path?_eq_error_iff :
    path? environment setting = .error failure ↔
      failure = .unknownHome ∧ IsHomeless environment setting := by
  rw [path?, IsHomeless]
  cases present? setting with
  | none => simp
  | some text =>
    simp only [Option.some.injEq, exists_and_left, exists_eq_left', ← expandHome_eq_error_iff]
    cases expandHome environment (Path.ofString text) <;> simp [Except.map]

theorem path?_cases (environment : Environment) (setting : Option String) :
    (path? environment setting = .error .unknownHome ∧ IsHomeless environment setting) ∨
      (∃ path, path? environment setting = .ok path) ∧ ¬ IsHomeless environment setting := by
  cases hpath : path? environment setting with
  | error failure =>
    obtain ⟨rfl, hhomeless⟩ := path?_eq_error_iff.mp hpath
    exact .inl ⟨rfl, hhomeless⟩
  | ok path =>
    refine .inr ⟨⟨path, rfl⟩, fun hhomeless => ?_⟩
    rw [path?_eq_error_iff.mpr ⟨rfl, hhomeless⟩] at hpath
    cases hpath

/-- Where the settings cannot be made, the reason is a path without a known home. -/
theorem ofEnvironment_eq_error_iff :
    ofEnvironment environment defaultDirectory = .error failure ↔
      failure = .unknownHome ∧ (IsHomeless environment environment.dataDirectory ∨
        IsHomeless environment environment.dataFile ∨
        IsHomeless environment environment.logFile) := by
  rw [ofEnvironment]
  rcases path?_cases environment environment.dataDirectory with
    ⟨hpath, hhomeless⟩ | ⟨⟨dataDirectory, hpath⟩, hknown⟩
  · simp [hpath, hhomeless, bind, Except.bind, eq_comm]
  rcases path?_cases environment environment.dataFile with
    ⟨hfile, hhomeless⟩ | ⟨⟨dataFile, hfile⟩, hknownFile⟩
  · simp [hpath, hfile, hhomeless, bind, Except.bind, eq_comm]
  rcases path?_cases environment environment.logFile with
    ⟨hlog, hhomeless⟩ | ⟨⟨logFile, hlog⟩, hknownLog⟩
  · simp [hpath, hfile, hlog, hhomeless, bind, Except.bind, eq_comm]
  · simp [hpath, hfile, hlog, hknown, hknownFile, hknownLog, bind, Except.bind, pure, Except.pure]

theorem ofEnvironment_eq_ok_iff :
    ofEnvironment environment defaultDirectory = .ok settings ↔
      ∃ dataDirectory dataFile logFile,
        path? environment environment.dataDirectory = .ok dataDirectory ∧
        path? environment environment.dataFile = .ok dataFile ∧
        path? environment environment.logFile = .ok logFile ∧
        settings = {
          dataDirectory := dataDirectory.getD defaultDirectory
          dataFile := dataFile.getD ((dataDirectory.getD defaultDirectory).child dataFileName)
          strictLoad := isOn environment.strictLoad
          logLevel := levelName environment.logLevel
          logFile } := by
  rw [ofEnvironment]
  cases path? environment environment.dataDirectory with
  | error failure => simp [bind, Except.bind]
  | ok dataDirectory =>
    cases path? environment environment.dataFile with
    | error failure => simp [bind, Except.bind]
    | ok dataFile =>
      cases path? environment environment.logFile with
      | error failure => simp [bind, Except.bind]
      | ok logFile => simp [bind, Except.bind, pure, Except.pure, eq_comm]

theorem logLevel_of_ofEnvironment
    (hsettings : ofEnvironment environment defaultDirectory = .ok settings) :
    settings.logLevel = levelName environment.logLevel := by
  obtain ⟨dataDirectory, dataFile, logFile, -, -, -, rfl⟩ := ofEnvironment_eq_ok_iff.mp hsettings
  rfl

/-- A variable that is not set, or holds nothing but blanks. -/
def IsBlank (setting : Option String) : Prop :=
  ∀ text, setting = some text → Text.isAllBlank text = true

theorem present?_eq_none_iff : present? setting = none ↔ IsBlank setting := by
  simp [present?, IsBlank]

/-- Blank variables may be unset. -/
theorem present?_unset {valueOf? : String → Option String} {names : List String}
    (hblank : ∀ name ∈ names, IsBlank (valueOf? name)) (name : String) :
    present? (if name ∈ names then none else valueOf? name) = present? (valueOf? name) := by
  split
  · next hmem => rw [present?_eq_none_iff.mpr (hblank name hmem), present?, Option.filter_none]
  · rfl

theorem present?_restyled (hrestyled : Option.Rel Text.Restyled setting restyled) :
    Option.Rel Text.Restyled (present? setting) (present? restyled) := by
  cases hrestyled with
  | none => exact .none
  | some htext =>
    rw [present?, present?, Option.filter_some, Option.filter_some, htext.isAllBlank_eq]
    split
    · exact .some htext
    · exact .none

theorem isOn_restyled (hrestyled : Option.Rel Text.Restyled setting restyled) :
    isOn setting = isOn restyled := by
  have hpresent := present?_restyled hrestyled
  rw [isOn, isOn]
  generalize present? setting = first at hpresent ⊢
  generalize present? restyled = second at hpresent ⊢
  cases hpresent with
  | none => rfl
  | some htext => dsimp only; rw [htext.lower_strip]

theorem levelName_restyled (hrestyled : Option.Rel Text.Restyled setting restyled) :
    levelName setting = levelName restyled := by
  have hpresent := present?_restyled hrestyled
  rw [levelName, levelName]
  generalize present? setting = first at hpresent ⊢
  generalize present? restyled = second at hpresent ⊢
  cases hpresent with
  | none => rfl
  | some htext => exact htext.upper_strip

/-- The variables that hold paths. -/
def pathVariables : List String := ["TODO_DATA_DIR", "TODO_DATA_FILE", "TODO_LOG_FILE"]

/-- The settings depend on the home, the paths that are present, the switch and the level name. -/
theorem ofVariables_congr {valueOf? other : String → Option String} (accounts : Accounts)
    (defaultDirectory : Path) (hhome : other "HOME" = valueOf? "HOME")
    (hpaths : ∀ name ∈ pathVariables, present? (other name) = present? (valueOf? name))
    (hstrict : isOn (other "TODO_STRICT_LOAD") = isOn (valueOf? "TODO_STRICT_LOAD"))
    (hlevel : levelName (other "TODO_LOG_LEVEL") = levelName (valueOf? "TODO_LOG_LEVEL")) :
    ofEnvironment (.ofVariables other accounts) defaultDirectory =
      ofEnvironment (.ofVariables valueOf? accounts) defaultDirectory := by
  have hexpand : expandHome (.ofVariables other accounts) =
      expandHome (.ofVariables valueOf? accounts) := by
    funext path
    simp only [expandHome, Environment.homeOf?, Environment.ofVariables, hhome]
  have hpath {name : String} (hname : name ∈ pathVariables) :
      path? (.ofVariables other accounts) (other name) =
        path? (.ofVariables valueOf? accounts) (valueOf? name) := by
    rw [path?, path?, hexpand, hpaths name hname]
  have hdirectory := hpath (show "TODO_DATA_DIR" ∈ pathVariables by decide)
  have hfile := hpath (show "TODO_DATA_FILE" ∈ pathVariables by decide)
  have hlog := hpath (show "TODO_LOG_FILE" ∈ pathVariables by decide)
  simp only [ofEnvironment]
  simp only [Environment.ofVariables] at hdirectory hfile hlog ⊢
  rw [hdirectory, hfile, hlog, hstrict, hlevel]

theorem eq_none_iff_of_path? {path? : Option Path}
    (hpath : Settings.path? environment setting = .ok path?) : path? = none ↔ IsBlank setting := by
  rw [← present?_eq_none_iff]
  rw [Settings.path?] at hpath
  cases hpresent : present? setting with
  | none =>
    rw [hpresent] at hpath
    simp [← Except.ok.inj hpath]
  | some text =>
    rw [hpresent] at hpath
    dsimp only at hpath
    cases hexpand : expandHome environment (Path.ofString text) with
    | error failure =>
      rw [hexpand] at hpath
      cases hpath
    | ok expanded =>
      rw [hexpand] at hpath
      simp [← Except.ok.inj hpath]

/-- Settings made with another data directory differ in it, and in the data file if that is in the
    data directory. -/
theorem settings_apart {directory : Option String} {settingsOther : Settings}
    (hsettings : ofEnvironment environment defaultDirectory = .ok settings)
    (hother : ofEnvironment { environment with dataDirectory := directory } defaultDirectory =
      .ok settingsOther) :
    settings.strictLoad = settingsOther.strictLoad ∧ settings.logLevel = settingsOther.logLevel ∧
      settings.logFile = settingsOther.logFile ∧
      (¬ IsBlank environment.dataFile → settings.dataFile = settingsOther.dataFile) ∧
      (IsBlank environment.dataFile →
        settings.dataFile = settings.dataDirectory.child "tasks.txt" ∧
          settingsOther.dataFile = settingsOther.dataDirectory.child "tasks.txt") := by
  obtain ⟨dataDirectory, dataFile, logFile, -, hfile, hlog, rfl⟩ :=
    ofEnvironment_eq_ok_iff.mp hsettings
  obtain ⟨dataDirectoryOther, dataFileOther, logFileOther, -, hfileOther, hlogOther, rfl⟩ :=
    ofEnvironment_eq_ok_iff.mp hother
  obtain rfl : dataFile = dataFileOther := Except.ok.inj (hfile.symm.trans hfileOther)
  obtain rfl : logFile = logFileOther := Except.ok.inj (hlog.symm.trans hlogOther)
  have hblank := eq_none_iff_of_path? hfile
  refine ⟨rfl, rfl, rfl, fun hset => ?_, fun hunset => ?_⟩
  · cases dataFile with
    | none => exact absurd (hblank.mp rfl) hset
    | some path => rfl
  · obtain rfl := hblank.mpr hunset
    exact ⟨rfl, rfl⟩

/-- How the variables decide on the settings. Blank ones may as well be unset, and the switch and the
    level name may be written with other blanks around them and other ASCII capitals. The data
    directory decides on nothing else but a data file that is not named. Settings cannot be made
    exactly where a path begins with a tilde for a home that is not known. -/
theorem settings_of_variables (valueOf? : String → Option String)
    (accounts : Accounts) (defaultDirectory : Path) :
    let settings? (valueOf? : String → Option String) : Except Failure Settings :=
      ofEnvironment (.ofVariables valueOf? accounts) defaultDirectory
    (∀ names : List String, "HOME" ∉ names → (∀ name ∈ names, IsBlank (valueOf? name)) →
      settings? (fun name => if name ∈ names then none else valueOf? name) = settings? valueOf?) ∧
    (∀ other : String → Option String,
      (∀ name, name ≠ "TODO_STRICT_LOAD" → name ≠ "TODO_LOG_LEVEL" → other name = valueOf? name) →
      Option.Rel Text.Restyled (valueOf? "TODO_STRICT_LOAD") (other "TODO_STRICT_LOAD") →
      Option.Rel Text.Restyled (valueOf? "TODO_LOG_LEVEL") (other "TODO_LOG_LEVEL") →
      settings? other = settings? valueOf?) ∧
    (∀ (other : String → Option String) (settings settingsOther : Settings),
      (∀ name, name ≠ "TODO_DATA_DIR" → other name = valueOf? name) →
      settings? valueOf? = .ok settings → settings? other = .ok settingsOther →
      settings.strictLoad = settingsOther.strictLoad ∧ settings.logLevel = settingsOther.logLevel ∧
        settings.logFile = settingsOther.logFile ∧
        (¬ IsBlank (valueOf? "TODO_DATA_FILE") → settings.dataFile = settingsOther.dataFile) ∧
        (IsBlank (valueOf? "TODO_DATA_FILE") →
          settings.dataFile = settings.dataDirectory.child "tasks.txt" ∧
            settingsOther.dataFile = settingsOther.dataDirectory.child "tasks.txt")) ∧
    ∀ failure, settings? valueOf? = .error failure ↔
      failure = .unknownHome ∧
        ∃ name ∈ pathVariables, IsHomeless (.ofVariables valueOf? accounts) (valueOf? name) := by
  intro settings?
  refine ⟨fun names hhome hblank => ?_, fun other hsame hstrict hlevel => ?_,
    fun other settings settingsOther hsame hsettings hother => ?_, fun failure => ?_⟩
  · have hpresent := present?_unset hblank
    refine ofVariables_congr accounts defaultDirectory (if_neg hhome)
      (fun name _ => hpresent name) ?_ ?_
    · simp only [isOn, hpresent]
    · simp only [levelName, hpresent]
  · refine ofVariables_congr accounts defaultDirectory (hsame _ (by decide) (by decide)) ?_
      (isOn_restyled hstrict).symm (levelName_restyled hlevel).symm
    have hpaths : ∀ name ∈ pathVariables, name ≠ "TODO_STRICT_LOAD" ∧ name ≠ "TODO_LOG_LEVEL" := by
      decide
    intro name hname
    rw [hsame name (hpaths name hname).1 (hpaths name hname).2]
  · have hvariables : Environment.ofVariables other accounts =
        { Environment.ofVariables valueOf? accounts with
          dataDirectory := other "TODO_DATA_DIR" } := by
      simp [Environment.ofVariables, hsame]
    have hmade : ofEnvironment (.ofVariables other accounts) defaultDirectory = .ok settingsOther :=
      hother
    rw [hvariables] at hmade
    exact settings_apart hsettings hmade
  · simp only [settings?, ofEnvironment_eq_error_iff, pathVariables, List.mem_cons,
      exists_eq_or_imp, exists_eq_left, List.not_mem_nil, or_false]
    rfl

/-- The home of one user is known and that of another one is not. The data file is named by a blank
    alone. -/
theorem settings_of_variables_homes :
    let accounts : Accounts := { named := [("ann", "/srv/ann/")] }
    let values (directory : String) : String → Option String := fun name =>
      [("HOME", "/home/me"), ("TODO_DATA_DIR", directory), ("TODO_DATA_FILE", "\u3000"),
        ("TODO_LOG_FILE", "~ann/log")].lookup name
    let settings? (directory : String) : Except Failure Settings :=
      ofEnvironment (.ofVariables (values directory) accounts) ⟨.here, ["data"]⟩
    settings? "~bob/todo" = .error .unknownHome ∧
      ∃ settings settingsOther, settings? "~/todo" = .ok settings ∧
        settings? " " = .ok settingsOther ∧ settings.logFile = settingsOther.logFile ∧
        settings.dataFile = settings.dataDirectory.child "tasks.txt" := by
  intro accounts values settings?
  obtain ⟨-, -, hapart, -⟩ :=
    settings_of_variables (values "~/todo") accounts ⟨.here, ["data"]⟩
  obtain ⟨-, -, -, herror⟩ :=
    settings_of_variables (values "~bob/todo") accounts ⟨.here, ["data"]⟩
  have hunknown : ¬ (Environment.ofVariables (values "~bob/todo") accounts).KnowsHome "~bob" := by
    rintro ⟨home, hhome, -⟩
    cases hhome
  have hsame : ∀ name, name ≠ "TODO_DATA_DIR" → values " " name = values "~/todo" name := by
    intro name hname
    simp only [values, List.lookup_cons, beq_false_of_ne hname]
  have hsettings : settings? "~/todo" = .ok {
      dataDirectory := ⟨.root, ["home", "me", "todo"]⟩
      dataFile := ⟨.root, ["home", "me", "todo", "tasks.txt"]⟩, strictLoad := false
      logLevel := "WARNING", logFile := some ⟨.root, ["srv", "ann", "log"]⟩ } := by decide +kernel
  have hother : settings? " " = .ok {
      dataDirectory := ⟨.here, ["data"]⟩, dataFile := ⟨.here, ["data", "tasks.txt"]⟩
      strictLoad := false, logLevel := "WARNING"
      logFile := some ⟨.root, ["srv", "ann", "log"]⟩ } := by decide +kernel
  have hblank : IsBlank (values "~/todo" "TODO_DATA_FILE") := by
    rintro text ⟨⟩
    decide
  obtain ⟨-, -, hlog, -, hfile⟩ := hapart _ _ _ hsame hsettings hother
  refine ⟨(herror .unknownHome).mpr ⟨rfl, "TODO_DATA_DIR", by decide, "~bob/todo", "~bob", ?_, ?_,
    hunknown⟩, _, _, hsettings, hother, hlog, (hfile hblank).1⟩
  · decide +kernel
  · decide +kernel

end Settings

end Checklist
