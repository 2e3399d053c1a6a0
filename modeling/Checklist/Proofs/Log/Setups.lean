import Checklist.Proofs.FileTree.Directories
import Checklist.Proofs.Log.Events
import Checklist.Proofs.TaskFile.Writing

namespace Checklist.Log

/-- Sets logging up one time after the other. -/
def setUpAll (setups : List Setup) : Attempt Unit :=
  setups.forM Setup.apply

/-- The place of the log file that a path stands for. -/
def filePlace (directory : Location) (path : Path) : Location :=
  (path.absolute directory).place directory

/-- What may have happened at a place while log files were opened. Only where nothing was, a
    directory on the way to a log file or an empty log file was made. -/
inductive OpenedAt (paths : List Path) (directory : Location) (tree other : FileTree)
    (place : Location) : Prop where
  | same (hsame : other.get? place = tree.get? place)
  | passed {path : Path} (hpath : path ∈ paths) (hpasses : path.parent.Passes directory place)
      (hvacant : tree.get? place = none) (hmade : other.get? place = some .directory)
  | opened {path : Path} (hpath : path ∈ paths) (hplace : place = filePlace directory path)
      (hvacant : tree.get? place = none) (hmade : other.get? place = some (.file []))

namespace OpenedAt

variable {paths more : List Path} {directory place : Location} {tree other third : FileTree}

theorem vacant (hopened : OpenedAt paths directory tree other place)
    (hvacant : other.get? place = none) : tree.get? place = none := by
  cases hopened with
  | same hsame => exact hsame ▸ hvacant
  | passed _ _ hearlier => exact hearlier
  | opened _ _ hearlier => exact hearlier

theorem trans (hfirst : OpenedAt paths directory tree other place)
    (hsecond : OpenedAt paths directory other third place) :
    OpenedAt paths directory tree third place := by
  cases hsecond with
  | same hsame =>
    cases hfirst with
    | same hearlier => exact .same (hsame.trans hearlier)
    | passed hpath hpasses hvacant hmade =>
      exact .passed hpath hpasses hvacant (hsame.trans hmade)
    | opened hpath hplace hvacant hmade => exact .opened hpath hplace hvacant (hsame.trans hmade)
  | passed hpath hpasses hvacant hmade =>
    exact .passed hpath hpasses (hfirst.vacant hvacant) hmade
  | opened hpath hplace hvacant hmade => exact .opened hpath hplace (hfirst.vacant hvacant) hmade

theorem mono (hopened : OpenedAt paths directory tree other place) (hsubset : paths ⊆ more) :
    OpenedAt more directory tree other place := by
  cases hopened with
  | same hsame => exact .same hsame
  | passed hpath hpasses hvacant hmade => exact .passed (hsubset hpath) hpasses hvacant hmade
  | opened hpath hplace hvacant hmade => exact .opened (hsubset hpath) hplace hvacant hmade

/-- A file that is there was there before, with what it holds, or is empty. -/
theorem file {content : List UInt8} (hopened : OpenedAt paths directory tree other place)
    (hfile : other.get? place = some (.file content)) :
    tree.get? place = some (.file content) ∨ tree.get? place = none ∧ content = [] := by
  cases hopened with
  | same hsame => exact .inl (hsame ▸ hfile)
  | passed _ _ _ hmade =>
    rw [hmade] at hfile
    cases hfile
  | opened _ _ hvacant hmade =>
    rw [hmade] at hfile
    cases hfile
    exact .inr ⟨hvacant, rfl⟩

end OpenedAt

/-- A session that differs from an earlier one in its routing, and in what was made for log
    files. -/
structure SetUp (paths : List Path) (before after : Session) : Prop where
  directory : after.directory = before.directory
  clock : after.clock = before.clock
  errorText : after.errorText = before.errorText
  tree : ∀ place, OpenedAt paths before.directory before.tree after.tree place

namespace SetUp

variable {paths more : List Path} {before middle after : Session}

theorem refl (paths : List Path) (session : Session) : SetUp paths session session :=
  ⟨rfl, rfl, rfl, fun _ => .same rfl⟩

theorem mono (hsetUp : SetUp paths before after) (hsubset : paths ⊆ more) :
    SetUp more before after :=
  ⟨hsetUp.directory, hsetUp.clock, hsetUp.errorText, fun place =>
    (hsetUp.tree place).mono hsubset⟩

theorem trans (hfirst : SetUp paths before middle) (hsecond : SetUp paths middle after) :
    SetUp paths before after :=
  ⟨hsecond.directory.trans hfirst.directory, hsecond.clock.trans hfirst.clock,
    hsecond.errorText.trans hfirst.errorText, fun place =>
    (hfirst.tree place).trans (hfirst.directory ▸ hsecond.tree place)⟩

end SetUp

/-- A file that is opened at its end keeps what it holds, and is empty if it was not there. -/
theorem openEnd_eq_ok {tree : FileTree} {directory : Location} {path : Path}
    {result : FileTree × Location} (hopen : tree.openEnd directory path = .ok result) :
    ∃ content, (tree.get? (path.place directory) = some (.file content) ∨
        tree.get? (path.place directory) = none ∧ content = []) ∧
      result = (tree.put (path.place directory) (.file content), path.place directory) := by
  obtain ⟨-, hstep⟩ := FileTree.atPath_eq_ok_iff.mp hopen
  rcases hget : tree.get? (path.place directory) with _ | _ | content <;>
    simp [FileTree.openable, hget, bind, Except.bind, pure, Except.pure] at hstep
  · exact ⟨[], .inr ⟨rfl, rfl⟩, hstep.symm⟩
  · exact ⟨content, .inl rfl, hstep.symm⟩

/-- The directories for a log file are made first, and then the file. -/
theorem openedAt_of_openEnd {tree made opened : FileTree} {directory place : Location}
    {path : Path} (hgrew : FileTree.GrewAlong path.parent directory tree made)
    (hopen : made.openEnd directory (path.absolute directory) = .ok (opened, place)) :
    place = filePlace directory path ∧ (∃ content, opened.get? place = some (.file content)) ∧
      ∀ other, OpenedAt [path] directory tree opened other := by
  obtain ⟨content, hcontent, hresult⟩ := openEnd_eq_ok hopen
  obtain ⟨rfl, rfl⟩ := Prod.mk.inj hresult
  have hroot : (path.absolute directory).place directory ≠ [] := by
    intro hnil
    rw [hnil, FileTree.get?_nil] at hcontent
    simp at hcontent
  have hpath : path ∈ [path] := List.mem_singleton_self path
  have hmade (other : Location) : OpenedAt [path] directory tree made other := by
    rcases hgrew other with hsame | ⟨hvacant, hdirectory, hpasses⟩
    · exact .same hsame
    · exact .passed hpath hpasses hvacant hdirectory
  refine ⟨rfl, ⟨content, FileTree.get?_put_self hroot _⟩, fun other => (hmade other).trans ?_⟩
  by_cases hother : other = (path.absolute directory).place directory
  · subst hother
    rcases hcontent with hfile | ⟨hvacant, rfl⟩
    · exact .same ((FileTree.get?_put_self hroot _).trans hfile.symm)
    · exact .opened hpath rfl hvacant (FileTree.get?_put_self hroot _)
  · by_cases htop : other = []
    · exact .same (by simp [htop])
    · exact .same (by rw [FileTree.get?_put made _ htop, if_neg hother])

variable {session after : Session}

/-- Opening a log file makes nothing but the file and the directories on the way to it. -/
theorem openFile_eq_ok {path : Path} {level : LevelChoice} {handler : Handler}
    (hopen : (openFile path level).runFrom session = (.ok handler, after)) :
    ∃ fileLevel, level.resolve = .ok fileLevel ∧
      handler = ⟨fileLevel, .file (some (filePlace session.directory path))⟩ ∧
      after.routing = session.routing ∧ SetUp [path] session after ∧
      ∃ content, after.tree.get? (filePlace session.directory path) = some (.file content) := by
  rw [openFile] at hopen
  obtain ⟨_, grown, hmake, hopen⟩ := Attempt.runFrom_bind_eq_ok_iff.mp hopen
  obtain ⟨_, _, hget, hopen⟩ := Attempt.runFrom_bind_eq_ok_iff.mp hopen
  cases hget
  obtain ⟨place, opened, hend, hopen⟩ := Attempt.runFrom_bind_eq_ok_iff.mp hopen
  obtain ⟨fileLevel, _, hlevel, hopen⟩ := Attempt.runFrom_bind_eq_ok_iff.mp hopen
  obtain ⟨hresolve, rfl⟩ : level.resolve = .ok fileLevel ∧ opened = _ := Prod.mk.inj hlevel
  obtain ⟨rfl, rfl⟩ : ⟨fileLevel, .file (some place)⟩ = handler ∧ opened = after := by
    simpa using hopen
  obtain ⟨-, rfl⟩ := Prod.mk.inj ((Session.runFrom_makeDirectories _ _).symm.trans hmake)
  have hgrew := session.tree.grewAlong_makeDirectories session.directory path.parent
  rw [Session.openEnd, Session.runFrom_change] at hend
  split at hend
  · next tree answer hstep =>
    cases hend
    obtain ⟨rfl, hfile, htree⟩ := openedAt_of_openEnd hgrew hstep
    exact ⟨fileLevel, hresolve, rfl, rfl, ⟨rfl, rfl, rfl, htree⟩, hfile⟩
  · cases hend

/-- Whether a log file is asked for or not, a handler for it is added at most. -/
theorem Setup.addFile_eq_ok {setup : Setup}
    (hadd : setup.addFile.runFrom session = (.ok (), after)) :
    ∃ fileLevel, (setup.file ≠ none → setup.fileLevel.resolve = .ok fileLevel) ∧
      after.routing = { session.routing with
        handlers := session.routing.handlers ++ setup.file.toList.map fun path =>
          ⟨fileLevel, .file (some (filePlace session.directory path))⟩ } ∧
      SetUp setup.file.toList session after ∧
      ∀ path, setup.file = some path →
        ∃ content, after.tree.get? (filePlace session.directory path) = some (.file content) := by
  rw [addFile] at hadd
  cases hfile : setup.file with
  | none =>
    rw [hfile] at hadd
    cases hadd
    exact ⟨debug, absurd rfl, by simp, .refl [] _, nofun⟩
  | some path =>
    rw [hfile] at hadd
    obtain ⟨handler, opened, hopen, hadd⟩ := Attempt.runFrom_bind_eq_ok_iff.mp hadd
    cases hadd
    obtain ⟨fileLevel, hlevel, rfl, hrouting, hopened, hthere⟩ := openFile_eq_ok hopen
    refine ⟨fileLevel, fun _ => hlevel, ?_,
      ⟨hopened.directory, hopened.clock, hopened.errorText, hopened.tree⟩, ?_⟩
    · dsimp only
      rw [hrouting]
      rfl
    · intro other hother
      cases hother
      exact hthere

/-- A setup that succeeds leaves no handler from before: there is one for the console, and one for
    the log file if there is to be one. -/
theorem Setup.apply_eq_ok {setup : Setup}
    (happly : setup.apply.runFrom session = (.ok (), after)) :
    ∃ consoleLevel fileLevel, setup.console.resolve = .ok consoleLevel ∧
      (setup.file ≠ none → setup.fileLevel.resolve = .ok fileLevel) ∧
      after.routing = { Routing.toConsole consoleLevel with
        handlers := ⟨consoleLevel, .console⟩ :: setup.file.toList.map fun path =>
          ⟨fileLevel, .file (some (filePlace session.directory path))⟩ } ∧
      SetUp setup.file.toList session after ∧
      ∀ path, setup.file = some path →
        ∃ content, after.tree.get? (filePlace session.directory path) = some (.file content) := by
  rw [runFrom_apply] at happly
  cases hresolve : setup.console.resolve with
  | error failure =>
    rw [hresolve] at happly
    cases happly
  | ok consoleLevel =>
    rw [hresolve] at happly
    obtain ⟨_, added, hadd, happly⟩ := Attempt.runFrom_bind_eq_ok_iff.mp happly
    cases happly
    obtain ⟨fileLevel, hlevel, hrouting, hsetUp, hthere⟩ := addFile_eq_ok hadd
    refine ⟨consoleLevel, fileLevel, rfl, hlevel, ?_,
      ⟨hsetUp.directory, hsetUp.clock, hsetUp.errorText, hsetUp.tree⟩, hthere⟩
    dsimp only
    rw [hrouting]
    rfl

/-- What several setups that succeed leave as it was. -/
theorem setUpAll_eq_ok {setups : List Setup}
    (hsetups : (setUpAll setups).runFrom session = (.ok (), after)) :
    SetUp (setups.filterMap (·.file)) session after := by
  induction setups generalizing session with
  | nil =>
    cases hsetups
    exact .refl [] _
  | cons setup rest ih =>
    obtain ⟨_, middle, hfirst, hrest⟩ := Attempt.runFrom_bind_eq_ok_iff.mp hsetups
    obtain ⟨-, -, -, -, -, hsetUp, -⟩ := Setup.apply_eq_ok hfirst
    have hboth : (setup :: rest).filterMap (·.file) =
        setup.file.toList ++ rest.filterMap (·.file) := by
      cases hfile : setup.file <;> simp [hfile]
    rw [hboth]
    exact (hsetUp.mono (List.subset_append_left _ _)).trans
      ((ih hrest).mono (List.subset_append_right _ _))

theorem setUpAll_append (front back : List Setup) :
    setUpAll (front ++ back) = (do setUpAll front; setUpAll back) :=
  List.forM_append

end Checklist.Log
