import Checklist.Proofs.FileTree.Parents
import Checklist.Proofs.TaskFile.Atomicity
import Checklist.TaskFile

namespace Checklist.TaskFile

variable {file : TaskFile} {tree other : FileTree} {directory : Location} {session : Session}

/-- What a load gives, read off the files alone. -/
def loadOutcome (file : TaskFile) (tree : FileTree) (directory : Location) :
    Except Failure (List Task) :=
  match (tree.makeDirectories directory file.path.parent).2 with
  | .error error => .error (.file error)
  | .ok () =>
    match (file.rooted tree directory).peek? directory file.path with
    | .error error => .error (.file error)
    | .ok none => .ok []
    | .ok (some _) =>
      match (file.rooted tree directory).read directory file.path with
      | .error error => .error (.file error)
      | .ok content => (Reading.ofBytes file.strict file.path content).outcome

/-- What a file with some content is read as, and no tasks where there is no file. -/
def contentOutcome (file : TaskFile) : Option (List UInt8) → Except Failure (List Task)
  | none => .ok []
  | some content => (Reading.ofBytes file.strict file.path content).outcome

theorem runFrom_interpret (file : TaskFile) (content : List UInt8) (session : Session) :
    ∃ after, (file.interpret content).runFrom session =
        ((Reading.ofBytes file.strict file.path content).outcome, after) ∧
      session.Continues after session.tree := by
  let reading := Reading.ofBytes file.strict file.path content
  have hskips := session.continues_issueAll (reading.skips.map file.skipRecord)
  rw [interpret, Attempt.runFrom_bind, Session.runFrom_logAll]
  dsimp only
  cases houtcome : reading.outcome with
  | error failure => exact ⟨_, rfl, hskips⟩
  | ok tasks =>
    have hloaded := (List.foldl Session.issue session
      (reading.skips.map file.skipRecord)).continues_issue
        (file.loadedRecord tasks.length reading.skips.length)
    exact ⟨_, rfl, (hskips.self.trans hloaded).congr hskips.tree⟩

/-- A load gives what the files say, and but for the log it changes nothing beyond making the
    directory of the file. -/
theorem runFrom_load (file : TaskFile) (session : Session) :
    ∃ after, file.load.runFrom session =
        (file.loadOutcome session.tree session.directory, after) ∧
      session.Continues after (file.rooted session.tree session.directory) := by
  let rooted : Session := { session with tree := file.rooted session.tree session.directory }
  have hrooted : session.Continues rooted rooted.tree := ⟨rfl, rfl, .refl _ _⟩
  rw [load, Attempt.runFrom_bind, runFrom_ensureDirectory, loadOutcome]
  cases (session.tree.makeDirectories session.directory file.path.parent).2 with
  | error error => exact ⟨rooted, rfl, hrooted⟩
  | ok made =>
    dsimp only [FileTree.mapError_ok]
    rw [Attempt.runFrom_bind, Session.peek?, Session.runFrom_inspect]
    dsimp only
    cases rooted.tree.peek? session.directory file.path with
    | error error => exact ⟨rooted, rfl, hrooted⟩
    | ok entry? =>
      cases entry? with
      | none => exact ⟨rooted.issue file.absentRecord, rfl,
          hrooted.trans (rooted.continues_issue file.absentRecord)⟩
      | some entry =>
        dsimp only
        rw [Attempt.runFrom_bind, Session.read, Session.runFrom_inspect]
        dsimp only
        cases rooted.tree.read session.directory file.path with
        | error error => exact ⟨rooted, rfl, hrooted⟩
        | ok content =>
          obtain ⟨after, hrun, hafter⟩ := runFrom_interpret file content rooted
          exact ⟨after, hrun, hrooted.trans hafter⟩

/-- The directory of the file is there, and the file has this content or is not there. -/
structure Shows (file : TaskFile) (tree : FileTree) (directory : Location)
    (content? : Option (List UInt8)) : Prop where
  parent : tree.peek? directory file.path.parent = .ok (some .directory)
  found :
    match content? with
    | none => tree.peek? directory file.path = .ok none
    | some content => tree.read directory file.path = .ok content

/-- A load goes by what the file shows once its directory was made. -/
theorem loadOutcome_of_rooted {content? : Option (List UInt8)}
    (hmake : (tree.makeDirectories directory file.path.parent).2 = .ok ())
    (hshows : file.Shows (file.rooted tree directory) directory content?) :
    file.loadOutcome tree directory = file.contentOutcome content? := by
  rw [loadOutcome, hmake]
  dsimp only
  obtain ⟨-, hfound⟩ := hshows
  cases content? with
  | none => rw [hfound, contentOutcome]
  | some content =>
    obtain ⟨hleads, hfile⟩ := FileTree.read_eq_ok_iff.mp hfound
    rw [hleads.peek?, hfile]
    dsimp only at hfound ⊢
    rw [hfound, contentOutcome]

namespace Shows

variable {content? : Option (List UInt8)}

theorem makeDirectories (hshows : file.Shows tree directory content?) :
    tree.makeDirectories directory file.path.parent = (tree, .ok ()) :=
  FileTree.makeDirectories_of_peek? hshows.parent

theorem rooted (hshows : file.Shows tree directory content?) :
    file.rooted tree directory = tree := by
  rw [TaskFile.rooted, hshows.makeDirectories]

theorem loadOutcome (hshows : file.Shows tree directory content?) :
    file.loadOutcome tree directory = file.contentOutcome content? := by
  have hmake := hshows.makeDirectories
  exact loadOutcome_of_rooted (by rw [hmake]) (by rwa [hshows.rooted])

/-- What is written to a log at some other place does not show. -/
theorem of_agrees {spared : List Location} (hshows : file.Shows tree directory content?)
    (hagrees : other.AgreesExcept spared tree)
    (hspared : file.path.place directory ∉ spared) :
    file.Shows other directory content? := by
  have hshape := hagrees.shape.symm
  obtain ⟨hparent, hfound⟩ := hshows
  constructor
  · exact hshape.keepsDirectories.peek?_eq_directory hparent
  · cases content? with
    | none => exact hshape.peek?_eq_ok_none hfound
    | some content =>
      obtain ⟨hleads, hfile⟩ := FileTree.read_eq_ok_iff.mp hfound
      refine FileTree.read_eq_ok_iff.mpr ⟨hshape.leads hleads, ?_⟩
      rw [hagrees.entries _ hspared, hfile]

/-- What the file shows is what stands at its place. A path with a NUL is the exception, which leads
    to no place at all. -/
theorem get?_place (hshows : file.Shows tree directory content?) (hnul : file.path.hasNul = false) :
    tree.get? (file.path.place directory) = content?.map .file := by
  obtain ⟨hparent, hfound⟩ := hshows
  cases content? with
  | none => exact FileTree.get?_eq_none_of_peek? hnul hparent hfound
  | some content => exact (FileTree.read_eq_ok_iff.mp hfound).2

end Shows

/-- A load that succeeds found the file with some content, or did not find it. -/
theorem shows_of_loadOutcome {tasks : List Task}
    (hload : file.loadOutcome tree directory = .ok tasks) :
    ∃ content?, file.Shows (file.rooted tree directory) directory content? ∧
      file.contentOutcome content? = .ok tasks := by
  unfold loadOutcome at hload
  split at hload
  · cases hload
  · next hmake =>
    have hparent := FileTree.peek?_of_makeDirectories hmake
    split at hload
    · cases hload
    · next hpeek => exact ⟨none, ⟨hparent, hpeek⟩, hload⟩
    · split at hload
      · cases hload
      · next content hread => exact ⟨some content, ⟨hparent, hread⟩, hload⟩

theorem makeDirectories_of_loadOutcome {tasks : List Task}
    (hload : file.loadOutcome tree directory = .ok tasks) :
    (tree.makeDirectories directory file.path.parent).2 = .ok () := by
  cases hmade : (tree.makeDirectories directory file.path.parent).2 with
  | error error => simp [loadOutcome, hmade] at hload
  | ok made => rfl

/-- What is written to a log at some other place does not show in a load. -/
theorem loadOutcome_of_agrees {tasks : List Task} {spared : List Location}
    (hload : file.loadOutcome tree directory = .ok tasks)
    (hagrees : other.AgreesExcept spared tree)
    (hspared : file.path.place directory ∉ spared) :
    file.loadOutcome other directory = .ok tasks := by
  obtain ⟨hmakeOther, hrooted⟩ :=
    hagrees.symm.makeDirectories (makeDirectories_of_loadOutcome hload)
  obtain ⟨content?, hshows, hread⟩ := shows_of_loadOutcome hload
  rw [loadOutcome_of_rooted hmakeOther (hshows.of_agrees hrooted.symm hspared), hread]

/-- After a save that succeeds the file shows the lines of the tasks, unless the log was written to
    the draft. -/
theorem shows_of_save {source : TaskSource} {faults : SaveFaults} {before after : Session}
    (hname : file.path.name ≠ "")
    (hlog : file.draftPath.place before.directory ∉ before.logPlaces)
    (hsave : (file.save source faults).runFrom before = (.ok (), after)) :
    file.Shows after.tree after.directory (some (TaskList.content source.tasks)) := by
  obtain ⟨hparents, hafter, hleads, htarget, hdraft⟩ := save_eq_ok hname hlog hsave
  constructor
  · have hkeeps := (keepsDirectories_published source.tasks htarget hdraft).trans
      hafter.tree.shape.symm.keepsDirectories
    rw [hafter.directory]
    exact hkeeps.peek?_eq_directory (FileTree.peek?_of_makeDirectories hparents)
  · rw [hafter.directory]
    exact read_published hafter hleads htarget hdraft

theorem logsApart_of_save {source : TaskSource} {faults : SaveFaults} {before after : Session}
    (hname : file.path.name ≠ "") (hapart : before.LogsApart file)
    (hsave : (file.save source faults).runFrom before = (.ok (), after)) :
    after.LogsApart file := by
  obtain ⟨-, hafter, -⟩ := save_eq_ok hname hapart.draft hsave
  exact (hafter.continues hapart).logsApart hapart

end Checklist.TaskFile
