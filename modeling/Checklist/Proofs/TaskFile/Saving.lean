import Checklist.Proofs.TaskFile.Draft

namespace Checklist

/-- The steps of a save that can fail, in their order. The clean-up is not among them. -/
inductive SaveStep where
  | parents
  | opening
  | writing
  | syncing
  | replacing
  deriving Repr, DecidableEq

namespace TaskFile

def rooted (file : TaskFile) (tree : FileTree) (directory : Location) : FileTree :=
  (tree.makeDirectories directory file.path.parent).1

def drafted (file : TaskFile) (tasks : TaskList) (tree : FileTree) (directory : Location) :
    FileTree :=
  tree.put (file.draftPath.place directory) (.file tasks.content)

def published (file : TaskFile) (tasks : TaskList) (tree : FileTree) (directory : Location) :
    FileTree :=
  (tree.erase (file.draftPath.place directory)).put (file.path.place directory)
    (.file tasks.content)

/-- How putting tasks on lines fails, if it does: at the first task that cannot be written, or where
    no more tasks come. -/
def writingFailure? (source : TaskSource) : Option Failure :=
  source.tasks.findSome? Task.writingFailure? <|> source.failure.map .sourceFailed

/-- How putting the draft in place of the file fails, if it does. -/
def replacingFailure? (file : TaskFile) (fault : Option String) (tree : FileTree)
    (directory : Location) : Option Failure :=
  faultFailure? fault <|> refusal? (tree.rename directory file.draftPath file.path)

/-- How a step of a save fails, if it does where every step before it succeeded. -/
def stepFailure? (file : TaskFile) (source : TaskSource) (faults : SaveFaults) (tree : FileTree)
    (directory : Location) : SaveStep → Option Failure
  | .parents =>
    faultFailure? faults.parents <|> refusal? (tree.makeDirectories directory file.path.parent).2
  | .opening => file.openingFailure? faults.opening (file.rooted tree directory) directory
  | .writing => writingFailure? source
  | .syncing => faultFailure? faults.sync
  | .replacing =>
    file.replacingFailure? faults.replacing
      (file.drafted source.tasks (file.rooted tree directory) directory) directory

/-- The first step of a save that fails, and its failure. -/
def firstFailure? (file : TaskFile) (source : TaskSource) (faults : SaveFaults) (tree : FileTree)
    (directory : Location) : Option (SaveStep × Failure) :=
  [SaveStep.parents, .opening, .writing, .syncing, .replacing].findSome? fun step =>
    (file.stepFailure? source faults tree directory step).map (step, ·)

variable {file : TaskFile} {source : TaskSource} {faults : SaveFaults} {session : Session}

theorem writingFailure?_eq (source : TaskSource) :
    writingFailure? source =
      (source.tasks.findSome? Task.writingFailure?).or (source.failure.map .sourceFailed) := by
  rw [writingFailure?, Option.orElse_eq_orElse, Option.orElse_eq_or]

theorem writingFailure?_eq_none_iff :
    writingFailure? source = none ↔
      (∀ task ∈ source.tasks, task.writingFailure? = none) ∧ source.failure = none := by
  rw [writingFailure?_eq, Option.or_eq_none_iff, List.findSome?_eq_none_iff, Option.map_eq_none_iff]

/-- The draft is opened and filled. What it holds is complete unless writing failed. -/
theorem runFrom_take_ofTasks
    (hlog : file.draftPath.place session.directory ∉ session.logPlaces) (source : TaskSource) :
    let place := file.draftPath.place session.directory
    let opened := { session with tree := session.tree.put place (.file []) }
    let writing := Writing.ofTasks source.failure {} source.tasks
    ∃ written, (take place 0 writing.steps).runFrom opened = (.ok (), written) ∧
      session.Continues written (session.tree.put place (.file (Writing.bytes writing.steps))) := by
  intro place opened writing
  have hroot : place ≠ [] := file.place_draftPath_ne_nil session.directory
  have hopened : opened.tree.get? place = some (.file []) := FileTree.get?_put_self hroot _
  obtain ⟨written, hrun, hwritten⟩ := runFrom_take hopened hlog writing.steps
  have hcontinues : session.Continues opened opened.tree := ⟨rfl, rfl, .refl _ _⟩
  refine ⟨written, hrun, (hcontinues.trans hwritten).congr ?_⟩
  exact FileTree.put_put session.tree place _ _ _

theorem get?_drafted {tree : FileTree} {directory place : Location} (tasks : TaskList)
    (hplace : place ≠ file.draftPath.place directory) :
    (file.drafted tasks tree directory).get? place = tree.get? place := by
  by_cases hroot : place = []
  · simp [hroot]
  · rw [drafted, FileTree.get?_put _ _ hroot, if_neg hplace]

theorem get?_drafted_draft (tree : FileTree) (directory : Location) (tasks : TaskList) :
    (file.drafted tasks tree directory).get? (file.draftPath.place directory) =
      some (.file tasks.content) :=
  FileTree.get?_put_self (file.place_draftPath_ne_nil directory) _

/-- A draft is no directory, and so its place was none before if it is to cost none. -/
theorem keepsDirectories_drafted {tree : FileTree} {directory : Location} (tasks : TaskList)
    (hfree : tree.get? (file.draftPath.place directory) ≠ some .directory) :
    tree.KeepsDirectories (file.drafted tasks tree directory) :=
  FileTree.keepsDirectories_put hfree _

theorem keepsDirectories_of_drafted (tree : FileTree) (directory : Location) (tasks : TaskList) :
    (file.drafted tasks tree directory).KeepsDirectories tree := by
  intro place hplace
  by_cases hdraft : place = file.draftPath.place directory
  · rw [hdraft, get?_drafted_draft] at hplace
    cases hplace
  · rwa [get?_drafted tasks hdraft] at hplace

/-- Taking the draft away from where it was put is taking away what stood there. -/
theorem erase_drafted_agreesExcept (file : TaskFile) (tree : FileTree) (directory : Location)
    (tasks : TaskList) (spared : List Location) :
    ((file.drafted tasks tree directory).erase (file.draftPath.place directory)).AgreesExcept spared
      (tree.erase (file.draftPath.place directory)) := by
  apply FileTree.AgreesExcept.of_get?_eq
  intro place hplace
  rw [FileTree.get?_erase _ hplace, FileTree.get?_erase _ hplace]
  split
  · rfl
  · next hdraft => exact get?_drafted tasks hdraft

def replace (file : TaskFile) (fault : Option String) : Attempt Unit := do
  failOn fault
  Session.rename file.draftPath file.path

theorem runFrom_replace_of_failure {fault : Option String} {failure : Failure} {tasks : TaskList}
    {written : Session}
    (hwritten : session.Continues written (file.drafted tasks session.tree session.directory))
    (hfails : file.replacingFailure? fault (file.drafted tasks session.tree session.directory)
      session.directory = some failure) :
    (file.replace fault).runFrom written = (.error failure, written) := by
  rw [replacingFailure?, Option.orElse_eq_orElse, Option.orElse_eq_or] at hfails
  rw [replace, Attempt.runFrom_bind, runFrom_failOn]
  cases hfault : faultFailure? fault with
  | some other =>
    rw [hfault, Option.some_or] at hfails
    rw [Option.some.inj hfails]
  | none =>
    rw [hfault, Option.none_or] at hfails
    dsimp only
    cases hrename : (file.drafted tasks session.tree session.directory).rename session.directory
        file.draftPath file.path with
    | ok result => simp [hrename, refusal?] at hfails
    | error error =>
      rw [hrename] at hfails
      have hrefused := hwritten.tree.shape.symm.rename_eq_error hrename
      rw [Session.runFrom_rename, hwritten.directory, hrefused]
      rw [← Option.some.inj hfails]

/-- A session after the draft took the place of the file, over the files of a tree but for what was
    logged. A log file that was replaced is lost. -/
structure Publishes (file : TaskFile) (tasks : TaskList) (tree : FileTree)
    (before after : Session) : Prop where
  directory : after.directory = before.directory
  routing : after.routing = before.routing.follow (file.draftPath.place before.directory)
    (file.path.place before.directory)
  tree : after.tree.AgreesExcept before.logPlaces (file.published tasks tree before.directory)
  content : after.tree.get? (file.path.place before.directory) = some (.file tasks.content)

namespace Publishes

variable {tasks : TaskList} {tree : FileTree} {before after : Session}

theorem continues (hpublishes : file.Publishes tasks tree before after)
    (hapart : before.LogsApart file) :
    before.Continues after (file.published tasks tree before.directory) :=
  ⟨hpublishes.directory,
    hpublishes.routing.trans (Log.Routing.follow_of_not_mem hapart.draft hapart.target),
    hpublishes.tree⟩

/-- What is logged then goes to log files that were open before, and not to the file. -/
theorem issue (hpublishes : file.Publishes tasks tree before after)
    (hlog : file.draftPath.place before.directory ∉ before.logPlaces) (record : Log.Record) :
    file.Publishes tasks tree before (after.issue record) := by
  have hissued := after.continues_issue record
  have hplaces {place : Location} (hplace : place ∈ after.logPlaces) :
      place ∈ before.logPlaces ∧ place ≠ file.path.place before.directory := by
    rw [Session.logPlaces, hpublishes.routing] at hplace
    exact Log.Routing.mem_places_follow hlog hplace
  refine ⟨hissued.directory.trans hpublishes.directory,
    hissued.routing.trans hpublishes.routing, ?_, ?_⟩
  · exact (hissued.tree.mono fun _ hplace => (hplaces hplace).1).trans hpublishes.tree
  · rw [hissued.tree.entries _ fun hplace => (hplaces hplace).2 rfl, hpublishes.content]

end Publishes

theorem runFrom_replace_of_none {fault : Option String} {tasks : TaskList} {written : Session}
    (hname : file.path.name ≠ "")
    (hlog : file.draftPath.place session.directory ∉ session.logPlaces)
    (hwritten : session.Continues written (file.drafted tasks session.tree session.directory))
    (hworks : file.replacingFailure? fault (file.drafted tasks session.tree session.directory)
      session.directory = none) :
    ∃ after, (file.replace fault).runFrom written = (.ok (), after) ∧
      file.Publishes tasks session.tree session after ∧
      session.tree.Leads session.directory file.path ∧
      session.tree.get? (file.path.place session.directory) ≠ some .directory := by
  rw [replacingFailure?, Option.orElse_eq_orElse, Option.orElse_eq_or,
    Option.or_eq_none_iff] at hworks
  obtain ⟨hfault, hrename⟩ := hworks
  cases hdone : (file.drafted tasks session.tree session.directory).rename session.directory
      file.draftPath file.path with
  | error error => simp [hdone, refusal?] at hrename
  | ok result =>
    obtain ⟨-, hdraft, htarget, -, hgoal, hdraftFixed, htargetFixed, -⟩ :=
      FileTree.rename_eq_ok hdone
    -- The rename was worked out on the tree without what was logged meanwhile. It does the same
    -- on the actual one, which has directories and files at the same places.
    have hshape := hwritten.tree.shape.symm
    have hwrittenDraft : written.tree.get? (file.draftPath.place session.directory) =
        some (.file tasks.content) := by
      rw [hwritten.tree.entries _ hlog, get?_drafted_draft]
    have hwrittenGoal : written.tree.get? (file.path.place session.directory) ≠
        some .directory := by
      rwa [ne_eq, ← hshape.get?_eq_directory_iff]
    have hmoved := FileTree.rename_of_leads (hshape.leads hdraft) (hshape.leads htarget)
      hwrittenDraft hwrittenGoal hdraftFixed htargetFixed
    have hroot : file.path.place session.directory ≠ [] := by
      intro hroot
      simp [hroot] at hgoal
    refine ⟨{ written with
        tree := (written.tree.erase (file.draftPath.place session.directory)).put
          (file.path.place session.directory) (.file tasks.content),
        routing := written.routing.follow (file.draftPath.place session.directory)
          (file.path.place session.directory) },
      ?_, ⟨hwritten.directory, ?_, ?_, FileTree.get?_put_self hroot _⟩, ?_, ?_⟩
    · rw [replace, Attempt.runFrom_bind, runFrom_failOn, hfault]
      dsimp only
      rw [Session.runFrom_rename, hwritten.directory, hmoved]
    · rw [hwritten.routing]
    · have herased := file.erase_drafted_agreesExcept session.tree session.directory tasks
        session.logPlaces
      exact ((hwritten.tree.erase _).trans herased).put _ _
    · exact (keepsDirectories_of_drafted session.tree session.directory tasks).leads htarget
    · rwa [get?_drafted tasks (place_ne_draft hname _)] at hgoal

/-- Once the draft is open, it is filled. If all tasks could be written there, it holds their lines
    and takes the place of the file. -/
theorem runFrom_writeThrough
    (hlog : file.draftPath.place session.directory ∉ session.logPlaces)
    (hopens : file.openingFailure? faults.opening session.tree session.directory = none) :
    ∃ written content,
      session.Continues written
        (session.tree.put (file.draftPath.place session.directory) (.file content)) ∧
      (writingFailure? source = none → content = TaskList.content source.tasks) ∧
      (file.writeThrough file.draftPath source faults).runFrom session =
        match writingFailure? source with
        | some failure => (.error failure, written)
        | none =>
          (do
            failOn faults.sync
            file.replace faults.replacing : Attempt Unit).runFrom written := by
  obtain ⟨-, -, hopen⟩ := runFrom_openDraft_of_none hopens
  obtain ⟨written, htake, hwritten⟩ := runFrom_take_ofTasks hlog source
  have hfailure : (Writing.ofTasks source.failure {} source.tasks).failure =
      writingFailure? source :=
    (Writing.failure_ofTasks source.failure source.tasks {}).trans (writingFailure?_eq source).symm
  refine ⟨written, _, hwritten, ?_, ?_⟩
  · intro hwrites
    exact Writing.bytes_ofTasks (writingFailure?_eq_none_iff.mp hwrites).1 {}
  · rw [writeThrough, Attempt.runFrom_bind_of_ok hopen]
    dsimp only
    rw [Attempt.runFrom_bind_of_ok htake, hfailure]
    cases writingFailure? source <;> rfl

/-- Where writing, syncing or replacing fails, the draft is a file and nothing else changed. -/
theorem runFrom_writeThrough_of_failure {failure : Failure}
    (hlog : file.draftPath.place session.directory ∉ session.logPlaces)
    (hopens : file.openingFailure? faults.opening session.tree session.directory = none)
    (hfails : (writingFailure? source <|> faultFailure? faults.sync <|>
      file.replacingFailure? faults.replacing
        (file.drafted source.tasks session.tree session.directory) session.directory) =
          some failure) :
    ∃ after content,
      (file.writeThrough file.draftPath source faults).runFrom session = (.error failure, after) ∧
      session.Continues after
        (session.tree.put (file.draftPath.place session.directory) (.file content)) := by
  obtain ⟨written, content, hwritten, hcontent, hrun⟩ := runFrom_writeThrough hlog hopens
  refine ⟨written, content, hrun.trans ?_, hwritten⟩
  simp only [Option.orElse_eq_orElse, Option.orElse_eq_or] at hfails
  cases hwriting : writingFailure? source with
  | some other =>
    rw [hwriting, Option.some_or] at hfails
    rw [Option.some.inj hfails]
  | none =>
    rw [hwriting, Option.none_or] at hfails
    obtain rfl := hcontent hwriting
    dsimp only
    rw [Attempt.runFrom_bind, runFrom_failOn]
    cases hsync : faultFailure? faults.sync with
    | some other =>
      rw [hsync, Option.some_or] at hfails
      rw [Option.some.inj hfails]
    | none =>
      rw [hsync, Option.none_or] at hfails
      exact runFrom_replace_of_failure hwritten hfails

theorem runFrom_writeThrough_of_none (hname : file.path.name ≠ "")
    (hlog : file.draftPath.place session.directory ∉ session.logPlaces)
    (hopens : file.openingFailure? faults.opening session.tree session.directory = none)
    (hworks : (writingFailure? source <|> faultFailure? faults.sync <|>
      file.replacingFailure? faults.replacing
        (file.drafted source.tasks session.tree session.directory) session.directory) = none) :
    ∃ after,
      (file.writeThrough file.draftPath source faults).runFrom session = (.ok (), after) ∧
      file.Publishes source.tasks session.tree session after ∧
      session.tree.Leads session.directory file.path ∧
      session.tree.get? (file.path.place session.directory) ≠ some .directory ∧
      session.tree.get? (file.draftPath.place session.directory) ≠ some .directory := by
  obtain ⟨-, hfree, -⟩ := runFrom_openDraft_of_none hopens
  obtain ⟨written, content, hwritten, hcontent, hrun⟩ := runFrom_writeThrough hlog hopens
  simp only [Option.orElse_eq_orElse, Option.orElse_eq_or, Option.or_eq_none_iff] at hworks
  obtain ⟨hwriting, hsync, hreplacing⟩ := hworks
  obtain rfl := hcontent hwriting
  obtain ⟨after, hreplace, hafter, hleads, hgoal⟩ :=
    runFrom_replace_of_none hname hlog hwritten hreplacing
  refine ⟨after, hrun.trans ?_, hafter, hleads, hgoal, hfree⟩
  rw [hwriting]
  dsimp only
  rw [Attempt.runFrom_bind, runFrom_failOn, hsync]
  exact hreplace

end TaskFile

end Checklist
