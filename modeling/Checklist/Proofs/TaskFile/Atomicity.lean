import Checklist.Proofs.TaskFile.Atomic

namespace Checklist.TaskFile

variable {file : TaskFile} {source : TaskSource} {faults : SaveFaults} {before after : Session}

/-- What a save that succeeds leaves: the lines of the tasks as the content of the file, no draft,
    and everything else as it was, but that directories on the way may have been made. -/
structure Saved (file : TaskFile) (tasks : TaskList) (before after : Session) : Prop where
  content : after.tree.read before.directory file.path = .ok tasks.content
  draft : ¬ after.Sees file.draftPath
  others : ∀ place, place ≠ file.path.place before.directory →
    place ≠ file.draftPath.place before.directory → place ∉ before.logPlaces →
      FileTree.KeptAt file.path.parent before.directory before.tree after.tree place

/-- What a save leaves that failed at a step. The file is as it was. It can only have come into
    being as a directory on the way of its own path, which takes two dots. The draft is not left
    over unless its deletion failed, or a directory stood in its place. -/
structure Unsaved (file : TaskFile) (faults : SaveFaults) (step : SaveStep)
    (before after : Session) : Prop where
  kept : ∀ place, place ≠ file.draftPath.place before.directory → place ∉ before.logPlaces →
    FileTree.KeptAt file.path.parent before.directory before.tree after.tree place
  target : ".." ∉ file.path.parts → after.tree.get? (file.path.place before.directory) =
    before.tree.get? (file.path.place before.directory)
  early : step = .parents →
    FileTree.GrewAlong file.path.parent before.directory before.tree after.tree
  draft : step ≠ .parents → faults.cleanup = none →
    (file.rooted before.tree before.directory).get? (file.draftPath.place before.directory) ≠
      some .directory → ¬ after.Sees file.draftPath

theorem grewAlong_rooted (file : TaskFile) (tree : FileTree) (directory : Location) :
    FileTree.GrewAlong file.path.parent directory tree (file.rooted tree directory) :=
  FileTree.grewAlong_makeDirectories _ _ _

/-- Putting the draft in place of the file costs no directory. -/
theorem keepsDirectories_published {tree : FileTree} {directory : Location} (tasks : TaskList)
    (htarget : tree.get? (file.path.place directory) ≠ some .directory)
    (hdraft : tree.get? (file.draftPath.place directory) ≠ some .directory) :
    tree.KeepsDirectories (file.published tasks tree directory) := by
  intro place hplace
  by_cases hroot : place = []
  · simp [hroot]
  · have hne : place ≠ file.path.place directory := by
      rintro rfl
      exact htarget hplace
    have hneDraft : place ≠ file.draftPath.place directory := by
      rintro rfl
      exact hdraft hplace
    rw [published, FileTree.get?_put _ _ hroot, if_neg hne, FileTree.get?_erase _ hroot,
      if_neg hneDraft, hplace]

theorem get?_published {tree : FileTree} {directory place : Location} (tasks : TaskList)
    (htarget : place ≠ file.path.place directory)
    (hdraft : place ≠ file.draftPath.place directory) :
    (file.published tasks tree directory).get? place = tree.get? place := by
  by_cases hroot : place = []
  · simp [hroot]
  · rw [published, FileTree.get?_put _ _ hroot, if_neg htarget, FileTree.get?_erase _ hroot,
      if_neg hdraft]

theorem read_published {tree : FileTree} {tasks : TaskList}
    (hafter : file.Publishes tasks tree before after)
    (hleads : tree.Leads before.directory file.path)
    (htarget : tree.get? (file.path.place before.directory) ≠ some .directory)
    (hdraft : tree.get? (file.draftPath.place before.directory) ≠ some .directory) :
    after.tree.read before.directory file.path = .ok tasks.content := by
  have hpublished := (keepsDirectories_published tasks htarget hdraft).leads hleads
  exact FileTree.read_eq_ok_iff.mpr ⟨hafter.tree.shape.symm.leads hpublished, hafter.content⟩

theorem saved_of_publishes {tasks : TaskList} (hname : file.path.name ≠ "")
    (hlog : file.draftPath.place before.directory ∉ before.logPlaces)
    (hafter : file.Publishes tasks (file.rooted before.tree before.directory) before after)
    (hleads : (file.rooted before.tree before.directory).Leads before.directory file.path)
    (htarget : (file.rooted before.tree before.directory).get?
      (file.path.place before.directory) ≠ some .directory)
    (hdraft : (file.rooted before.tree before.directory).get?
      (file.draftPath.place before.directory) ≠ some .directory) :
    file.Saved tasks before after := by
  refine ⟨read_published hafter hleads htarget hdraft, ?_, ?_⟩
  · rintro ⟨entry, hpeek⟩
    have hget := (FileTree.peek?_eq_some_iff.mp hpeek).2
    have hroot := file.place_draftPath_ne_nil before.directory
    have hne := (place_ne_draft hname before.directory).symm
    rw [hafter.directory, hafter.tree.entries _ hlog, published,
      FileTree.get?_put _ _ hroot, if_neg hne, FileTree.get?_erase _ hroot, if_pos rfl] at hget
    cases hget
  · intro place hplace hplaceDraft hlog
    rw [FileTree.KeptAt, hafter.tree.entries place hlog, get?_published tasks hplace hplaceDraft]
    exact file.grewAlong_rooted before.tree before.directory place

/-- Where the entries beyond the draft are those that were there once the directory was, the file
    was not saved. -/
theorem unsaved_of_kept {step : SaveStep} (hname : file.path.name ≠ "")
    (hapart : before.LogsApart file)
    (hkept : ∀ place, place ≠ file.draftPath.place before.directory →
      place ∉ before.logPlaces →
        FileTree.KeptAt file.path.parent before.directory before.tree after.tree place)
    (hearly : step = .parents →
      FileTree.GrewAlong file.path.parent before.directory before.tree after.tree)
    (hdraft : step ≠ .parents → faults.cleanup = none →
      (file.rooted before.tree before.directory).get? (file.draftPath.place before.directory) ≠
        some .directory → ¬ after.Sees file.draftPath) :
    file.Unsaved faults step before after := by
  refine ⟨hkept, ?_, hearly, hdraft⟩
  intro hdots
  rcases hkept _ (place_ne_draft hname _) hapart.target with hsame | ⟨-, -, hpasses⟩
  · exact hsame
  · exact absurd hpasses (Path.not_passes_place (Path.parts_ne_nil hname) hdots _)

theorem failure_eq_none_of_later {tree : FileTree} {directory : Location}
    (hworks : file.laterFailure? source faults tree directory = none) : source.failure = none := by
  simp only [laterFailure?, Option.orElse_eq_orElse, Option.orElse_eq_or,
    Option.or_eq_none_iff] at hworks
  exact (writingFailure?_eq_none_iff.mp hworks.2.1).2

/-- A save either does all it should or fails as its first failing step does. -/
theorem save_atomic (faults : SaveFaults) (source : TaskSource) {file : TaskFile}
    {before : Session} (hname : file.path.name ≠ "") (hapart : before.LogsApart file) :
    ∃ outcome after, (file.save source faults).runFrom before = (outcome, after) ∧
      match file.firstFailure? source faults before.tree before.directory with
      | none => outcome = .ok () ∧ source.failure = none ∧ file.Saved source.tasks before after
      | some (step, failure) =>
        outcome = .error failure ∧ file.Unsaved faults step before after := by
  cases hfirst : file.firstFailure? source faults before.tree before.directory with
  | none =>
    obtain ⟨hparents, hworks⟩ := firstFailure?_eq_none hfirst
    obtain ⟨after, hrun, hafter, hleads, htarget, hdraft⟩ :=
      runFrom_save_of_none hname hapart.draft hparents hworks
    exact ⟨_, after, hrun, rfl, failure_eq_none_of_later hworks,
      saved_of_publishes hname hapart.draft hafter hleads htarget hdraft⟩
  | some failed =>
    obtain ⟨step, failure⟩ := failed
    rcases firstFailure?_eq_some hfirst with ⟨rfl, hparents⟩ | ⟨hstep, hparents, hlater⟩
    · obtain ⟨after, hrun, -, hgrew⟩ := runFrom_save_of_parents_failure hparents
      refine ⟨_, after, hrun, rfl, ?_⟩
      exact unsaved_of_kept hname hapart (fun place _ _ => hgrew place) (fun _ => hgrew)
        (fun hne => absurd rfl hne)
    · obtain ⟨after, hrun, hclean⟩ := runFrom_save_of_later_failure hname hapart hparents hlater
      refine ⟨_, after, hrun, rfl, ?_⟩
      refine unsaved_of_kept hname hapart ?_ (fun heq => absurd heq hstep) (fun _ => hclean.draft)
      intro place hplace hlog
      rw [FileTree.KeptAt, hclean.entries place hplace hlog]
      exact file.grewAlong_rooted before.tree before.directory place

/-- A save onto a directory fails while it puts the draft in place, and the clean-up fails too. -/
theorem save_atomic_onto_directory :
    let file : TaskFile := { path := ⟨.here, ["t"]⟩ }
    let before : Session := { tree := ⟨[(["t"], .directory)]⟩, directory := [], clock := 0 }
    let faults : SaveFaults := { cleanup := some "busy" }
    ∃ outcome after, (file.save { tasks := [⟨1, "a", false⟩] } faults).runFrom before =
        (outcome, after) ∧
      outcome = .error (.file (.renameRefused .isDirectory file.draftPath file.path)) ∧
      file.Unsaved faults .replacing before after := by
  intro file before faults
  have hapart : before.LogsApart file := ⟨by decide, by decide⟩
  have hfirst : file.firstFailure? { tasks := [⟨1, "a", false⟩] } faults before.tree
      before.directory =
        some (.replacing, .file (.renameRefused .isDirectory file.draftPath file.path)) := by
    decide +kernel
  have h := save_atomic faults { tasks := [⟨1, "a", false⟩] } (by decide) hapart
  rwa [hfirst] at h

/-- The two things that a save can do to the file when it should leave it alone. Through two dots
    its path can lead to a directory on its way, which is made before the save fails. And records
    of the save can get into the file where the log is open at the place of its draft. -/
theorem save_not_atomic :
    (let file : TaskFile := { path := ⟨.here, ["x", "..", "x"]⟩ }
      let before : Session := { tree := {}, directory := [], clock := 0 }
      let result := (file.save { tasks := [] }).runFrom before
      result.1 = .error (.file (.renameRefused .isDirectory file.draftPath file.path)) ∧
        before.tree.get? (file.path.place []) = none ∧
        result.2.tree.get? (file.path.place []) = some .directory) ∧
    (let file : TaskFile := { path := ⟨.here, ["t"]⟩ }
      let routing : Log.Routing :=
        { level := Log.debug
          handlers := [⟨Log.warning, .console⟩, ⟨Log.debug, .file (some ["t.tmp"])⟩] }
      let before : Session :=
        { tree := ⟨[(["t.tmp"], .file [])]⟩, directory := [], clock := 0,
          routing }
      let result := (file.save { tasks := [] }).runFrom before
      result.1 = .ok () ∧
        result.2.tree.get? (file.path.place []) ≠ some (.file (TaskList.content []))) :=
  ⟨⟨rfl, by decide, by decide +kernel⟩, rfl, by decide +kernel⟩

end Checklist.TaskFile
