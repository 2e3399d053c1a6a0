import Checklist.Proofs.TaskFile.Loading

namespace Checklist

/-- A directory on the way to the parent of a path cannot be made at its own place without two
    dots. -/
theorem FileTree.KeptAt.get?_place {tree other : FileTree} {directory : Location} {path : Path}
    (hkept : KeptAt path.parent directory tree other (path.place directory))
    (hdots : ".." ∉ path.parts) (hdirectory : tree.get? directory = some .directory) :
    other.get? (path.place directory) = tree.get? (path.place directory) := by
  rcases hkept with hsame | ⟨hnone, -, hpasses⟩
  · exact hsame
  · by_cases hparts : path.parts = []
    -- A path without parts leads to a directory that is there already.
    · rw [Path.place, hparts, follow_nil, Path.start] at hnone
      split at hnone
      · rw [hdirectory] at hnone
        cases hnone
      · simp at hnone
    · exact absurd hpasses (Path.not_passes_place hparts hdots directory)

namespace TaskFile

variable {file : TaskFile} {tree middle other : FileTree} {directory : Location}

/-- What a failure leaves of the files. The tasks are as they were, and so is everything else but
    for directories on the way that were made, and a left-over draft that was deleted. -/
structure Undisturbed (file : TaskFile) (directory : Location) (tree other : FileTree) : Prop where
  target : ".." ∉ file.path.parts → tree.get? directory = some .directory →
    other.get? (file.path.place directory) = tree.get? (file.path.place directory)
  others : ∀ place, place ≠ file.draftPath.place directory →
    FileTree.KeptAt file.path.parent directory tree other place
  draft : FileTree.KeptAt file.path.parent directory tree other (file.draftPath.place directory) ∨
    (∃ content, tree.get? (file.draftPath.place directory) = some (.file content)) ∧
      other.get? (file.draftPath.place directory) = none

namespace Undisturbed

theorem of_grewAlong (hgrew : FileTree.GrewAlong file.path.parent directory tree other) :
    file.Undisturbed directory tree other :=
  ⟨(hgrew _).get?_place, fun place _ => hgrew place, .inl (hgrew _)⟩

/-- Directories may have been made on the way before. -/
theorem of_grown (hgrew : FileTree.GrewAlong file.path.parent directory tree middle)
    (hafter : file.Undisturbed directory middle other) : file.Undisturbed directory tree other := by
  refine ⟨?_, fun place hplace => (hgrew place).trans (hafter.others place hplace), ?_⟩
  · intro hdots hdirectory
    rw [hafter.target hdots (hgrew.keepsDirectories _ hdirectory),
      (hgrew _).get?_place hdots hdirectory]
  · rcases hafter.draft with hkept | ⟨⟨content, hfile⟩, hgone⟩
    · exact .inl ((hgrew _).trans hkept)
    · rcases hgrew (file.draftPath.place directory) with hsame | ⟨-, hmade, -⟩
      · exact .inr ⟨⟨content, hsame ▸ hfile⟩, hgone⟩
      · rw [hmade] at hfile
        cases hfile

/-- A save whose clean-up nothing interferes with leaves no draft of its own. -/
theorem of_cleanedUp {session after : Session} (hname : file.path.name ≠ "")
    (hquiet : session.logPlaces = []) (hclean : file.CleanedUp {} session after) :
    file.Undisturbed session.directory session.tree after.tree := by
  have hothers : ∀ place, place ≠ file.draftPath.place session.directory →
      FileTree.KeptAt file.path.parent session.directory session.tree after.tree place :=
    fun place hplace => .inl (hclean.entries place hplace (by simp [hquiet]))
  refine ⟨(hothers _ (place_ne_draft hname _)).get?_place, hothers, ?_⟩
  rcases hclean.kept rfl with hsame | hdeleted
  · exact .inl (.inl hsame)
  · exact .inr hdeleted

end Undisturbed

end TaskFile

namespace Session

variable {file : TaskFile} {session loaded after : Session} {failure : Failure}

/-- A session that goes on from another one after a failure that left the files undisturbed. -/
structure Keeps (before : Session) (file : TaskFile) (after : Session) : Prop where
  self : before.Continues after after.tree
  tree : file.Undisturbed before.directory before.tree after.tree

theorem Keeps.refl (session : Session) (file : TaskFile) : session.Keeps file session :=
  ⟨.refl session, .of_grewAlong (.refl _ _ _)⟩

/-- Without a log file, a record changes no file. -/
theorem Keeps.of_issue {record : Log.Record} (hquiet : session.logPlaces = [])
    (hkeeps : (session.issue record).Keeps file after) : session.Keeps file after := by
  have hissued := session.continues_issue record
  refine ⟨hissued.self.trans hkeeps.self, ?_⟩
  rw [← tree_issue hquiet record, ← hissued.directory]
  exact hkeeps.tree

end Session

namespace TaskFile

variable {file : TaskFile} {tasks : TaskList} {session loaded after : Session} {failure : Failure}

theorem runFrom_save_of_no_name (hname : file.path.name = "")
    (hparents : file.stepFailure? { tasks } {} session.tree session.directory .parents = none) :
    (file.save { tasks }).runFrom session = (.error (.emptyName file.path),
      { session with tree := file.rooted session.tree session.directory }) := by
  have hmake : refusal? (session.tree.makeDirectories session.directory file.path.parent).2 =
      none := by simpa [stepFailure?, faultFailure?] using hparents
  rw [save, Attempt.runFrom_bind, runFrom_failOn]
  dsimp only [faultFailure?, Option.map_none]
  rw [Attempt.runFrom_bind, runFrom_ensureDirectory]
  cases hmade : (session.tree.makeDirectories session.directory file.path.parent).2 with
  | error error => simp [hmade, refusal?] at hmake
  | ok made =>
    dsimp only [FileTree.mapError_ok]
    rw [Attempt.runFrom_bind, draft, draft?, Path.withName?, if_pos hname]
    rfl

/-- A save that fails without a fault of the clean-up leaves the files undisturbed. -/
theorem keeps_of_save_failure (hquiet : session.logPlaces = [])
    (hsave : (file.save { tasks }).runFrom session = (.error failure, after)) :
    session.Keeps file after := by
  let rooted : Session := { session with tree := file.rooted session.tree session.directory }
  have hgrew := file.grewAlong_rooted session.tree session.directory
  cases hparents : file.stepFailure? { tasks } {} session.tree session.directory .parents with
  | some first =>
    obtain ⟨other, hrun, hother, hgrown⟩ := runFrom_save_of_parents_failure hparents
    obtain rfl := (Prod.mk.inj (hrun.symm.trans hsave)).2
    exact ⟨hother, .of_grewAlong hgrown⟩
  | none =>
    by_cases hname : file.path.name = ""
    · have hrun := runFrom_save_of_no_name hname hparents
      obtain rfl := (Prod.mk.inj (hrun.symm.trans hsave)).2
      exact ⟨⟨rfl, rfl, .refl _ _⟩, .of_grewAlong hgrew⟩
    · have hapart : session.LogsApart file := ⟨by simp [hquiet], by simp [hquiet]⟩
      cases hlater : file.laterFailure? { tasks } {}
          (file.rooted session.tree session.directory) session.directory with
      | some first =>
        obtain ⟨other, hrun, hclean⟩ :=
          runFrom_save_of_later_failure hname hapart hparents hlater
        obtain rfl := (Prod.mk.inj (hrun.symm.trans hsave)).2
        have hundone := Undisturbed.of_cleanedUp hname (show rooted.logPlaces = [] from hquiet)
          hclean
        exact ⟨⟨hclean.directory, hclean.routing, .refl _ _⟩, .of_grown hgrew hundone⟩
      | none =>
        obtain ⟨other, hrun, -⟩ := runFrom_save_of_none hname hapart.draft hparents hlater
        rw [hrun] at hsave
        cases hsave

/-- A computation that starts with a load leaves the files undisturbed where it fails, if what comes
    after the load does so. -/
theorem keeps_of_load_bind {α : Type} {next : List Task → Attempt α}
    (hquiet : session.logPlaces = [])
    (hnext : ∀ tasks loaded, loaded.logPlaces = [] →
      (next tasks).runFrom loaded = (.error failure, after) → loaded.Keeps file after)
    (hrun : (file.load >>= next).runFrom session = (.error failure, after)) :
    session.Keeps file after := by
  obtain ⟨loaded, hload, hloaded⟩ := file.runFrom_load session
  have hgrew : FileTree.GrewAlong file.path.parent session.directory session.tree loaded.tree := by
    intro place
    rw [FileTree.KeptAt, hloaded.tree.entries place (by simp [hquiet])]
    exact file.grewAlong_rooted session.tree session.directory place
  rcases Attempt.runFrom_bind_eq_error_iff.mp hrun with hfails | ⟨tasks, middle, hok, hafter⟩
  · obtain rfl := (Prod.mk.inj (hload.symm.trans hfails)).2
    exact ⟨hloaded.self, .of_grewAlong hgrew⟩
  · obtain rfl := (Prod.mk.inj (hload.symm.trans hok)).2
    have hkeeps := hnext tasks loaded (hloaded.logPlaces.trans hquiet) hafter
    refine ⟨hloaded.self.trans hkeeps.self, .of_grown hgrew ?_⟩
    rw [← hloaded.directory]
    exact hkeeps.tree

end TaskFile

end Checklist
