import Checklist.Proofs.TaskFile.Saving

namespace Checklist.TaskFile

variable {file : TaskFile} {source : TaskSource} {faults : SaveFaults} {session : Session}

/-- What the clean-up of a save leaves. The draft is gone unless it could not be deleted, and only a
    file can go. -/
structure CleanedUp (file : TaskFile) (faults : SaveFaults) (before after : Session) : Prop where
  directory : after.directory = before.directory
  routing : after.routing = before.routing
  keeps : before.tree.KeepsDirectories after.tree
  entries : ∀ place, place ≠ file.draftPath.place before.directory →
    place ∉ before.logPlaces → after.tree.get? place = before.tree.get? place
  draft : faults.cleanup = none →
    before.tree.get? (file.draftPath.place before.directory) ≠ some .directory →
      ¬ after.Sees file.draftPath
  deleted : faults.cleanup = none → before.tree.Leads before.directory file.draftPath →
    ∀ content, before.tree.get? (file.draftPath.place before.directory) = some (.file content) →
      after.tree.get? (file.draftPath.place before.directory) = none
  kept : faults.cleanup = none →
    after.tree.get? (file.draftPath.place before.directory) =
        before.tree.get? (file.draftPath.place before.directory) ∨
      (∃ content, before.tree.get? (file.draftPath.place before.directory) =
        some (.file content)) ∧
        after.tree.get? (file.draftPath.place before.directory) = none

namespace CleanedUp

variable {after : Session}

/-- Nothing need be deleted where no draft is seen. -/
theorem of_not_sees (hgone : faults.cleanup = none →
    session.tree.get? (file.draftPath.place session.directory) ≠ some .directory →
      ¬ session.Sees file.draftPath) : file.CleanedUp faults session session := by
  refine ⟨rfl, rfl, fun _ => id, fun _ _ _ => rfl, hgone, ?_, fun _ => .inl rfl⟩
  intro hcleanup hleads content hfile
  have hseen : session.Sees file.draftPath :=
    ⟨_, FileTree.peek?_eq_some_iff.mpr ⟨hleads, hfile⟩⟩
  exact absurd hseen (hgone hcleanup (by simp [hfile]))

theorem of_erase (faults : SaveFaults) (hapart : session.LogsApart file)
    (hdeleted : session.Continues after
      (session.tree.erase (file.draftPath.place session.directory)))
    (hfile : ∃ content, session.tree.get? (file.draftPath.place session.directory) =
      some (.file content)) :
    file.CleanedUp faults session after := by
  have hgone : after.tree.get? (file.draftPath.place session.directory) = none := by
    rw [hdeleted.tree.entries _ hapart.draft, FileTree.get?_erase _ (file.place_draftPath_ne_nil _),
      if_pos rfl]
  refine ⟨hdeleted.directory, hdeleted.routing, ?_, ?_, ?_, fun _ _ _ _ => hgone,
    fun _ => .inr ⟨hfile, hgone⟩⟩
  · obtain ⟨content, hfile⟩ := hfile
    have herased := FileTree.keepsDirectories_erase (by rw [hfile]; simp)
    exact herased.trans hdeleted.tree.shape.symm.keepsDirectories
  · intro place hplace hlog
    rw [hdeleted.tree.entries place hlog]
    by_cases hroot : place = []
    · simp [hroot]
    · rw [FileTree.get?_erase _ hroot, if_neg hplace]
  · rintro - - ⟨entry, hpeek⟩
    obtain ⟨-, hget⟩ := FileTree.peek?_eq_some_iff.mp hpeek
    rw [hdeleted.directory, hgone] at hget
    cases hget

/-- Where the draft had been put before, the clean-up undoes that too. -/
theorem of_put {stopped : Session} {content : List UInt8} (hapart : session.LogsApart file)
    (hleads : session.tree.Leads session.directory file.draftPath)
    (hfree : session.tree.get? (file.draftPath.place session.directory) ≠ some .directory)
    (hput : session.Continues stopped
      (session.tree.put (file.draftPath.place session.directory) (.file content)))
    (hclean : file.CleanedUp faults stopped after) : file.CleanedUp faults session after := by
  have hplace : file.draftPath.place stopped.directory =
      file.draftPath.place session.directory := by rw [hput.directory]
  have hdraft : stopped.tree.get? (file.draftPath.place stopped.directory) =
      some (.file content) := by
    rw [hplace, hput.tree.entries _ hapart.draft,
      FileTree.get?_put_self (file.place_draftPath_ne_nil _)]
  have hstopped : session.tree.KeepsDirectories stopped.tree :=
    (FileTree.keepsDirectories_put hfree _).trans hput.tree.shape.symm.keepsDirectories
  have hstoppedLeads : stopped.tree.Leads stopped.directory file.draftPath := by
    rw [hput.directory]
    exact hstopped.leads hleads
  have hdeleted (hcleanup : faults.cleanup = none) :
      after.tree.get? (file.draftPath.place session.directory) = none :=
    hplace ▸ hclean.deleted hcleanup hstoppedLeads content hdraft
  refine ⟨hclean.directory.trans hput.directory, hclean.routing.trans hput.routing, ?_, ?_, ?_,
    fun hcleanup _ _ _ => hdeleted hcleanup, ?_⟩
  · exact hstopped.trans hclean.keeps
  · intro place hother hlog
    have hstoppedLog : place ∉ stopped.logPlaces := hput.logPlaces ▸ hlog
    rw [hclean.entries place (hplace ▸ hother) hstoppedLog, hput.tree.entries place hlog]
    by_cases hroot : place = []
    · simp [hroot]
    · rw [FileTree.get?_put _ _ hroot, if_neg hother]
  · intro hcleanup _
    exact hclean.draft hcleanup (by rw [hdraft]; simp)
  · intro hcleanup
    rw [hdeleted hcleanup]
    cases hbefore : session.tree.get? (file.draftPath.place session.directory) with
    | none => exact .inl rfl
    | some entry =>
      cases entry with
      | directory => exact absurd hbefore hfree
      | file old => exact .inr ⟨⟨old, rfl⟩, rfl⟩

end CleanedUp

/-- Deleting a draft at a path with a NUL fails, with the fault or as every use of the path does,
    and only the fault is ignored. -/
theorem runFrom_cleanUp_of_hasNul (faults : SaveFaults) (session : Session)
    (hnul : file.draftPath.hasNul = true) :
    (do discard file.draftPath faults; throw (.file .nulInPath) : Attempt Unit).runFrom session =
      (.error (.file .nulInPath), session) := by
  have hunlink : session.tree.unlink session.directory file.draftPath = .error .nulInPath := by
    rw [FileTree.unlink, FileTree.atPath, if_pos hnul]
  rw [Attempt.runFrom_bind, discard, Attempt.runFrom_tryCatch, Attempt.runFrom_bind,
    runFrom_failOn]
  cases faults.cleanup with
  | some message => rfl
  | none =>
    dsimp only [faultFailure?, Option.map_none]
    rw [Session.runFrom_unlink, hunlink]
    rfl

/-- The clean-up hands on the failure that made it necessary. It can fail on its own only at a path
    with a NUL, and then it fails as opening the draft did. -/
theorem runFrom_cleanUp {failure : Failure} (faults : SaveFaults) (hapart : session.LogsApart file)
    (hnul : file.draftPath.hasNul = true → failure = .file .nulInPath) :
    ∃ after,
      (do discard file.draftPath faults; throw failure : Attempt Unit).runFrom session =
        (.error failure, after) ∧ file.CleanedUp faults session after := by
  cases hhas : file.draftPath.hasNul with
  | true =>
    refine ⟨session, hnul hhas ▸ runFrom_cleanUp_of_hasNul faults session hhas, .of_not_sees ?_⟩
    rintro - - ⟨entry, hpeek⟩
    have hleads := (FileTree.peek?_eq_some_iff.mp hpeek).1
    rw [hleads.noNul] at hhas
    cases hhas
  | false =>
    obtain ⟨after, hrun, hafter⟩ := runFrom_discard_of_noNul faults hhas hapart
    refine ⟨after, ?_, ?_⟩
    · rw [Attempt.runFrom_bind_of_ok hrun, Attempt.runFrom_throw]
    · rcases hafter with ⟨hdeleted, hfile⟩ | ⟨rfl, hkept⟩
      · exact .of_erase faults hapart hdeleted hfile
      · refine .of_not_sees ?_
        rintro hcleanup hfree ⟨entry, hpeek⟩
        cases entry with
        | directory => exact hfree (FileTree.peek?_eq_some_iff.mp hpeek).2
        | file content => exact hkept hcleanup content hpeek

theorem runFrom_ensureDirectory (file : TaskFile) (session : Session) :
    file.ensureDirectory.runFrom session =
      ((session.tree.makeDirectories session.directory file.path.parent).2.mapError .file,
        { session with tree := file.rooted session.tree session.directory }) :=
  Session.runFrom_makeDirectories _ _

/-- Where the directory cannot be made, directories on the way to it are all that a save adds. -/
theorem runFrom_save_of_parents_failure {failure : Failure}
    (hfails : file.stepFailure? source faults session.tree session.directory .parents =
      some failure) :
    ∃ after, (file.save source faults).runFrom session = (.error failure, after) ∧
      session.Continues after after.tree ∧
      FileTree.GrewAlong file.path.parent session.directory session.tree after.tree := by
  simp only [stepFailure?, Option.orElse_eq_orElse, Option.orElse_eq_or] at hfails
  rw [save, Attempt.runFrom_bind, runFrom_failOn]
  cases hfault : faultFailure? faults.parents with
  | some other =>
    rw [hfault, Option.some_or] at hfails
    rw [Option.some.inj hfails]
    exact ⟨session, rfl, .refl _, .refl _ _ _⟩
  | none =>
    rw [hfault, Option.none_or] at hfails
    dsimp only
    rw [Attempt.runFrom_bind, runFrom_ensureDirectory]
    cases hmake : (session.tree.makeDirectories session.directory file.path.parent).2 with
    | ok made => simp [hmake, refusal?] at hfails
    | error error =>
      rw [hmake] at hfails
      rw [← Option.some.inj hfails]
      exact ⟨_, rfl, ⟨rfl, rfl, .refl _ _⟩, FileTree.grewAlong_makeDirectories _ _ _⟩

/-- Once the directory is there, a save writes the draft and puts it in place, or cleans up. -/
theorem runFrom_save_of_parents (hname : file.path.name ≠ "")
    (hparents : file.stepFailure? source faults session.tree session.directory .parents = none) :
    (file.save source faults).runFrom session =
      (do
        tryCatch (file.writeThrough file.draftPath source faults) fun failure => do
          discard file.draftPath faults
          throw failure
        Session.log (file.savedRecord source.tasks.length) : Attempt Unit).runFrom
        { session with tree := file.rooted session.tree session.directory } := by
  simp only [stepFailure?, Option.orElse_eq_orElse, Option.orElse_eq_or,
    Option.or_eq_none_iff] at hparents
  obtain ⟨hfault, hmake⟩ := hparents
  rw [save, Attempt.runFrom_bind, runFrom_failOn, hfault]
  dsimp only
  rw [Attempt.runFrom_bind, runFrom_ensureDirectory]
  cases hmade : (session.tree.makeDirectories session.directory file.path.parent).2 with
  | error error => simp [hmade, refusal?] at hmake
  | ok made =>
    dsimp only [FileTree.mapError_ok]
    rw [Attempt.runFrom_bind_of_ok (runFrom_draft hname _)]

/-- How a save fails once the directory is there, if it does. -/
def laterFailure? (file : TaskFile) (source : TaskSource) (faults : SaveFaults) (tree : FileTree)
    (directory : Location) : Option Failure :=
  file.openingFailure? faults.opening tree directory <|> writingFailure? source <|>
    faultFailure? faults.sync <|>
    file.replacingFailure? faults.replacing (file.drafted source.tasks tree directory) directory

/-- A save that fails later changes nothing any more but the draft, and deletes that if it can. -/
theorem runFrom_save_of_later_failure {failure : Failure} (hname : file.path.name ≠ "")
    (hapart : session.LogsApart file)
    (hparents : file.stepFailure? source faults session.tree session.directory .parents = none)
    (hfails : file.laterFailure? source faults (file.rooted session.tree session.directory)
      session.directory = some failure) :
    ∃ after, (file.save source faults).runFrom session = (.error failure, after) ∧
      file.CleanedUp faults
        { session with tree := file.rooted session.tree session.directory } after := by
  let rooted : Session := { session with tree := file.rooted session.tree session.directory }
  have hrootedApart : rooted.LogsApart file := ⟨hapart.target, hapart.draft⟩
  rw [runFrom_save_of_parents hname hparents, Attempt.runFrom_bind, Attempt.runFrom_tryCatch]
  unfold laterFailure? at hfails
  rw [Option.orElse_eq_orElse, Option.orElse_eq_or] at hfails
  cases hopening : file.openingFailure? faults.opening rooted.tree rooted.directory with
  | some other =>
    rw [hopening, Option.some_or] at hfails
    obtain rfl := Option.some.inj hfails
    have hthrough : (file.writeThrough file.draftPath source faults).runFrom rooted =
        (.error other, rooted) := by
      rw [writeThrough, Attempt.runFrom_bind_of_error (runFrom_openDraft_of_failure hopening)]
    -- Nothing was written yet. Even so the clean-up tries to delete what stands there.
    have hnul : file.draftPath.hasNul = true → other = .file .nulInPath := by
      intro hhas
      rw [openingFailure?_of_hasNul hhas] at hopening
      exact (Option.some.inj hopening).symm
    obtain ⟨after, hclean, hafter⟩ := runFrom_cleanUp faults hrootedApart hnul
    refine ⟨after, ?_, hafter⟩
    rw [hthrough]
    dsimp only
    rw [hclean]
  | none =>
    rw [hopening, Option.none_or] at hfails
    -- The draft was opened, so its path has no NUL.
    have hnul : file.draftPath.hasNul = true → failure = .file .nulInPath := by
      intro hhas
      rw [openingFailure?_of_hasNul hhas] at hopening
      cases hopening
    obtain ⟨stopped, content, hthrough, hstopped⟩ :=
      runFrom_writeThrough_of_failure hrootedApart.draft hopening hfails
    obtain ⟨after, hclean, hafter⟩ :=
      runFrom_cleanUp faults (hstopped.logsApart hrootedApart) hnul
    obtain ⟨hdraftLeads, hdraftFree, -⟩ := runFrom_openDraft_of_none hopening
    refine ⟨after, ?_, .of_put hrootedApart hdraftLeads hdraftFree hstopped hafter⟩
    rw [hthrough]
    dsimp only
    rw [hclean]

/-- Where no step fails, the draft takes the place of the file. That needs no log file to be apart
    from the file, but one that is open there is lost. -/
theorem runFrom_save_of_none (hname : file.path.name ≠ "")
    (hlog : file.draftPath.place session.directory ∉ session.logPlaces)
    (hparents : file.stepFailure? source faults session.tree session.directory .parents = none)
    (hworks : file.laterFailure? source faults (file.rooted session.tree session.directory)
      session.directory = none) :
    ∃ after, (file.save source faults).runFrom session = (.ok (), after) ∧
      file.Publishes source.tasks (file.rooted session.tree session.directory) session after ∧
      (file.rooted session.tree session.directory).Leads session.directory file.path ∧
      (file.rooted session.tree session.directory).get? (file.path.place session.directory) ≠
        some .directory ∧
      (file.rooted session.tree session.directory).get? (file.draftPath.place session.directory) ≠
        some .directory := by
  let rooted : Session := { session with tree := file.rooted session.tree session.directory }
  have hrootedLog : file.draftPath.place rooted.directory ∉ rooted.logPlaces := hlog
  rw [runFrom_save_of_parents hname hparents, Attempt.runFrom_bind, Attempt.runFrom_tryCatch]
  unfold laterFailure? at hworks
  rw [Option.orElse_eq_orElse, Option.orElse_eq_or, Option.or_eq_none_iff] at hworks
  obtain ⟨published, hthrough, hpublished, hleads, hgoal, hdraft⟩ :=
    runFrom_writeThrough_of_none hname hrootedLog hworks.1 hworks.2
  have hbefore : file.Publishes source.tasks (file.rooted session.tree session.directory) session
      published :=
    ⟨hpublished.directory, hpublished.routing, hpublished.tree, hpublished.content⟩
  refine ⟨published.issue (file.savedRecord source.tasks.length), ?_, hbefore.issue hlog _, hleads,
    hgoal, hdraft⟩
  rw [hthrough]
  rfl

/-- A step that fails once the directory is there keeps the save from succeeding. -/
theorem laterFailure?_eq_none_of_save {after : Session} (hname : file.path.name ≠ "")
    (hlog : file.draftPath.place session.directory ∉ session.logPlaces)
    (hparents : file.stepFailure? source faults session.tree session.directory .parents = none)
    (hsave : (file.save source faults).runFrom session = (.ok (), after)) :
    file.laterFailure? source faults (file.rooted session.tree session.directory)
      session.directory = none := by
  let rooted : Session := { session with tree := file.rooted session.tree session.directory }
  have hrootedLog : file.draftPath.place rooted.directory ∉ rooted.logPlaces := hlog
  rw [runFrom_save_of_parents hname hparents] at hsave
  obtain ⟨_, published, htry, -⟩ := Attempt.runFrom_bind_eq_ok_iff.mp hsave
  have hfails (failure : Failure) (stopped : Session) : ∃ other,
      ((do discard file.draftPath faults; throw failure : Attempt Unit).runFrom stopped).1 =
        .error other := by
    rw [Attempt.runFrom_bind]
    rcases (discard file.draftPath faults).runFrom stopped with ⟨_ | _, _⟩
    · exact ⟨_, rfl⟩
    · exact ⟨failure, rfl⟩
  have hthrough := Attempt.runFrom_of_tryCatch hfails htry
  rw [laterFailure?, Option.orElse_eq_orElse, Option.orElse_eq_or]
  cases hopening : file.openingFailure? faults.opening rooted.tree rooted.directory with
  | some failure =>
    rw [writeThrough, Attempt.runFrom_bind_of_error (runFrom_openDraft_of_failure hopening)]
      at hthrough
    cases hthrough
  | none =>
    rw [Option.none_or]
    refine Option.eq_none_iff_forall_ne_some.mpr fun failure hlater => ?_
    obtain ⟨stopped, _, hstopped, -⟩ :=
      runFrom_writeThrough_of_failure hrootedLog hopening hlater
    rw [hstopped] at hthrough
    cases hthrough

/-- The first step that gives a failure is one of the steps, and it gives that failure. -/
theorem findSome?_with_step {failures : SaveStep → Option Failure} {steps : List SaveStep}
    {step : SaveStep} {failure : Failure}
    (hfirst : steps.findSome? (fun step => (failures step).map (step, ·)) = some (step, failure)) :
    step ∈ steps ∧ steps.findSome? failures = some failure := by
  induction steps with
  | nil => cases hfirst
  | cons head rest ih =>
    rw [List.findSome?_cons] at hfirst ⊢
    cases hhead : failures head with
    | some other =>
      rw [hhead] at hfirst
      cases hfirst
      exact ⟨List.mem_cons_self, rfl⟩
    | none =>
      rw [hhead] at hfirst
      obtain ⟨hmem, hrest⟩ := ih hfirst
      exact ⟨List.mem_cons_of_mem _ hmem, hrest⟩

theorem findSome?_later (file : TaskFile) (source : TaskSource) (faults : SaveFaults)
    (tree : FileTree) (directory : Location) :
    [SaveStep.opening, .writing, .syncing, .replacing].findSome?
        (file.stepFailure? source faults tree directory) =
      file.laterFailure? source faults (file.rooted tree directory) directory := by
  simp only [List.findSome?_cons, List.findSome?_nil, stepFailure?, laterFailure?,
    Option.orElse_eq_orElse, Option.orElse_eq_or]
  cases file.openingFailure? faults.opening (file.rooted tree directory) directory with
  | some failure => rfl
  | none =>
    cases writingFailure? source with
    | some failure => rfl
    | none =>
      cases faultFailure? faults.sync with
      | some failure => rfl
      | none =>
        cases file.replacingFailure? faults.replacing
          (file.drafted source.tasks (file.rooted tree directory) directory) directory <;> rfl

/-- The first failure is that of making the directory, or that is no failure. -/
theorem firstFailure?_eq_some {step : SaveStep} {failure : Failure} {tree : FileTree}
    {directory : Location}
    (hfirst : file.firstFailure? source faults tree directory = some (step, failure)) :
    step = .parents ∧ file.stepFailure? source faults tree directory .parents = some failure ∨
      step ≠ .parents ∧ file.stepFailure? source faults tree directory .parents = none ∧
        file.laterFailure? source faults (file.rooted tree directory) directory = some failure := by
  rw [firstFailure?, List.findSome?_cons] at hfirst
  cases hparents : file.stepFailure? source faults tree directory .parents with
  | some other =>
    rw [hparents] at hfirst
    cases hfirst
    exact .inl ⟨rfl, rfl⟩
  | none =>
    rw [hparents] at hfirst
    obtain ⟨hmem, hlater⟩ := findSome?_with_step hfirst
    refine .inr ⟨?_, rfl, (findSome?_later ..).symm.trans hlater⟩
    rintro rfl
    simp at hmem

theorem firstFailure?_eq_none {tree : FileTree} {directory : Location}
    (hnone : file.firstFailure? source faults tree directory = none) :
    file.stepFailure? source faults tree directory .parents = none ∧
      file.laterFailure? source faults (file.rooted tree directory) directory = none := by
  simp only [firstFailure?, List.findSome?_eq_none_iff, Option.map_eq_none_iff] at hnone
  refine ⟨hnone .parents (by simp), ?_⟩
  rw [← findSome?_later, List.findSome?_eq_none_iff]
  exact fun step hstep => hnone step (List.mem_cons_of_mem _ hstep)

theorem save_eq_ok {after : Session} (hname : file.path.name ≠ "")
    (hlog : file.draftPath.place session.directory ∉ session.logPlaces)
    (hsave : (file.save source faults).runFrom session = (.ok (), after)) :
    (session.tree.makeDirectories session.directory file.path.parent).2 = .ok () ∧
      file.Publishes source.tasks (file.rooted session.tree session.directory) session after ∧
      (file.rooted session.tree session.directory).Leads session.directory file.path ∧
      (file.rooted session.tree session.directory).get? (file.path.place session.directory) ≠
        some .directory ∧
      (file.rooted session.tree session.directory).get? (file.draftPath.place session.directory) ≠
        some .directory := by
  cases hparents : file.stepFailure? source faults session.tree session.directory .parents with
  | some failure =>
    obtain ⟨other, hrun, -⟩ := runFrom_save_of_parents_failure hparents
    rw [hrun] at hsave
    cases hsave
  | none =>
    have hlater := laterFailure?_eq_none_of_save hname hlog hparents hsave
    obtain ⟨other, hrun, hother⟩ := runFrom_save_of_none hname hlog hparents hlater
    obtain rfl : other = after := by
      rw [hrun] at hsave
      exact (Prod.mk.inj hsave).2
    refine ⟨?_, hother⟩
    simp only [stepFailure?, Option.orElse_eq_orElse, Option.orElse_eq_or,
      Option.or_eq_none_iff] at hparents
    cases hmake : (session.tree.makeDirectories session.directory file.path.parent).2 with
    | error error => simp [hmake, refusal?] at hparents
    | ok made => rfl

end Checklist.TaskFile
