import Checklist.Proofs.TaskFile.Loading

namespace Checklist

namespace TaskFile

variable {file : TaskFile} {tree other : FileTree} {directory : Location}
  {content? : Option (List UInt8)}

/-- Once its directory is there, the file can be created and so can its draft, and the one can be
    moved onto the other. -/
structure Creatable (file : TaskFile) (tree : FileTree) (directory : Location) : Prop where
  parents : (tree.makeDirectories directory file.path.parent).2 = .ok ()
  movable : FileTree.isFixed file.path = false
  target : ∃ made, (file.rooted tree directory).create directory file.path = .ok made
  draft : ∃ made, (file.rooted tree directory).create directory file.draftPath = .ok made

/-- A file with some content, or one that is not there, that nothing keeps from being written. Its
    directory is there. -/
structure Prepared (file : TaskFile) (tree : FileTree) (directory : Location)
    (content? : Option (List UInt8)) : Prop where
  parent : tree.peek? directory file.path.parent = .ok (some .directory)
  movable : FileTree.isFixed file.path = false
  leads : tree.Leads directory file.path
  entry : tree.get? (file.path.place directory) = content?.map .file
  draftLeads : tree.Leads directory file.draftPath
  draftFree : tree.get? (file.draftPath.place directory) ≠ some .directory

/-- Making its directory prepares a file that can be created. -/
theorem Creatable.prepared (hcreatable : file.Creatable tree directory)
    (hentry : tree.get? (file.path.place directory) = content?.map .file) :
    file.Prepared (file.rooted tree directory) directory content? := by
  obtain ⟨hparents, hmovable, ⟨made, htarget⟩, madeDraft, hdraft⟩ := hcreatable
  obtain ⟨hleads, hfree, -⟩ := FileTree.create_eq_ok_iff.mp htarget
  obtain ⟨hdraftLeads, hdraftFree, -⟩ := FileTree.create_eq_ok_iff.mp hdraft
  refine ⟨FileTree.peek?_of_makeDirectories hparents, hmovable, hleads, ?_, hdraftLeads, hdraftFree⟩
  -- Making the directory cannot have put one in place of the file, or the file could not be
  -- created.
  rcases file.grewAlong_rooted tree directory (file.path.place directory) with
    hsame | ⟨-, hmade, -⟩
  · rw [hsame, hentry]
  · exact absurd hmade hfree

/-- What is written to a log does not keep the file from being created. -/
theorem Creatable.of_agrees {spared : List Location} (hcreatable : file.Creatable tree directory)
    (hagrees : other.AgreesExcept spared tree) : file.Creatable other directory := by
  obtain ⟨hparents, hmovable, ⟨made, htarget⟩, madeDraft, hdraft⟩ := hcreatable
  obtain ⟨hparentsOther, hrooted⟩ := hagrees.symm.makeDirectories hparents
  have hshape : (file.rooted tree directory).SameShape (file.rooted other directory) :=
    hrooted.shape
  obtain ⟨hleads, hfree, -⟩ := FileTree.create_eq_ok_iff.mp htarget
  obtain ⟨hdraftLeads, hdraftFree, -⟩ := FileTree.create_eq_ok_iff.mp hdraft
  rw [ne_eq, hshape.get?_eq_directory_iff] at hfree hdraftFree
  exact ⟨hparentsOther, hmovable,
    ⟨_, FileTree.create_eq_ok_iff.mpr ⟨hshape.leads hleads, hfree, rfl⟩⟩,
    ⟨_, FileTree.create_eq_ok_iff.mpr ⟨hshape.leads hdraftLeads, hdraftFree, rfl⟩⟩⟩

namespace Prepared

theorem name_ne (hprepared : file.Prepared tree directory content?) : file.path.name ≠ "" := by
  intro hname
  have hmovable := hprepared.movable
  simp [FileTree.isFixed, hname] at hmovable

theorem free (hprepared : file.Prepared tree directory content?) :
    tree.get? (file.path.place directory) ≠ some .directory := by
  rw [hprepared.entry]
  cases content? <;> simp

theorem shows (hprepared : file.Prepared tree directory content?) :
    file.Shows tree directory content? := by
  refine ⟨hprepared.parent, ?_⟩
  have hentry := hprepared.entry
  cases content? with
  | none => exact hprepared.leads.peek?.trans (congrArg _ hentry)
  | some content => exact FileTree.read_eq_ok_iff.mpr ⟨hprepared.leads, hentry⟩

theorem creatable (hprepared : file.Prepared tree directory content?) :
    file.Creatable tree directory := by
  have hmake := hprepared.shows.makeDirectories
  have hrooted := hprepared.shows.rooted
  refine ⟨by rw [hmake], hprepared.movable, ?_, ?_⟩
  · rw [hrooted]
    exact ⟨_, FileTree.create_eq_ok_iff.mpr ⟨hprepared.leads, hprepared.free, rfl⟩⟩
  · rw [hrooted]
    exact ⟨_, FileTree.create_eq_ok_iff.mpr ⟨hprepared.draftLeads, hprepared.draftFree, rfl⟩⟩

/-- What is written to a log at some other place keeps the file prepared. -/
theorem of_agrees {spared : List Location} (hprepared : file.Prepared tree directory content?)
    (hagrees : other.AgreesExcept spared tree)
    (hspared : file.path.place directory ∉ spared) :
    file.Prepared other directory content? := by
  have hshape := hagrees.shape.symm
  refine ⟨(hprepared.shows.of_agrees hagrees hspared).parent, hprepared.movable,
    hshape.leads hprepared.leads, ?_, hshape.leads hprepared.draftLeads, ?_⟩
  · rw [hagrees.entries _ hspared, hprepared.entry]
  · rw [ne_eq, ← hshape.get?_eq_directory_iff]
    exact hprepared.draftFree

/-- Nothing keeps tasks from being saved to a prepared file but one that cannot be written. -/
theorem laterFailure?_eq (hprepared : file.Prepared tree directory content?) (tasks : TaskList) :
    file.laterFailure? { tasks } {} tree directory =
      tasks.findSome? Task.writingFailure? := by
  have hopening : file.openingFailure? none tree directory = none := by
    have hcreate := FileTree.create_eq_ok_iff.mpr ⟨hprepared.draftLeads, hprepared.draftFree, rfl⟩
    simp [openingFailure?, faultFailure?, refusal?, hcreate]
  have hreplacing : file.replacingFailure? none (file.drafted tasks tree directory) directory =
      none := by
    have hkeeps := keepsDirectories_drafted tasks hprepared.draftFree
    have hfree : (file.drafted tasks tree directory).get? (file.path.place directory) ≠
        some .directory := by
      rw [get?_drafted tasks (place_ne_draft hprepared.name_ne _)]
      exact hprepared.free
    have hrename := FileTree.rename_of_leads (hkeeps.leads hprepared.draftLeads)
      (hkeeps.leads hprepared.leads) (get?_drafted_draft tree directory tasks) hfree
      (isFixed_draftPath file) hprepared.movable
    simp [replacingFailure?, faultFailure?, refusal?, hrename]
  simp [laterFailure?, hopening, hreplacing, faultFailure?, writingFailure?_eq]

end Prepared

variable {session : Session} {tasks : TaskList}

theorem Creatable.stepFailure?_parents
    (hcreatable : file.Creatable session.tree session.directory) (tasks : TaskList) :
    file.stepFailure? { tasks } {} session.tree session.directory .parents = none := by
  simp [stepFailure?, faultFailure?, refusal?, hcreatable.parents]

/-- A file that can be created can be saved to, and is prepared then. -/
theorem Creatable.save (hcreatable : file.Creatable session.tree session.directory)
    (hentry : session.tree.get? (file.path.place session.directory) = content?.map .file)
    (hapart : session.LogsApart file) (hwritable : ∀ task ∈ tasks, task.writingFailure? = none) :
    ∃ after, (file.save { tasks }).runFrom session = (.ok (), after) ∧
      session.Continues after after.tree ∧
      file.Prepared after.tree session.directory (some (TaskList.content tasks)) := by
  have hprepared := hcreatable.prepared hentry
  have hworks := (hprepared.laterFailure?_eq tasks).trans
    (List.findSome?_eq_none_iff.mpr hwritable)
  obtain ⟨after, hsave, hafter, -⟩ := runFrom_save_of_none hprepared.name_ne hapart.draft
    (hcreatable.stepFailure?_parents tasks) hworks
  have hkeeps := (keepsDirectories_published tasks hprepared.free hprepared.draftFree).trans
    hafter.tree.shape.symm.keepsDirectories
  refine ⟨after, hsave, (hafter.continues hapart).self,
    hkeeps.peek?_eq_directory hprepared.parent, hprepared.movable, hkeeps.leads hprepared.leads,
    ?_, hkeeps.leads hprepared.draftLeads, ?_⟩
  · exact hafter.content
  · have hroot := file.place_draftPath_ne_nil session.directory
    rw [hafter.tree.entries _ hapart.draft, published, FileTree.get?_put _ _ hroot,
      if_neg (place_ne_draft hprepared.name_ne _).symm, FileTree.get?_erase _ hroot, if_pos rfl]
    simp

/-- Tasks of which one cannot be written are not saved, and the file stays as it was. -/
theorem Creatable.save_failure {failure : Failure}
    (hcreatable : file.Creatable session.tree session.directory)
    (hentry : session.tree.get? (file.path.place session.directory) = content?.map .file)
    (hapart : session.LogsApart file)
    (hfails : tasks.findSome? Task.writingFailure? = some failure) :
    ∃ after, (file.save { tasks }).runFrom session = (.error failure, after) ∧
      session.Continues after after.tree ∧
      file.Prepared after.tree session.directory content? := by
  have hprepared := hcreatable.prepared hentry
  obtain ⟨after, hsave, hcleaned⟩ := runFrom_save_of_later_failure hprepared.name_ne hapart
    (hcreatable.stepFailure?_parents tasks) ((hprepared.laterFailure?_eq tasks).trans hfails)
  refine ⟨after, hsave, ⟨hcleaned.directory, hcleaned.routing, .refl _ _⟩,
    hcleaned.keeps.peek?_eq_directory hprepared.parent, hprepared.movable,
    hcleaned.keeps.leads hprepared.leads, ?_, hcleaned.keeps.leads hprepared.draftLeads, ?_⟩
  · exact (hcleaned.entries _ (place_ne_draft hprepared.name_ne _) hapart.target).trans
      hprepared.entry
  · rcases hcleaned.kept rfl with hsame | ⟨-, hgone⟩
    · exact fun hmade => hprepared.draftFree (hsame.symm.trans hmade)
    · exact fun hmade => nomatch hgone.symm.trans hmade

end TaskFile

namespace Session

variable {file : TaskFile} {content? : Option (List UInt8)} {session after : Session}

/-- A session in which a file with some content, or one that is not there, can be written, and the
    log is open neither there nor at its draft. -/
structure CanStore (session : Session) (file : TaskFile) (content? : Option (List UInt8)) :
    Prop where
  creatable : file.Creatable session.tree session.directory
  entry : session.tree.get? (file.path.place session.directory) = content?.map .file
  apart : session.LogsApart file

namespace CanStore

theorem of_prepared (hprepared : file.Prepared session.tree session.directory content?)
    (hapart : session.LogsApart file) : session.CanStore file content? :=
  ⟨hprepared.creatable, hprepared.entry, hapart⟩

/-- Nothing changes for the file in a session that goes on over the same files. -/
theorem of_continues (hstore : session.CanStore file content?)
    (hafter : session.Continues after session.tree) : after.CanStore file content? := by
  refine ⟨?_, ?_, hafter.logsApart hstore.apart⟩
  · rw [hafter.directory]
    exact hstore.creatable.of_agrees hafter.tree
  · rw [hafter.directory, hafter.tree.entries _ hstore.apart.target, hstore.entry]

/-- How strictly the file is read does not matter for whether it can be written. -/
theorem strictly (hstore : session.CanStore file content?) :
    session.CanStore { path := file.path, strict := true } content? :=
  ⟨⟨hstore.creatable.parents, hstore.creatable.movable, hstore.creatable.target,
    hstore.creatable.draft⟩, hstore.entry, ⟨hstore.apart.target, hstore.apart.draft⟩⟩

theorem load (hstore : session.CanStore file content?) :
    ∃ loaded, file.load.runFrom session = (file.contentOutcome content?, loaded) ∧
      loaded.CanStore file content? := by
  obtain ⟨loaded, hload, hloaded⟩ := file.runFrom_load session
  have hprepared := hstore.creatable.prepared hstore.entry
  refine ⟨loaded, ?_, .of_prepared ?_ (hloaded.logsApart hstore.apart)⟩
  · rw [hload, TaskFile.loadOutcome_of_rooted hstore.creatable.parents hprepared.shows]
  · rw [hloaded.directory]
    exact hprepared.of_agrees hloaded.tree hstore.apart.target

theorem save {tasks : TaskList} (hstore : session.CanStore file content?)
    (hwritable : ∀ task ∈ tasks, task.writingFailure? = none) :
    ∃ saved, (file.save { tasks }).runFrom session = (.ok (), saved) ∧
      saved.CanStore file (some (TaskList.content tasks)) := by
  obtain ⟨saved, hsave, hsaved, hprepared⟩ :=
    hstore.creatable.save hstore.entry hstore.apart hwritable
  refine ⟨saved, hsave, .of_prepared ?_ (hsaved.logsApart hstore.apart)⟩
  rw [hsaved.directory]
  exact hprepared

theorem save_failure {tasks : TaskList} {failure : Failure}
    (hstore : session.CanStore file content?)
    (hfails : tasks.findSome? Task.writingFailure? = some failure) :
    ∃ kept, (file.save { tasks }).runFrom session = (.error failure, kept) ∧
      kept.CanStore file content? := by
  obtain ⟨kept, hsave, hkept, hprepared⟩ :=
    hstore.creatable.save_failure hstore.entry hstore.apart hfails
  refine ⟨kept, hsave, .of_prepared ?_ (hkept.logsApart hstore.apart)⟩
  rw [hkept.directory]
  exact hprepared

end CanStore

end Session

end Checklist
