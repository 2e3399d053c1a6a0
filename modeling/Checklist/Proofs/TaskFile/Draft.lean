import Checklist.Proofs.FileTree.Directories
import Checklist.Proofs.TaskFile.Writing

namespace Checklist

namespace TaskFile

def draftPath (file : TaskFile) : Path :=
  file.path.parent.child (file.path.name ++ ".tmp")

variable {file : TaskFile}

theorem draft?_eq (hname : file.path.name ≠ "") : file.draft? = some file.draftPath := by
  rw [draft?, Path.withName?, if_neg hname]
  rfl

theorem runFrom_draft (hname : file.path.name ≠ "") (session : Session) :
    file.draft.runFrom session = (.ok file.draftPath, session) := by
  rw [draft, draft?_eq hname]
  rfl

theorem draft_name_ne (name : String) : name ++ ".tmp" ≠ ".." ∧ name ++ ".tmp" ≠ "" := by
  constructor
  · intro heq
    have hlength := congrArg (fun s => s.toList.getLast?) heq
    simp at hlength
  · intro heq
    have hlength := congrArg (fun s => s.toList.length) heq
    simp at hlength

theorem name_draftPath (file : TaskFile) : file.draftPath.name = file.path.name ++ ".tmp" := by
  simp [draftPath, Path.child, Path.name]

/-- The draft can be renamed as far as its own path is concerned. -/
theorem isFixed_draftPath (file : TaskFile) : FileTree.isFixed file.draftPath = false := by
  have hname := draft_name_ne file.path.name
  simp [FileTree.isFixed, name_draftPath, hname.1, hname.2]

theorem place_draftPath (file : TaskFile) (directory : Location) :
    file.draftPath.place directory =
      file.path.parent.place directory ++ [file.path.name ++ ".tmp"] :=
  Path.place_child (draft_name_ne _).1 _ _

theorem place_draftPath_ne_nil (file : TaskFile) (directory : Location) :
    file.draftPath.place directory ≠ [] := by
  simp [place_draftPath]

/-- The draft is never written over the file, not even where the path ends in two dots. -/
theorem place_ne_draft (hname : file.path.name ≠ "") (directory : Location) :
    file.path.place directory ≠ file.draftPath.place directory := by
  intro heq
  rw [place_draftPath] at heq
  by_cases hdots : file.path.name = ".."
  -- Two dots lead above the parent, and the draft lies below it.
  · have hplace : file.path.place directory = (file.path.parent.place directory).dropLast := by
      rw [Path.place, Path.parts_eq_of_name_ne hname, follow_append, hdots]
      rfl
    have hlength := congrArg List.length (hplace.symm.trans heq)
    simp only [List.length_dropLast, List.length_append, List.length_singleton] at hlength
    omega
  · rw [Path.place_eq_parent hname hdots, List.append_cancel_left_eq, List.cons.injEq] at heq
    have hlength := congrArg (fun s => s.toList.length) heq.1
    simp at hlength

end TaskFile

namespace Session

/-- A log file is open neither at the place of a file nor at that of its draft, if one is open. -/
structure LogsApart (session : Session) (file : TaskFile) : Prop where
  target : file.path.place session.directory ∉ session.logPlaces
  draft : file.draftPath.place session.directory ∉ session.logPlaces

theorem Continues.logsApart {before after : Session} {tree : FileTree} {file : TaskFile}
    (hcontinues : before.Continues after tree) (hapart : before.LogsApart file) :
    after.LogsApart file := by
  constructor
  · rw [hcontinues.logPlaces, hcontinues.directory]
    exact hapart.target
  · rw [hcontinues.logPlaces, hcontinues.directory]
    exact hapart.draft

def Sees (session : Session) (path : Path) : Prop :=
  ∃ entry, session.tree.peek? session.directory path = .ok (some entry)

end Session

namespace TaskFile

variable {file : TaskFile} {session : Session}

def faultFailure? (fault : Option String) : Option Failure :=
  fault.map fun message => .file (.fault message)

def refusal? {α : Type} : Except FileError α → Option Failure
  | .ok _ => none
  | .error error => some (.file error)

theorem runFrom_failOn (fault : Option String) (session : Session) :
    (failOn fault).runFrom session =
      match faultFailure? fault with
      | some failure => (.error failure, session)
      | none => (.ok (), session) := by
  cases fault <;> rfl

/-- How opening the draft fails, if it does. -/
def openingFailure? (file : TaskFile) (fault : Option String) (tree : FileTree)
    (directory : Location) : Option Failure :=
  faultFailure? (if file.draftPath.hasNul then none else fault) <|>
    refusal? (tree.create directory file.draftPath)

theorem runFrom_openDraft_of_failure {fault : Option String} {failure : Failure}
    (hfails : file.openingFailure? fault session.tree session.directory = some failure) :
    (openDraft file.draftPath fault).runFrom session = (.error failure, session) := by
  unfold openingFailure? at hfails
  rw [openDraft, Attempt.runFrom_bind, runFrom_failOn]
  cases hfault : faultFailure? (if file.draftPath.hasNul then none else fault) with
  | some other =>
    rw [hfault, Option.orElse_eq_orElse, Option.orElse_eq_or, Option.some_or] at hfails
    rw [Option.some.inj hfails]
  | none =>
    rw [hfault, Option.orElse_eq_orElse, Option.orElse_eq_or, Option.none_or] at hfails
    dsimp only
    rw [Session.create, Session.runFrom_change]
    cases hcreate : session.tree.create session.directory file.draftPath with
    | ok made => simp [hcreate, refusal?] at hfails
    | error error =>
      rw [hcreate] at hfails
      rw [← Option.some.inj hfails]

theorem runFrom_openDraft_of_none {fault : Option String}
    (hopens : file.openingFailure? fault session.tree session.directory = none) :
    session.tree.Leads session.directory file.draftPath ∧
      session.tree.get? (file.draftPath.place session.directory) ≠ some .directory ∧
      (openDraft file.draftPath fault).runFrom session =
        (.ok (file.draftPath.place session.directory),
          { session with
            tree := session.tree.put (file.draftPath.place session.directory) (.file []) }) := by
  unfold openingFailure? at hopens
  rw [Option.orElse_eq_orElse, Option.orElse_eq_or, Option.or_eq_none_iff] at hopens
  obtain ⟨hfault, hcreate⟩ := hopens
  cases hresult : session.tree.create session.directory file.draftPath with
  | error error => simp [hresult, refusal?] at hcreate
  | ok made =>
    obtain ⟨hleads, hfree, rfl⟩ := FileTree.create_eq_ok_iff.mp hresult
    refine ⟨hleads, hfree, ?_⟩
    rw [openDraft, Attempt.runFrom_bind, runFrom_failOn, hfault]
    dsimp only
    rw [Session.create, Session.runFrom_change, hresult]

/-- A path with a NUL is refused when the draft is opened, and in no other way. -/
theorem openingFailure?_of_hasNul {fault : Option String} {tree : FileTree} {directory : Location}
    (hnul : file.draftPath.hasNul = true) :
    file.openingFailure? fault tree directory = some (.file .nulInPath) := by
  simp [openingFailure?, hnul, FileTree.create, FileTree.atPath, faultFailure?, refusal?]

/-- The clean-up deletes the draft if it is a file and nothing keeps it from being deleted, and
    touches nothing else. Where it does not succeed it fails silently. -/
theorem runFrom_discard_of_noNul (faults : SaveFaults) (hnul : file.draftPath.hasNul = false)
    (hapart : session.LogsApart file) :
    ∃ after, (discard file.draftPath faults).runFrom session = (.ok (), after) ∧
      (session.Continues after
          (session.tree.erase (file.draftPath.place session.directory)) ∧
          (∃ content, session.tree.get? (file.draftPath.place session.directory) =
            some (.file content)) ∨
        after = session ∧ (faults.cleanup = none → ∀ content,
          session.tree.peek? session.directory file.draftPath ≠ .ok (some (.file content)))) := by
  rw [discard, Attempt.runFrom_tryCatch, Attempt.runFrom_bind, runFrom_failOn]
  cases hfault : faults.cleanup with
  | some message => exact ⟨session, rfl, .inr ⟨rfl, fun hnone => by cases hnone⟩⟩
  | none =>
    dsimp only [faultFailure?, Option.map_none]
    rw [Session.runFrom_unlink]
    cases hunlink : session.tree.unlink session.directory file.draftPath with
    | ok result =>
      obtain ⟨-, hfile, rfl⟩ := FileTree.unlink_eq_ok_iff.mp hunlink
      refine ⟨_, rfl, .inl ⟨⟨rfl, ?_, .refl _ _⟩, hfile⟩⟩
      exact Log.Routing.forget_of_not_mem hapart.draft
    | error error =>
      have hsystem : error.isSystem = true := by
        obtain ⟨reason, rfl⟩ := FileTree.atPath_eq_error hnul hunlink
        rfl
      refine ⟨session, ?_, .inr ⟨rfl, ?_⟩⟩
      · dsimp only
        rw [if_pos hsystem]
        rfl
      · intro _ content hpeek
        obtain ⟨hleads, hfile⟩ := FileTree.peek?_eq_some_iff.mp hpeek
        have hok := FileTree.unlink_eq_ok_iff.mpr ⟨hleads, ⟨content, hfile⟩, rfl⟩
        rw [hok] at hunlink
        cases hunlink

end TaskFile

end Checklist
