import Checklist.Proofs.FileTree.Places

namespace Checklist.FileTree

@[simp] theorem mapError_ok {α ε δ : Type} (change : ε → δ) (a : α) :
    Except.mapError change (.ok a : Except ε α) = .ok a := rfl

@[simp] theorem mapError_error {α ε δ : Type} (change : ε → δ) (error : ε) :
    Except.mapError change (.error error : Except ε α) = .error (change error) := rfl

/-- A path that the system can follow to its place. What stands there is left open. -/
structure Leads (tree : FileTree) (directory : Location) (path : Path) : Prop where
  noNul : path.hasNul = false
  locate : tree.locate directory path = .ok (path.place directory)

variable {tree other : FileTree} {directory : Location} {path : Path}

theorem KeepsDirectories.leads (hkeeps : tree.KeepsDirectories other)
    (hleads : tree.Leads directory path) : other.Leads directory path :=
  ⟨hleads.noNul, hkeeps.locate_eq_ok hleads.locate⟩

theorem SameShape.leads (hshape : tree.SameShape other) (hleads : tree.Leads directory path) :
    other.Leads directory path :=
  hshape.keepsDirectories.leads hleads

theorem atPath_eq_ok_iff {α : Type} {step : Location → Except Refusal α} {result : α} :
    tree.atPath directory path step = .ok result ↔
      tree.Leads directory path ∧ step (path.place directory) = .ok result := by
  unfold atPath
  constructor
  · intro hat
    split at hat
    · cases hat
    · next hnul =>
      split at hat
      · next place hlocate =>
        obtain rfl := locate_eq_ok hlocate
        refine ⟨⟨by simpa using hnul, hlocate⟩, ?_⟩
        cases hstep : step (path.place directory) with
        | error reason => simp [hstep] at hat
        | ok found => simpa [hstep] using hat
      · cases hat
  · rintro ⟨⟨hnul, hlocate⟩, hstep⟩
    rw [hnul, if_neg (by decide), hlocate]
    simp [hstep]

/-- An operation on a path without a NUL fails by being refused by the system. -/
theorem atPath_eq_error {α : Type} {step : Location → Except Refusal α} {error : FileError}
    (hnul : path.hasNul = false) (hat : tree.atPath directory path step = .error error) :
    ∃ reason, error = .refused reason path := by
  rw [atPath, hnul, if_neg (by decide)] at hat
  split at hat
  · next place hlocate =>
    cases hstep : step place with
    | ok result => simp [hstep] at hat
    | error reason => exact ⟨reason, by simpa [hstep, eq_comm] using hat⟩
  · next reason hlocate => exact ⟨reason, (Except.error.inj hat).symm⟩

theorem Leads.peek? (hleads : tree.Leads directory path) :
    tree.peek? directory path = .ok (tree.get? (path.place directory)) := by
  rw [FileTree.peek?, hleads.noNul, if_neg (by decide), find, hleads.locate]
  cases hget : tree.get? (path.place directory) <;> simp [bind, Except.bind, hget]

theorem peek?_eq_some_iff {entry : Entry} :
    tree.peek? directory path = .ok (some entry) ↔
      tree.Leads directory path ∧ tree.get? (path.place directory) = some entry := by
  constructor
  · intro hpeek
    unfold FileTree.peek? at hpeek
    split at hpeek
    · cases hpeek
    · next hnul =>
      split at hpeek
      · next found hfind =>
        cases hlocate : tree.locate directory path with
        | error reason => simp [find, hlocate, bind, Except.bind] at hfind
        | ok place =>
          obtain rfl := locate_eq_ok hlocate
          simp only [find, hlocate, bind, Except.bind] at hfind
          cases hget : tree.get? (path.place directory) with
          | none => simp [hget] at hfind
          | some there =>
            simp only [hget, Except.ok.injEq] at hfind
            subst hfind
            exact ⟨⟨by simpa using hnul, hlocate⟩, by simpa using hpeek⟩
      · cases hpeek
      · cases hpeek
  · rintro ⟨hleads, hget⟩
    rw [hleads.peek?, hget]

theorem KeepsDirectories.peek?_eq_directory (hkeeps : tree.KeepsDirectories other)
    (hpeek : tree.peek? directory path = .ok (some .directory)) :
    other.peek? directory path = .ok (some .directory) := by
  obtain ⟨hleads, hdirectory⟩ := peek?_eq_some_iff.mp hpeek
  exact peek?_eq_some_iff.mpr ⟨hkeeps.leads hleads, hkeeps _ hdirectory⟩

/-- Looking for a path that leads nowhere gives nothing in every tree of the same shape. -/
theorem SameShape.peek?_eq_ok_none (hshape : tree.SameShape other)
    (hpeek : tree.peek? directory path = .ok none) : other.peek? directory path = .ok none := by
  unfold FileTree.peek? find at hpeek ⊢
  rw [← hshape.locate_eq]
  cases hlocate : tree.locate directory path with
  | error reason =>
    rw [hlocate] at hpeek
    exact hpeek
  | ok place =>
    cases hget : tree.get? place with
    | none =>
      have hother := (hshape.get?_eq_none_iff place).mp hget
      simp only [hlocate, hget, hother, bind, Except.bind] at hpeek ⊢
      exact hpeek
    | some entry =>
      have hnul : path.hasNul = true := by
        cases hhas : path.hasNul with
        | true => rfl
        | false => simp [hhas, hlocate, hget, bind, Except.bind] at hpeek
      rw [if_pos hnul]

theorem read_eq_ok_iff {content : List UInt8} :
    tree.read directory path = .ok content ↔
      tree.Leads directory path ∧ tree.get? (path.place directory) = some (.file content) := by
  rw [read, atPath_eq_ok_iff]
  rcases tree.get? (path.place directory) with _ | _ | found <;> simp

theorem create_eq_ok_iff {result : FileTree × Location} :
    tree.create directory path = .ok result ↔
      tree.Leads directory path ∧ tree.get? (path.place directory) ≠ some .directory ∧
        result = (tree.put (path.place directory) (.file []), path.place directory) := by
  rw [create, atPath_eq_ok_iff]
  rcases hget : tree.get? (path.place directory) with _ | _ | found <;>
    simp [openable, hget, bind, Except.bind, pure, Except.pure, eq_comm]

theorem unlink_eq_ok_iff {result : FileTree × Location} :
    tree.unlink directory path = .ok result ↔
      tree.Leads directory path ∧
        (∃ content, tree.get? (path.place directory) = some (.file content)) ∧
        result = (tree.erase (path.place directory), path.place directory) := by
  rw [unlink, atPath_eq_ok_iff]
  rcases tree.get? (path.place directory) with _ | _ | found <;> simp [eq_comm]

/-- A file is moved where both paths can be followed, neither is fixed and no directory stands in
    the way. -/
theorem rename_eq_ok {source target : Path} {result : FileTree × Location × Location}
    (hrename : tree.rename directory source target = .ok result) :
    ∃ content, tree.Leads directory source ∧ tree.Leads directory target ∧
      tree.get? (source.place directory) = some (.file content) ∧
      tree.get? (target.place directory) ≠ some .directory ∧
      isFixed source = false ∧ isFixed target = false ∧
      result = ((tree.erase (source.place directory)).put (target.place directory) (.file content),
        source.place directory, target.place directory) := by
  unfold rename at hrename
  split at hrename
  · cases hrename
  · next hnul =>
    obtain ⟨hsourceNul, htargetNul⟩ : source.hasNul = false ∧ target.hasNul = false := by
      simpa using hnul
    cases hsource : tree.locate directory source with
    | error reason => simp [hsource, bind, Except.bind] at hrename
    | ok origin =>
      cases htarget : tree.locate directory target with
      | error reason => simp [hsource, htarget, bind, Except.bind] at hrename
      | ok goal =>
        obtain rfl := locate_eq_ok hsource
        obtain rfl := locate_eq_ok htarget
        simp only [hsource, htarget, bind, Except.bind] at hrename
        split at hrename
        · cases hrename
        · next hfixed =>
          obtain ⟨hsourceFixed, htargetFixed⟩ :
              isFixed source = false ∧ isFixed target = false := by
            simpa using hfixed
          rcases hfrom : tree.get? (source.place directory) with _ | _ | content
          · simp [hfrom] at hrename
          · rcases hto : tree.get? (target.place directory) with _ | _ | old <;>
              simp [hfrom, hto] at hrename
          · refine ⟨content, ⟨hsourceNul, hsource⟩, ⟨htargetNul, htarget⟩, rfl, ?_, hsourceFixed,
              htargetFixed, ?_⟩
            · rintro hto
              simp [hfrom, hto] at hrename
            · rcases hto : tree.get? (target.place directory) with _ | _ | old <;>
                simp [hfrom, hto] at hrename <;> exact hrename.symm

theorem rename_of_leads {source target : Path} {content : List UInt8}
    (hsource : tree.Leads directory source) (htarget : tree.Leads directory target)
    (hfrom : tree.get? (source.place directory) = some (.file content))
    (hto : tree.get? (target.place directory) ≠ some .directory)
    (hsourceFixed : isFixed source = false) (htargetFixed : isFixed target = false) :
    tree.rename directory source target =
      .ok ((tree.erase (source.place directory)).put (target.place directory) (.file content),
        source.place directory, target.place directory) := by
  unfold rename
  rw [hsource.noNul, htarget.noNul, Bool.or_self, if_neg (by decide)]
  simp only [hsource.locate, htarget.locate, bind, Except.bind, hsourceFixed, htargetFixed,
    Bool.or_self, Bool.false_eq_true, if_false, hfrom]
  rcases hget : tree.get? (target.place directory) with _ | _ | old
  · rfl
  · exact absurd hget hto
  · rfl

/-- Whether a file can be moved, and why not, depends on where files and directories are and not
    on what the files hold. -/
theorem SameShape.rename_eq_error (hshape : tree.SameShape other) {source target : Path}
    {error : FileError} (hrename : tree.rename directory source target = .error error) :
    other.rename directory source target = .error error := by
  unfold rename at hrename ⊢
  rw [← hshape.locate_eq, ← hshape.locate_eq]
  split at hrename
  · next hnul => rw [if_pos hnul, hrename]
  · next hnul =>
    rw [if_neg hnul]
    cases hsource : tree.locate directory source with
    | error reason => simpa [hsource, bind, Except.bind] using hrename
    | ok origin =>
      cases htarget : tree.locate directory target with
      | error reason => simpa [hsource, htarget, bind, Except.bind] using hrename
      | ok goal =>
        simp only [hsource, htarget, bind, Except.bind] at hrename ⊢
        split at hrename
        · next hfixed => rw [if_pos hfixed, hrename]
        · next hfixed =>
          rw [if_neg hfixed]
          have hfrom := hshape origin
          have hto := hshape goal
          rcases htreeFrom : tree.get? origin with _ | _ | content <;>
            rcases hotherFrom : other.get? origin with _ | _ | content' <;>
            rcases htreeTo : tree.get? goal with _ | _ | old <;>
            rcases hotherTo : other.get? goal with _ | _ | old' <;>
            simp_all [mapError_ok, mapError_error]

end Checklist.FileTree
