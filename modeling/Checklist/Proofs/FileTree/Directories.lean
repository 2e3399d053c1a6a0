import Checklist.Proofs.FileTree.Operations

namespace Checklist.FileTree

variable {tree other : FileTree} {directory : Location} {path : Path}

/-- Nothing happened at a place but perhaps that a directory on the way of a path was made there. -/
def KeptAt (path : Path) (directory : Location) (tree other : FileTree) (place : Location) : Prop :=
  other.get? place = tree.get? place ∨
    tree.get? place = none ∧ other.get? place = some .directory ∧ path.Passes directory place

theorem KeptAt.trans {third : FileTree} {place : Location}
    (hfirst : KeptAt path directory tree other place)
    (hsecond : KeptAt path directory other third place) :
    KeptAt path directory tree third place := by
  rcases hsecond with hsame | ⟨hnone, hmade, hpasses⟩
  · rw [KeptAt, hsame]
    exact hfirst
  · rcases hfirst with hsame | ⟨-, hmade', -⟩
    · exact .inr ⟨hsame ▸ hnone, hmade, hpasses⟩
    · rw [hmade'] at hnone
      cases hnone

/-- A tree that grew by nothing but directories on the way of a path. -/
def GrewAlong (path : Path) (directory : Location) (tree other : FileTree) : Prop :=
  ∀ place, KeptAt path directory tree other place

namespace GrewAlong

theorem refl (path : Path) (directory : Location) (tree : FileTree) :
    GrewAlong path directory tree tree := fun _ => .inl rfl

theorem trans {third : FileTree} (hfirst : GrewAlong path directory tree other)
    (hsecond : GrewAlong path directory other third) : GrewAlong path directory tree third :=
  fun place => (hfirst place).trans (hsecond place)

theorem lengthen {longer : Path} (hgrew : GrewAlong path directory tree other)
    (hanchor : longer.anchor = path.anchor) (hparts : path.parts <+: longer.parts) :
    GrewAlong longer directory tree other := by
  intro place
  rcases hgrew place with hsame | ⟨hnone, hmade, front, hfront, hplace⟩
  · exact .inl hsame
  · refine .inr ⟨hnone, hmade, front, hfront.trans hparts, ?_⟩
    rw [hplace, Path.start, Path.start, hanchor]

theorem put_directory (hvacant : tree.get? (path.place directory) = none) :
    GrewAlong path directory tree (tree.put (path.place directory) .directory) := by
  intro place
  by_cases hroot : place = []
  · exact .inl (by simp [hroot])
  · rw [KeptAt, get?_put tree .directory hroot]
    split
    · next hplace =>
      subst hplace
      exact .inr ⟨hvacant, rfl, path.parts, List.prefix_rfl, rfl⟩
    · exact .inl rfl

theorem keepsDirectories (hgrew : GrewAlong path directory tree other) :
    tree.KeepsDirectories other := by
  intro place hdirectory
  rcases hgrew place with hsame | ⟨-, hmade, -⟩
  · rw [hsame, hdirectory]
  · exact hmade

end GrewAlong

theorem makeDirectory_eq_ok {made : FileTree}
    (hmake : tree.makeDirectory directory path = .ok made) :
    tree.Leads directory path ∧ tree.get? (path.place directory) = none ∧
      made = tree.put (path.place directory) .directory := by
  obtain ⟨hleads, hstep⟩ := atPath_eq_ok_iff.mp hmake
  refine ⟨hleads, ?_⟩
  unfold vacancy at hstep
  cases hget : tree.get? (path.place directory) with
  | some entry => simp [hget, bind, Except.bind] at hstep
  | none => simpa [hget, bind, Except.bind, pure, Except.pure, eq_comm] using hstep

theorem peek?_of_makeDirectory {made : FileTree}
    (hmake : tree.makeDirectory directory path = .ok made) :
    made.peek? directory path = .ok (some .directory) := by
  obtain ⟨hleads, hvacant, rfl⟩ := makeDirectory_eq_ok hmake
  have hkeeps := (GrewAlong.put_directory hvacant).keepsDirectories
  refine peek?_eq_some_iff.mpr ⟨hkeeps.leads hleads, ?_⟩
  by_cases hroot : path.place directory = []
  · simp [hroot]
  · rw [get?_put tree .directory hroot, if_pos rfl]

theorem settle_fst (tree : FileTree) (directory : Location) (path : Path) (error : FileError) :
    (tree.settle directory path error).1 = tree := by
  unfold settle
  split
  · split <;> rfl
  · rfl

/-- A refusal is passed over only where a directory stands. -/
theorem peek?_of_settle {error : FileError}
    (hsettle : (tree.settle directory path error).2 = .ok ()) :
    tree.peek? directory path = .ok (some .directory) := by
  unfold settle at hsettle
  split at hsettle
  · split at hsettle
    · next hpeek => exact hpeek
    · cases hsettle
    · cases hsettle
  · cases hsettle

theorem grewAlong_makeLast (tree : FileTree) (directory : Location) (path : Path) :
    GrewAlong path directory tree (tree.makeLast directory path).1 := by
  unfold makeLast
  split
  · next made hmake =>
    obtain ⟨-, hvacant, rfl⟩ := makeDirectory_eq_ok hmake
    exact .put_directory hvacant
  · exact .refl path directory tree
  · rw [settle_fst]
    exact .refl path directory tree

theorem peek?_of_makeLast (hlast : (tree.makeLast directory path).2 = .ok ()) :
    (tree.makeLast directory path).1.peek? directory path = .ok (some .directory) := by
  unfold makeLast at hlast ⊢
  split
  · next made hmake => exact peek?_of_makeDirectory hmake
  · next hmake =>
    rw [hmake] at hlast
    cases hlast
  · next error hnot hmake =>
    rw [hmake] at hlast
    rw [settle_fst]
    exact peek?_of_settle (by simpa using hlast)

/-- Making directories adds directories on the way and changes nothing else, whether it succeeds
    or not. -/
theorem grewAlong_makeDirectoriesFrom (tree : FileTree) (directory : Location) (anchor : Anchor)
    (backwards : List String) :
    GrewAlong ⟨anchor, backwards.reverse⟩ directory tree
      (tree.makeDirectoriesFrom directory anchor backwards).1 := by
  induction backwards with
  | nil =>
    rw [makeDirectoriesFrom]
    split
    · next made hmake =>
      obtain ⟨-, hvacant, rfl⟩ := makeDirectory_eq_ok hmake
      exact .put_directory hvacant
    · exact .refl _ directory tree
    · rw [settle_fst]
      exact .refl _ directory tree
  | cons name above ih =>
    -- What the parents added lies on the way of the longer path as well.
    have habove : GrewAlong ⟨anchor, (name :: above).reverse⟩ directory tree
        (tree.makeDirectoriesFrom directory anchor above).1 := by
      refine ih.lengthen rfl ?_
      simp
    rw [makeDirectoriesFrom]
    split
    · next made hmake =>
      obtain ⟨-, hvacant, rfl⟩ := makeDirectory_eq_ok hmake
      exact .put_directory hvacant
    · split
      · next grown hgrown =>
        rw [hgrown] at habove
        exact habove.trans (grewAlong_makeLast grown directory _)
      · next grown error hgrown =>
        rw [hgrown] at habove
        exact habove
    · rw [settle_fst]
      exact .refl _ directory tree

theorem peek?_of_makeDirectoriesFrom {anchor : Anchor} {backwards : List String}
    (hmake : (tree.makeDirectoriesFrom directory anchor backwards).2 = .ok ()) :
    (tree.makeDirectoriesFrom directory anchor backwards).1.peek? directory
      ⟨anchor, backwards.reverse⟩ = .ok (some .directory) := by
  cases backwards with
  | nil =>
    rw [makeDirectoriesFrom] at hmake ⊢
    split
    · next made hmade => exact peek?_of_makeDirectory hmade
    · next hmade =>
      rw [hmade] at hmake
      cases hmake
    · next error hnot hmade =>
      rw [hmade] at hmake
      rw [settle_fst]
      exact peek?_of_settle (by simpa using hmake)
  | cons name above =>
    rw [makeDirectoriesFrom] at hmake ⊢
    split
    · next made hmade => exact peek?_of_makeDirectory hmade
    · next hmade =>
      simp only [hmade] at hmake
      split
      · next grown hgrown =>
        rw [hgrown] at hmake
        exact peek?_of_makeLast hmake
      · next grown error hgrown =>
        rw [hgrown] at hmake
        cases hmake
    · next error hnot hmade =>
      rw [hmade] at hmake
      rw [settle_fst]
      exact peek?_of_settle (by simpa using hmake)

theorem grewAlong_makeDirectories (tree : FileTree) (directory : Location) (path : Path) :
    GrewAlong path directory tree (tree.makeDirectories directory path).1 := by
  have h := grewAlong_makeDirectoriesFrom tree directory path.anchor path.parts.reverse
  rwa [List.reverse_reverse] at h

theorem peek?_of_makeDirectories (hmake : (tree.makeDirectories directory path).2 = .ok ()) :
    (tree.makeDirectories directory path).1.peek? directory path = .ok (some .directory) := by
  have h := peek?_of_makeDirectoriesFrom hmake
  rwa [List.reverse_reverse] at h

/-- Nothing is made where the directory already stands. -/
theorem makeDirectories_of_peek? (hpeek : tree.peek? directory path = .ok (some .directory)) :
    tree.makeDirectories directory path = (tree, .ok ()) := by
  obtain ⟨hleads, hdirectory⟩ := peek?_eq_some_iff.mp hpeek
  have hmake : tree.makeDirectory directory path = .error (.refused .occupied path) := by
    rw [makeDirectory, atPath, hleads.noNul, if_neg (by decide), hleads.locate]
    simp [vacancy, hdirectory, bind, Except.bind]
  have hsettle : tree.settle directory path (.refused .occupied path) = (tree, .ok ()) := by
    simp [settle, FileError.isSystem, hpeek]
  have hpath : path = ⟨path.anchor, path.parts.reverse.reverse⟩ := by simp
  unfold makeDirectories
  cases hparts : path.parts.reverse with
  | nil =>
    rw [hparts] at hpath
    rw [makeDirectoriesFrom, ← List.reverse_nil, ← hpath, hmake]
    exact hsettle
  | cons name above =>
    rw [hparts] at hpath
    rw [makeDirectoriesFrom, ← hpath, hmake]
    exact hsettle

theorem settle_eq_ok_iff {error : FileError} :
    (tree.settle directory path error).2 = .ok () ↔
      error.isSystem = true ∧ tree.peek? directory path = .ok (some .directory) := by
  constructor
  · intro hsettle
    refine ⟨?_, peek?_of_settle hsettle⟩
    unfold settle at hsettle
    split at hsettle
    · next hsystem => exact hsystem
    · cases hsettle
  · rintro ⟨hsystem, hpeek⟩
    rw [settle, if_pos hsystem, hpeek]

theorem SameShape.makeDirectory_eq_error {error : FileError} (hshape : tree.SameShape other)
    (hmake : tree.makeDirectory directory path = .error error) :
    other.makeDirectory directory path = .error error := by
  unfold makeDirectory atPath at hmake ⊢
  rw [← hshape.locate_eq]
  split at hmake
  · next hnul => rw [if_pos hnul, hmake]
  · next hnul =>
    rw [if_neg hnul]
    split at hmake
    · next place hlocate =>
      have hnone := hshape.get?_eq_none_iff place
      unfold vacancy at hmake ⊢
      cases htree : tree.get? place with
      | none => simp [htree, bind, Except.bind, pure, Except.pure] at hmake
      | some entry =>
        cases hother : other.get? place with
        | none => simp [htree, hother] at hnone
        | some there => simpa [htree, hother, bind, Except.bind] using hmake
    · exact hmake

theorem AgreesExcept.makeDirectory_eq_ok {spared : List Location} {made : FileTree}
    (hagrees : tree.AgreesExcept spared other)
    (hmake : tree.makeDirectory directory path = .ok made) :
    ∃ alike, other.makeDirectory directory path = .ok alike ∧ made.AgreesExcept spared alike := by
  obtain ⟨hleads, hvacant, rfl⟩ := FileTree.makeDirectory_eq_ok hmake
  refine ⟨_, ?_, hagrees.put _ _⟩
  refine atPath_eq_ok_iff.mpr ⟨hagrees.shape.leads hleads, ?_⟩
  rw [vacancy, (hagrees.shape.get?_eq_none_iff _).mp hvacant]
  rfl

theorem AgreesExcept.settle {spared : List Location} {error : FileError}
    (hagrees : tree.AgreesExcept spared other)
    (hsettle : (tree.settle directory path error).2 = .ok ()) :
    (other.settle directory path error).2 = .ok () ∧
      (tree.settle directory path error).1.AgreesExcept spared
        (other.settle directory path error).1 := by
  obtain ⟨hsystem, hpeek⟩ := settle_eq_ok_iff.mp hsettle
  rw [settle_fst, settle_fst]
  have hpeekOther := hagrees.shape.keepsDirectories.peek?_eq_directory hpeek
  exact ⟨settle_eq_ok_iff.mpr ⟨hsystem, hpeekOther⟩, hagrees⟩

theorem AgreesExcept.makeLast {spared : List Location} (hagrees : tree.AgreesExcept spared other)
    (hlast : (tree.makeLast directory path).2 = .ok ()) :
    (other.makeLast directory path).2 = .ok () ∧
      (tree.makeLast directory path).1.AgreesExcept spared (other.makeLast directory path).1 := by
  cases hmake : tree.makeDirectory directory path with
  | ok made =>
    obtain ⟨alike, hother, halike⟩ := hagrees.makeDirectory_eq_ok hmake
    rw [FileTree.makeLast, FileTree.makeLast, hmake, hother]
    exact ⟨rfl, halike⟩
  | error error =>
    have hother := hagrees.shape.makeDirectory_eq_error hmake
    rw [FileTree.makeLast, hmake] at hlast
    rw [FileTree.makeLast, FileTree.makeLast, hmake, hother]
    split at hlast
    · next heq => cases heq
    · cases hlast
    · next blocked hnot heq =>
      obtain rfl := Except.error.inj heq
      exact hagrees.settle hlast

/-- Where making directories succeeds, it does the same in a tree that differs in what one file
    holds. -/
theorem AgreesExcept.makeDirectoriesFrom {spared : List Location} {anchor : Anchor}
    {backwards : List String} (hagrees : tree.AgreesExcept spared other)
    (hmake : (tree.makeDirectoriesFrom directory anchor backwards).2 = .ok ()) :
    (other.makeDirectoriesFrom directory anchor backwards).2 = .ok () ∧
      (tree.makeDirectoriesFrom directory anchor backwards).1.AgreesExcept spared
        (other.makeDirectoriesFrom directory anchor backwards).1 := by
  induction backwards with
  | nil => exact hagrees.makeLast hmake
  | cons name above ih =>
    cases hfirst : tree.makeDirectory directory ⟨anchor, (name :: above).reverse⟩ with
    | ok made =>
      obtain ⟨alike, hother, halike⟩ := hagrees.makeDirectory_eq_ok hfirst
      rw [FileTree.makeDirectoriesFrom, FileTree.makeDirectoriesFrom, hfirst, hother]
      exact ⟨rfl, halike⟩
    | error error =>
      have hother := hagrees.shape.makeDirectory_eq_error hfirst
      rw [FileTree.makeDirectoriesFrom, hfirst] at hmake
      rw [FileTree.makeDirectoriesFrom, FileTree.makeDirectoriesFrom, hfirst, hother]
      split at hmake
      · next heq => cases heq
      · next heq =>
        split at hmake
        · next grown hgrown =>
          obtain ⟨hok, halike⟩ := ih (by rw [hgrown])
          rw [hgrown] at halike
          obtain rfl := Except.error.inj heq
          rcases hmadeAbove : other.makeDirectoriesFrom directory anchor above with ⟨grownAlike, made⟩
          rw [hmadeAbove] at hok halike
          obtain rfl : made = .ok () := hok
          exact halike.makeLast hmake
        · cases hmake
      · next hnot heq =>
        obtain rfl := Except.error.inj heq
        exact hagrees.settle hmake

theorem AgreesExcept.makeDirectories {spared : List Location}
    (hagrees : tree.AgreesExcept spared other)
    (hmake : (tree.makeDirectories directory path).2 = .ok ()) :
    (other.makeDirectories directory path).2 = .ok () ∧
      (tree.makeDirectories directory path).1.AgreesExcept spared
        (other.makeDirectories directory path).1 :=
  hagrees.makeDirectoriesFrom hmake

end Checklist.FileTree
