import Checklist.FileTree.Access

namespace Checklist

/-- Where names lead from a place when nothing is in the way. -/
def follow (place : Location) (names : List String) : Location :=
  names.foldl (fun place name => if name = ".." then place.dropLast else place ++ [name]) place

@[simp] theorem follow_nil (place : Location) : follow place [] = place := rfl

theorem follow_append (place : Location) (front back : List String) :
    follow place (front ++ back) = follow (follow place front) back := by
  simp [follow]

theorem follow_singleton {name : String} (hname : name ≠ "..") (place : Location) :
    follow place [name] = place ++ [name] := by
  simp [follow, hname]

theorem follow_of_not_mem {names : List String} (hdots : ".." ∉ names) (place : Location) :
    follow place names = place ++ names := by
  induction names generalizing place with
  | nil => simp
  | cons name rest ih =>
    have hname : name ≠ ".." := by rintro rfl; simp at hdots
    have hrest : ".." ∉ rest := fun hmem => hdots (List.mem_cons_of_mem _ hmem)
    rw [← List.singleton_append, follow_append, follow_singleton hname, ih hrest]
    simp

namespace Path

def start (path : Path) (directory : Location) : Location :=
  if path.anchor = .here then directory else []

def place (path : Path) (directory : Location) : Location :=
  follow (path.start directory) path.parts

/-- Whether a place lies on the way that a path takes, its own place included. -/
def Passes (path : Path) (directory place : Location) : Prop :=
  ∃ front, front <+: path.parts ∧ place = follow (path.start directory) front

theorem parts_ne_nil {path : Path} (hname : path.name ≠ "") : path.parts ≠ [] := by
  intro hnil
  simp [name, hnil] at hname

theorem parts_eq_of_name_ne {path : Path} (hname : path.name ≠ "") :
    path.parts = path.parent.parts ++ [path.name] := by
  have hne := parts_ne_nil hname
  simp only [parent, name, List.getLast?_eq_some_getLast hne, Option.getD_some]
  exact (List.dropLast_concat_getLast hne).symm

theorem start_parent (path : Path) (directory : Location) :
    path.parent.start directory = path.start directory := rfl

theorem place_child {part : String} (hpart : part ≠ "..") (path : Path) (directory : Location) :
    (path.child part).place directory = path.place directory ++ [part] := by
  have hstart : (path.child part).start directory = path.start directory := rfl
  rw [place, hstart, child, follow_append, follow_singleton hpart]
  rfl

theorem place_eq_parent {path : Path} (hname : path.name ≠ "") (hdots : path.name ≠ "..")
    (directory : Location) :
    path.place directory = path.parent.place directory ++ [path.name] := by
  rw [place, parts_eq_of_name_ne hname, follow_append, follow_singleton hdots]
  rfl

/-- A path without two dots does not come past its own place on the way to its parent. -/
theorem not_passes_place {path : Path} (hne : path.parts ≠ []) (hdots : ".." ∉ path.parts)
    (directory : Location) : ¬ path.parent.Passes directory (path.place directory) := by
  rintro ⟨front, hfront, hplace⟩
  have hshort : front.length ≤ path.parts.length - 1 := by
    rw [← List.length_dropLast]
    exact hfront.length_le
  have hfrontDots : ".." ∉ front := fun hmem =>
    hdots (List.dropLast_subset _ (hfront.subset hmem))
  rw [place, start_parent, follow_of_not_mem hdots, follow_of_not_mem hfrontDots] at hplace
  have hlength := congrArg List.length hplace
  have hpos := List.length_pos_iff.mpr hne
  simp only [List.length_append] at hlength
  omega

end Path

namespace FileTree

theorem walk_eq_ok {tree : FileTree} {place goal : Location} {names : List String}
    (hwalk : tree.walk place names = .ok goal) : goal = follow place names := by
  induction names generalizing place with
  | nil => exact (Except.ok.inj hwalk).symm
  | cons name rest ih =>
    rw [← List.singleton_append, follow_append]
    rw [walk] at hwalk
    split at hwalk
    · cases hwalk
    · cases hwalk
    · split at hwalk
      · next hdots =>
        subst hdots
        exact ih hwalk
      · next hdots =>
        split at hwalk
        · rw [follow_singleton hdots]
          exact ih hwalk
        · cases hwalk

theorem locate_eq_ok {tree : FileTree} {directory place : Location} {path : Path}
    (hlocate : tree.locate directory path = .ok place) : place = path.place directory := by
  unfold locate at hlocate
  split at hlocate
  · exact walk_eq_ok hlocate
  · cases hlocate

/-- Two trees with directories at the same places and files at the same places. -/
def SameShape (tree other : FileTree) : Prop :=
  ∀ place, (tree.get? place).map (· = .directory) = (other.get? place).map (· = .directory)

/-- Two trees that differ in nothing but the content of the files at some places. -/
structure AgreesExcept (spared : List Location) (tree other : FileTree) : Prop where
  shape : tree.SameShape other
  entries : ∀ place ∉ spared, tree.get? place = other.get? place

/-- A tree that has all directories of another one. -/
def KeepsDirectories (tree other : FileTree) : Prop :=
  ∀ place, tree.get? place = some .directory → other.get? place = some .directory

namespace SameShape

variable {tree other : FileTree}

theorem refl (tree : FileTree) : tree.SameShape tree := fun _ => rfl

theorem symm (hshape : tree.SameShape other) : other.SameShape tree := fun place =>
  (hshape place).symm

theorem trans {third : FileTree} (hfirst : tree.SameShape other)
    (hsecond : other.SameShape third) : tree.SameShape third := fun place =>
  (hfirst place).trans (hsecond place)

theorem get?_eq_none_iff (hshape : tree.SameShape other) (place : Location) :
    tree.get? place = none ↔ other.get? place = none := by
  have h := hshape place
  cases htree : tree.get? place <;> cases hother : other.get? place <;> simp_all

theorem get?_eq_directory_iff (hshape : tree.SameShape other) (place : Location) :
    tree.get? place = some .directory ↔ other.get? place = some .directory := by
  have h := hshape place
  cases htree : tree.get? place <;> cases hother : other.get? place <;> simp_all

theorem get?_eq_file_iff (hshape : tree.SameShape other) (place : Location) :
    (∃ content, tree.get? place = some (.file content)) ↔
      ∃ content, other.get? place = some (.file content) := by
  have hnone := hshape.get?_eq_none_iff place
  have hdirectory := hshape.get?_eq_directory_iff place
  rcases htree : tree.get? place with _ | _ | content <;>
    rcases hother : other.get? place with _ | _ | content' <;> simp_all

/-- A walk sees of files and directories only where they are. -/
theorem walk_eq (hshape : tree.SameShape other) (place : Location) (names : List String) :
    tree.walk place names = other.walk place names := by
  induction names generalizing place with
  | nil => rfl
  | cons name rest ih =>
    rw [walk, walk]
    rcases htree : tree.get? place with _ | _ | content
    · rw [(hshape.get?_eq_none_iff place).mp htree]
    · rw [(hshape.get?_eq_directory_iff place).mp htree]
      simp only [ih]
    · obtain ⟨content', hother⟩ := (hshape.get?_eq_file_iff place).mp ⟨content, htree⟩
      rw [hother]

theorem locate_eq (hshape : tree.SameShape other) (directory : Location) (path : Path) :
    tree.locate directory path = other.locate directory path := by
  simp only [locate, hshape.walk_eq]

end SameShape

namespace AgreesExcept

variable {spared : List Location} {tree other : FileTree}

theorem refl (spared : List Location) (tree : FileTree) : tree.AgreesExcept spared tree :=
  ⟨.refl tree, fun _ _ => rfl⟩

theorem symm (hagrees : tree.AgreesExcept spared other) : other.AgreesExcept spared tree :=
  ⟨hagrees.shape.symm, fun place hplace => (hagrees.entries place hplace).symm⟩

theorem trans {third : FileTree} (hfirst : tree.AgreesExcept spared other)
    (hsecond : other.AgreesExcept spared third) : tree.AgreesExcept spared third :=
  ⟨hfirst.shape.trans hsecond.shape, fun place hplace =>
    (hfirst.entries place hplace).trans (hsecond.entries place hplace)⟩

theorem mono {more : List Location} (hagrees : tree.AgreesExcept spared other)
    (hsubset : spared ⊆ more) : tree.AgreesExcept more other :=
  ⟨hagrees.shape, fun place hplace => hagrees.entries place (mt (hsubset ·) hplace)⟩

theorem of_get?_eq (spared : List Location)
    (hsame : ∀ place ≠ [], tree.get? place = other.get? place) :
    tree.AgreesExcept spared other := by
  have hall (place : Location) : tree.get? place = other.get? place := by
    by_cases hroot : place = []
    · simp [hroot]
    · exact hsame place hroot
  exact ⟨fun place => by rw [hall], fun place _ => hall place⟩

theorem put (hagrees : tree.AgreesExcept spared other) (place : Location) (entry : Entry) :
    (tree.put place entry).AgreesExcept spared (other.put place entry) := by
  constructor
  · intro other'
    by_cases hroot : other' = []
    · simp [hroot]
    · rw [get?_put tree entry hroot, get?_put other entry hroot]
      split
      · rfl
      · exact hagrees.shape other'
  · intro other' hspared
    by_cases hroot : other' = []
    · simp [hroot]
    · rw [get?_put tree entry hroot, get?_put other entry hroot]
      split
      · rfl
      · exact hagrees.entries other' hspared

theorem erase (hagrees : tree.AgreesExcept spared other) (place : Location) :
    (tree.erase place).AgreesExcept spared (other.erase place) := by
  constructor
  · intro other'
    by_cases hroot : other' = []
    · simp [hroot]
    · rw [get?_erase tree hroot, get?_erase other hroot]
      split
      · rfl
      · exact hagrees.shape other'
  · intro other' hspared
    by_cases hroot : other' = []
    · simp [hroot]
    · rw [get?_erase tree hroot, get?_erase other hroot]
      split
      · rfl
      · exact hagrees.entries other' hspared

end AgreesExcept

theorem SameShape.keepsDirectories {tree other : FileTree} (hshape : tree.SameShape other) :
    tree.KeepsDirectories other := fun place =>
  (hshape.get?_eq_directory_iff place).mp

namespace KeepsDirectories

variable {tree other : FileTree}

theorem trans {third : FileTree} (hfirst : tree.KeepsDirectories other)
    (hsecond : other.KeepsDirectories third) : tree.KeepsDirectories third := fun place hplace =>
  hsecond place (hfirst place hplace)

/-- A walk that arrives still arrives when nothing but files came and went. -/
theorem walk_eq_ok (hkeeps : tree.KeepsDirectories other) {place goal : Location}
    {names : List String} (hwalk : tree.walk place names = .ok goal) :
    other.walk place names = .ok goal := by
  induction names generalizing place with
  | nil => exact hwalk
  | cons name rest ih =>
    rw [walk] at hwalk ⊢
    rcases htree : tree.get? place with _ | _ | content
    · simp [htree] at hwalk
    · simp only [htree] at hwalk
      simp only [hkeeps place htree]
      split at hwalk
      · next hdots => rw [if_pos hdots, ih hwalk]
      · next hdots =>
        rw [if_neg hdots]
        split at hwalk
        · next hshort => rw [if_pos hshort, ih hwalk]
        · cases hwalk
    · simp [htree] at hwalk

theorem locate_eq_ok (hkeeps : tree.KeepsDirectories other) {directory place : Location}
    {path : Path} (hlocate : tree.locate directory path = .ok place) :
    other.locate directory path = .ok place := by
  unfold locate at hlocate ⊢
  split at hlocate
  · next hshort => rw [if_pos hshort, hkeeps.walk_eq_ok hlocate]
  · cases hlocate

end KeepsDirectories

/-- Putting an entry where no directory stands costs none. -/
theorem keepsDirectories_put {tree : FileTree} {place : Location}
    (hfree : tree.get? place ≠ some .directory) (entry : Entry) :
    tree.KeepsDirectories (tree.put place entry) := by
  intro other hother
  have hne : other ≠ place := by
    rintro rfl
    exact hfree hother
  by_cases hroot : other = []
  · simp [hroot]
  · rw [get?_put tree entry hroot, if_neg hne, hother]

theorem keepsDirectories_erase {tree : FileTree} {place : Location}
    (hfree : tree.get? place ≠ some .directory) : tree.KeepsDirectories (tree.erase place) := by
  intro other hother
  have hne : other ≠ place := by
    rintro rfl
    exact hfree hother
  by_cases hroot : other = []
  · simp [hroot]
  · rw [get?_erase tree hroot, if_neg hne, hother]

end FileTree

end Checklist
