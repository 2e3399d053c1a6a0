namespace Checklist

/-- The place of a file or directory: the names on the way to it from the root. -/
abbrev Location := List String

/-- What stands at a place. -/
inductive Entry where
  | directory
  | file (content : List UInt8)
  deriving Repr, DecidableEq

/-- Files and directories by place, each place at most once. The root is always a directory and
    is not listed. -/
structure FileTree where
  entries : List (Location × Entry) := []
  deriving Repr, DecidableEq

namespace FileTree

def get? (tree : FileTree) (place : Location) : Option Entry :=
  if place = [] then some .directory
  else (tree.entries.find? (·.1 == place)).map (·.2)

/-- The tree with nothing at a place. What stood below it stays. -/
def erase (tree : FileTree) (place : Location) : FileTree :=
  ⟨tree.entries.filter (·.1 != place)⟩

/-- The tree with an entry at a place, in place of what stood there. -/
def put (tree : FileTree) (place : Location) (entry : Entry) : FileTree :=
  ⟨(tree.erase place).entries ++ [(place, entry)]⟩

def hasChildren (tree : FileTree) (place : Location) : Bool :=
  tree.entries.any fun (other, _) => other.dropLast == place && other != []

/-- Everything below a place, by path from there and in the order of the paths' code points. -/
def listing (tree : FileTree) (place : Location) : List (String × Entry) :=
  let below := tree.entries.filterMap fun (other, entry) =>
    if place.isPrefixOf other && other != place then
      some ("/".intercalate (other.drop place.length), entry)
    else none
  below.mergeSort fun left right => left.1 ≤ right.1

@[simp] theorem get?_nil (tree : FileTree) : tree.get? [] = some .directory := by
  simp [get?]

private theorem find?_filter_ne (entries : List (Location × Entry)) (place other : Location) :
    (entries.filter (·.1 != place)).find? (·.1 == other) =
      if other = place then none else entries.find? (·.1 == other) := by
  induction entries with
  | nil => simp
  | cons entry rest ih =>
    by_cases hplace : entry.1 = place
    · by_cases hother : other = place
      · simp_all
      · have hne : ¬ place = other := fun heq => hother heq.symm
        simp_all
    · by_cases hother : entry.1 = other
      · simp_all
      · simp_all

/-- Erasing takes away one place and no other. -/
theorem get?_erase (tree : FileTree) {place other : Location} (hroot : other ≠ []) :
    (tree.erase place).get? other = if other = place then none else tree.get? other := by
  simp only [get?, erase, hroot, if_false, find?_filter_ne]
  split <;> simp

/-- Putting an entry changes one place and no other. -/
theorem get?_put (tree : FileTree) {place other : Location} (entry : Entry)
    (hroot : other ≠ []) :
    (tree.put place entry).get? other = if other = place then some entry else tree.get? other := by
  simp only [get?, put, erase, hroot, if_false, List.find?_append, find?_filter_ne]
  by_cases hother : other = place
  · simp [hother]
  · have hne : ¬ place = other := fun heq => hother heq.symm
    simp [hother, hne]

end FileTree

end Checklist
