import Checklist.Proofs.FileTree.Operations

namespace Checklist

namespace Path

/-- A path is never shorter than the one to its parent. -/
theorem utf8ByteSize_parent_le {path : Path} (hname : path.name ≠ "") :
    path.parent.toString.utf8ByteSize ≤ path.toString.utf8ByteSize := by
  have hparts := parts_eq_of_name_ne hname
  have hne : path.parts ≠ [] := by
    rw [hparts]
    simp
  have hpath : path.toString = path.anchor.text ++ "/".intercalate path.parts := by
    rw [toString, if_neg fun hdot => hne hdot.2]
  have hsize : 0 < path.name.utf8ByteSize := by
    apply Nat.pos_of_ne_zero
    rwa [ne_eq, String.utf8ByteSize_eq_zero_iff]
  rw [hpath, hparts]
  by_cases hfront : path.parent.parts = []
  · rw [hfront, List.nil_append, String.intercalate_singleton, toString, hfront]
    have hanchor : path.parent.anchor = path.anchor := rfl
    rw [hanchor]
    split
    · simp only [String.utf8ByteSize_append]
      exact Nat.le_trans hsize (Nat.le_add_left _ _)
    · simp [String.utf8ByteSize_append]
  · have hparent : path.parent.toString =
        path.anchor.text ++ "/".intercalate path.parent.parts := by
      rw [toString, if_neg fun hdot => hfront hdot.2]
      rfl
    rw [hparent, String.intercalate_append_of_ne_nil hfront (by simp)]
    simp only [String.utf8ByteSize_append]
    omega

theorem hasNul_parent {path : Path} (hnul : path.hasNul = false) : path.parent.hasNul = false := by
  rw [hasNul, List.any_eq_false] at hnul ⊢
  exact fun part hmem => hnul part (List.dropLast_subset _ hmem)

end Path

namespace FileTree

variable {tree : FileTree} {directory place goal : Location} {path : Path} {front : List String}
  {name : String}

theorem walk_append (tree : FileTree) (place : Location) (front back : List String) :
    tree.walk place (front ++ back) =
      (tree.walk place front).bind fun middle => tree.walk middle back := by
  induction front generalizing place with
  | nil => rfl
  | cons first rest ih =>
    rw [List.cons_append, walk, walk]
    split
    · rfl
    · rfl
    · split
      · exact ih _
      · split
        · exact ih _
        · rfl

/-- A walk looks for its last name in a directory. -/
theorem walk_concat_eq_ok (hwalk : tree.walk place (front ++ [name]) = .ok goal) :
    ∃ parent, tree.walk place front = .ok parent ∧ tree.get? parent = some .directory := by
  rw [walk_append] at hwalk
  cases hfront : tree.walk place front with
  | error reason =>
    rw [hfront] at hwalk
    cases hwalk
  | ok parent =>
    rw [hfront, Except.bind, walk] at hwalk
    split at hwalk
    · cases hwalk
    · cases hwalk
    · next hdirectory => exact ⟨parent, rfl, hdirectory⟩

/-- A path that can be followed has a directory for its parent. -/
theorem Leads.peek?_parent (hleads : tree.Leads directory path) (hname : path.name ≠ "") :
    tree.peek? directory path.parent = .ok (some .directory) := by
  have hlocate := hleads.locate
  unfold FileTree.locate at hlocate
  split at hlocate
  · next hshort =>
    rw [Path.parts_eq_of_name_ne hname] at hlocate
    obtain ⟨parent, hwalk, hdirectory⟩ := walk_concat_eq_ok hlocate
    have hlocateParent : tree.locate directory path.parent = .ok parent := by
      rw [FileTree.locate, if_pos (Nat.lt_of_le_of_lt (Path.utf8ByteSize_parent_le hname) hshort)]
      exact hwalk
    obtain rfl := locate_eq_ok hlocateParent
    exact peek?_eq_some_iff.mpr ⟨⟨Path.hasNul_parent hleads.noNul, hlocateParent⟩, hdirectory⟩
  · cases hlocate

/-- A path whose parent is a directory can be followed to its place unless something is too long. -/
theorem leads_of_peek?_parent (hnul : path.hasNul = false)
    (hparent : tree.peek? directory path.parent = .ok (some .directory)) :
    tree.Leads directory path ∨ tree.locate directory path = .error .nameTooLong := by
  obtain ⟨hleads, hdirectory⟩ := peek?_eq_some_iff.mp hparent
  cases hlocate : tree.locate directory path with
  | ok place =>
    obtain rfl := locate_eq_ok hlocate
    exact .inl ⟨hnul, hlocate⟩
  | error reason =>
    refine .inr (congrArg Except.error ?_)
    rcases List.eq_nil_or_concat path.parts with hparts | ⟨front, name, hparts⟩
    · have hself : path.parent = path := by rw [Path.parent, hparts, List.dropLast_nil, ← hparts]
      have hfound := hleads.locate
      rw [hself, hlocate] at hfound
      cases hfound
    · rw [List.concat_eq_append] at hparts
      have hfront : path.parent.parts = front := by rw [Path.parent, hparts, List.dropLast_concat]
      have hwalk := hleads.locate
      unfold FileTree.locate at hwalk hlocate
      split at hwalk
      · split at hlocate
        · rw [hparts, walk_append, ← hfront] at hlocate
          have hstart : path.parent.anchor = path.anchor := rfl
          rw [hstart] at hwalk
          rw [hwalk, Except.bind, walk, hdirectory] at hlocate
          dsimp only at hlocate
          split at hlocate
          · cases hlocate
          · split at hlocate
            · cases hlocate
            · exact (Except.error.inj hlocate).symm
        · exact (Except.error.inj hlocate).symm
      · cases hwalk

/-- Nothing stands at the place of a path that is found to lead to nothing, if it has a directory
    for its parent. -/
theorem get?_eq_none_of_peek? (hnul : path.hasNul = false)
    (hparent : tree.peek? directory path.parent = .ok (some .directory))
    (hpeek : tree.peek? directory path = .ok none) : tree.get? (path.place directory) = none := by
  rcases leads_of_peek?_parent hnul hparent with hleads | hlong
  · rw [hleads.peek?] at hpeek
    exact Except.ok.inj hpeek
  · rw [peek?, hnul, if_neg (by decide), find, hlong] at hpeek
    cases hpeek

end FileTree

end Checklist
