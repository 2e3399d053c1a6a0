namespace Checklist.Text

/-- The stretches of a list between the occurrences of a separator. There is always one more
    stretch than there are separators, and stretches can be empty. -/
def pieces {α : Type} [DecidableEq α] (separator : α) : List α → List (List α)
  | [] => [[]]
  | a :: rest =>
    if a = separator then [] :: pieces separator rest
    else
      match pieces separator rest with
      | [] => [[a]]
      | piece :: others => (a :: piece) :: others

theorem pieces_ne_nil {α : Type} [DecidableEq α] (separator : α) (s : List α) :
    pieces separator s ≠ [] := by
  cases s with
  | nil => simp [pieces]
  | cons a rest =>
    simp only [pieces]
    split
    · simp
    · split <;> simp

/-- Cutting at one separator cuts the list of stretches in two. -/
theorem pieces_append_cons {α : Type} [DecidableEq α] (separator : α) (s t : List α) :
    pieces separator (s ++ separator :: t) = pieces separator s ++ pieces separator t := by
  induction s with
  | nil => simp [pieces]
  | cons a rest ih =>
    by_cases ha : a = separator
    · simp [pieces, ha, ih]
    · obtain ⟨piece, others, hrest⟩ := List.exists_cons_of_ne_nil (pieces_ne_nil separator rest)
      simp [pieces, ha, ih, hrest]

/-- A list without the separator is its own only stretch. -/
theorem pieces_of_not_mem {α : Type} [DecidableEq α] {separator : α} {s : List α}
    (hfree : separator ∉ s) : pieces separator s = [s] := by
  induction s with
  | nil => rfl
  | cons a rest ih =>
    have hhead : a ≠ separator := by rintro rfl; simp at hfree
    have hrest : separator ∉ rest := by intro hmem; simp [hmem] at hfree
    simp [pieces, hhead, ih hrest]

/-- No stretch holds the separator. -/
theorem not_mem_of_mem_pieces {α : Type} [DecidableEq α] {separator : α} {s piece : List α}
    (hmem : piece ∈ pieces separator s) : separator ∉ piece := by
  induction s generalizing piece with
  | nil => simp [pieces] at hmem; simp [hmem]
  | cons a rest ih =>
    obtain ⟨first, others, hrest⟩ := List.exists_cons_of_ne_nil (pieces_ne_nil separator rest)
    by_cases ha : a = separator
    · rw [pieces, if_pos ha, List.mem_cons] at hmem
      rcases hmem with rfl | hmem
      · simp
      · exact ih hmem
    · rw [pieces, if_neg ha, hrest] at hmem
      simp only [List.mem_cons] at hmem
      rcases hmem with rfl | hmem
      · have hfirst : separator ∉ first := ih (by simp [hrest])
        simp [hfirst, Ne.symm ha]
      · exact ih (by simp [hrest, hmem])

end Checklist.Text
