import Checklist.Text.Pieces

namespace Checklist.Text

variable {α : Type} [DecidableEq α] {separator : α} {s piece : List α}
  {lines front back : List (List α)}

theorem pieces_eq_splitOn (separator : α) (s : List α) :
    pieces separator s = s.splitOn separator := by
  induction s with
  | nil => rfl
  | cons a rest ih =>
    obtain ⟨first, others, hrest⟩ := List.exists_cons_of_ne_nil (pieces_ne_nil separator rest)
    rw [List.splitOn_eq_splitOnP, List.splitOnP_cons_eq_if_modifyHead, ← List.splitOn_eq_splitOnP,
      ← ih, pieces]
    by_cases ha : a = separator
    · simp [ha]
    · simp [ha, hrest]

/-- There is one more stretch than there are separators. -/
theorem length_pieces (separator : α) (s : List α) :
    (pieces separator s).length = 1 + s.count separator := by
  induction s with
  | nil => rfl
  | cons a rest ih =>
    by_cases ha : a = separator
    · rw [pieces, if_pos ha, List.length_cons, ih, ha, List.count_cons_self]
      omega
    · obtain ⟨piece, others, hrest⟩ := List.exists_cons_of_ne_nil (pieces_ne_nil separator rest)
      rw [pieces, if_neg ha, List.count_cons_of_ne ha, ← ih, hrest]
      rfl

/-- What stands before the first separator is lengthened by anything without one. -/
theorem pieces_append_of_not_mem {front : List α} (hfree : separator ∉ front) :
    pieces separator (front ++ s) = (pieces separator s).modifyHead (front ++ ·) := by
  obtain ⟨first, others, hs⟩ := List.exists_cons_of_ne_nil (pieces_ne_nil separator s)
  induction front with
  | nil => simp [hs]
  | cons a rest ih =>
    obtain ⟨ha, hrest⟩ : a ≠ separator ∧ separator ∉ rest := by
      simpa [eq_comm] using hfree
    rw [List.cons_append, pieces, if_neg ha, ih hrest, hs]
    rfl

theorem pieces_cons_of_not_mem (hfree : separator ∉ piece) :
    pieces separator (piece ++ separator :: s) = piece :: pieces separator s := by
  rw [pieces_append_cons, pieces_of_not_mem hfree, List.singleton_append]

/-- A separator can be told by what stands before it, if that has none itself. -/
theorem append_cons_inj {t u v : List α} (hs : separator ∉ s) (ht : separator ∉ t) :
    s ++ separator :: u = t ++ separator :: v ↔ s = t ∧ u = v := by
  constructor
  · intro heq
    have hpieces := congrArg (pieces separator) heq
    rw [pieces_cons_of_not_mem hs, pieces_cons_of_not_mem ht] at hpieces
    obtain ⟨rfl, -⟩ := List.cons.inj hpieces
    exact ⟨rfl, (List.cons.inj (List.append_cancel_left heq)).2⟩
  · rintro ⟨rfl, rfl⟩
    rfl

theorem pieces_terminated_append (hfree : ∀ line ∈ lines, separator ∉ line) (s : List α) :
    pieces separator (lines.flatMap (· ++ [separator]) ++ s) = lines ++ pieces separator s := by
  induction lines with
  | nil => rfl
  | cons line rest ih =>
    have hline : separator ∉ line := hfree line (by simp)
    have hrest : ∀ other ∈ rest, separator ∉ other := fun other hmem => hfree other (by simp [hmem])
    rw [List.flatMap_cons, List.append_assoc, List.append_assoc, List.singleton_append,
      pieces_cons_of_not_mem hline, ih hrest, List.cons_append]

theorem pieces_terminated (hfree : ∀ line ∈ lines, separator ∉ line) :
    pieces separator (lines.flatMap (· ++ [separator])) = lines ++ [[]] := by
  have h := pieces_terminated_append hfree []
  rwa [List.append_nil, pieces] at h

/-- The stretches, each with a separator behind it, make up the list but for the last separator. -/
theorem flatMap_pieces (separator : α) (s : List α) :
    (pieces separator s).flatMap (· ++ [separator]) = s ++ [separator] := by
  induction s with
  | nil => rfl
  | cons a rest ih =>
    by_cases ha : a = separator
    · rw [pieces, if_pos ha, List.flatMap_cons, ih, ha]
      rfl
    · obtain ⟨first, others, hrest⟩ := List.exists_cons_of_ne_nil (pieces_ne_nil separator rest)
      rw [hrest, List.flatMap_cons] at ih
      rw [pieces, if_neg ha, hrest]
      simp only [List.flatMap_cons, List.cons_append, ih]

/-- Where one of the stretches stands in the list. -/
theorem eq_of_pieces_eq (hpieces : pieces separator s = front ++ piece :: back) :
    ∃ behind, s = front.flatMap (· ++ [separator]) ++ piece ++ behind ∧
      (behind = [] ∨ behind.head? = some separator) := by
  have hjoined := flatMap_pieces separator s
  rw [hpieces, List.flatMap_append, List.flatMap_cons] at hjoined
  rcases List.eq_nil_or_concat back with rfl | ⟨others, last, rfl⟩
  · refine ⟨[], ?_, .inl rfl⟩
    apply (List.append_left_inj [separator]).mp
    rw [← hjoined]
    simp
  · refine ⟨separator :: (others.flatMap (· ++ [separator]) ++ last), ?_, .inr rfl⟩
    apply (List.append_left_inj [separator]).mp
    rw [← hjoined]
    simp

theorem count_terminated (hfree : ∀ line ∈ lines, separator ∉ line) :
    (lines.flatMap (· ++ [separator])).count separator = lines.length := by
  induction lines with
  | nil => rfl
  | cons line rest ih =>
    have hline : separator ∉ line := hfree line List.mem_cons_self
    have hrest := ih fun other hmem => hfree other (List.mem_cons_of_mem _ hmem)
    rw [List.flatMap_cons, List.count_append, List.count_append, hrest,
      List.count_eq_zero_of_not_mem hline, List.count_singleton_self, List.length_cons]
    omega

end Checklist.Text
