import Checklist.Proofs.Task.Stored
import Checklist.Proofs.Text.Pieces
import Checklist.TaskList
import Std.Data.String.ToInt

namespace Checklist

open Text (Point ofChars ofString)

namespace Task

/-- The text of a number has digits and a sign only. -/
theorem not_mem_toString_id {c : Char} (hdigit : c.isDigit = false) (hsign : c ≠ '-') (id : Int) :
    .char c ∉ ofString (toString id) := by
  have hdigits (n : Nat) : c ∉ Nat.toDigits 10 n := LineReading.not_mem_toDigits hdigit n
  rw [ofString, Text.mem_ofChars, Int.toString_eq_repr, Int.repr_eq_if]
  split
  · simpa using hdigits _
  · simpa [hsign] using hdigits _

def mark (task : Task) : Char :=
  if task.done then 'x' else ' '

theorem row_eq (task : Task) :
    task.row = ofString (toString task.id) ++ .char ' ' :: .char '[' :: .char task.mark ::
      .char ']' :: .char ' ' :: task.text := by
  have hrow : task.row = ofString (toString task.id ++ " [") ++
      ofString (if task.done then "x" else " ") ++ ofString "] " ++ task.text := rfl
  rw [hrow, mark]
  split <;> simp [ofString]

theorem row_inj {task other : Task} : task.row = other.row ↔ task = other := by
  constructor
  · intro hrow
    have hblank (id : Int) := not_mem_toString_id (c := ' ') (by decide) (by decide) id
    rw [row_eq, row_eq, Text.append_cons_inj (hblank _) (hblank _)] at hrow
    simp only [List.cons.injEq, true_and, Point.char.injEq] at hrow
    obtain ⟨hid, hmark, htext⟩ := hrow
    have hdone : task.done = other.done := by
      unfold mark at hmark
      cases htask : task.done <;> cases hother : other.done <;> simp [htask, hother] at hmark ⊢
    obtain ⟨id, text, done⟩ := task
    obtain ⟨otherId, otherText, otherDone⟩ := other
    rw [Text.ofString_inj, Int.toString_eq_repr, Int.toString_eq_repr, Int.repr_inj] at hid
    rw [Task.mk.injEq]
    exact ⟨hid, htext, hdone⟩
  · rintro rfl
    rfl

theorem lineFeed_not_mem_row {task : Task} (hfree : .char '\n' ∉ task.text) :
    .char '\n' ∉ task.row := by
  have hid := not_mem_toString_id (c := '\n') (by decide) (by decide) task.id
  have hmark : '\n' ≠ task.mark := by
    unfold mark
    split <;> decide
  rw [row_eq, List.mem_append, not_or]
  exact ⟨hid, by simp [hmark, hfree]⟩

end Task

namespace TaskList

variable {tasks more : TaskList}

theorem listing_of_ne_nil (hne : tasks ≠ []) :
    listing tasks = [Point.char '\n'].intercalate (tasks.map Task.row) := by
  have hfull : List.isEmpty tasks = false := by simpa using hne
  rw [listing, hfull, if_neg Bool.false_ne_true]
  rfl

/-- The rows of a listing are its lines. -/
theorem splitOn_listing (hne : tasks ≠ []) (hfree : ∀ task ∈ tasks, .char '\n' ∉ task.text) :
    (listing tasks).splitOn (.char '\n') = tasks.map Task.row := by
  rw [listing_of_ne_nil hne]
  apply List.splitOn_intercalate
  · intro row hmem
    obtain ⟨task, htask, rfl⟩ := List.mem_map.mp hmem
    exact Task.lineFeed_not_mem_row (hfree task htask)
  · simpa using hne

/-- A listing of tasks starts with a number, and the remark that there are none does not. -/
theorem listing_eq_remark_iff : listing tasks = "No tasks yet." ↔ tasks = [] := by
  constructor
  · intro hlisting
    cases tasks with
    | nil => rfl
    | cons task rest =>
      obtain ⟨behind, hfirst⟩ : ∃ behind,
          listing (task :: rest) = ofString (toString task.id) ++ .char ' ' :: behind := by
        rw [listing_of_ne_nil (List.cons_ne_nil task rest), List.map_cons, Task.row_eq]
        cases rest with
        | nil => exact ⟨_, List.intercalate_singleton⟩
        | cons next others =>
          rw [List.map_cons, List.intercalate_cons_cons, List.append_assoc, List.append_assoc]
          exact ⟨_, rfl⟩
      have hremark : ofString "No tasks yet." =
          ofString "No" ++ .char ' ' :: ofString "tasks yet." := rfl
      have hblank := Task.not_mem_toString_id (c := ' ') (by decide) (by decide) task.id
      have hletter := Task.not_mem_toString_id (c := 'N') (by decide) (by decide) task.id
      rw [hlisting, hremark, Text.append_cons_inj (by decide) hblank] at hfirst
      rw [← hfirst.1] at hletter
      exact absurd List.mem_cons_self hletter
  · rintro rfl
    rfl

/-- Lists whose texts have no line feeds can be told apart by their listings. -/
theorem listing_inj (hfree : ∀ task ∈ tasks, .char '\n' ∉ task.text)
    (hmore : ∀ task ∈ more, .char '\n' ∉ task.text) :
    listing tasks = listing more ↔ tasks = more := by
  constructor
  · intro hlisting
    rcases eq_or_ne tasks [] with rfl | hne
    · exact (listing_eq_remark_iff.mp hlisting.symm).symm
    · have hneMore : more ≠ [] := by
        rintro rfl
        exact hne (listing_eq_remark_iff.mp hlisting)
      have hrows := splitOn_listing hne hfree
      rw [hlisting, splitOn_listing hneMore hmore] at hrows
      refine (List.map_inj_right fun task other hrow => ?_).mp hrows.symm
      exact Task.row_inj.mp hrow
  · rintro rfl
    rfl

end TaskList

end Checklist
