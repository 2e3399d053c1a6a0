import Checklist.Proofs.TaskFile.Accounting
import Checklist.Proofs.TaskList

namespace Checklist

/-- The lines of a text behind its first one. In a file of tasks they come to stand on lines of
    their own. -/
def Task.laterLines (text : Text.RawText) : List (List UInt8) :=
  (Text.pieces 0x0A (Text.Utf8.encode text)).tail

/-- The task with nothing of its text but the first line. -/
def Task.cut (task : Task) : Task :=
  { task with text := (Text.pieces (.char '\n') task.text).headD [] }

variable {tasks : TaskList} {task : Task}

theorem Task.fitsLine_cut (hnonneg : 0 ≤ task.id) (hle : task.id ≤ Task.maxId)
    (hencodable : Text.isEncodable task.text = true) : task.cut.FitsLine := by
  obtain ⟨first, others, hpieces⟩ :=
    List.exists_cons_of_ne_nil (Text.pieces_ne_nil (.char '\n') task.text)
  have hcut : task.cut.text = first := by simp [cut, hpieces]
  have hfirst : .char '\n' ∉ first := Text.not_mem_of_mem_pieces (hpieces ▸ List.mem_cons_self)
  obtain ⟨behind, htext, -⟩ := Text.eq_of_pieces_eq (hpieces.trans (List.nil_append _).symm)
  have hsubset : first ⊆ task.text := by simp [htext]
  exact ⟨hnonneg, hle, hcut ▸ hfirst, hcut ▸ Text.isEncodable_of_subset hsubset hencodable⟩

theorem Task.lineFeed_not_mem_of_mem_laterLines {text : Text.RawText} {raw : List UInt8}
    (hmem : raw ∈ laterLines text) : 0x0A ∉ raw :=
  Text.not_mem_of_mem_pieces (List.mem_of_mem_tail hmem)

/-- Only the first line of a text stands on the line of the task. -/
theorem Task.pieces_line (task : Task) :
    Text.pieces 0x0A (Text.Utf8.encode task.line) =
      Text.Utf8.encode task.cut.line :: laterLines task.text := by
  obtain ⟨first, others, hpieces⟩ :=
    List.exists_cons_of_ne_nil (Text.pieces_ne_nil (.char '\n') task.text)
  let head : Text.RawText :=
    Text.ofChars (toString task.id).toList ++ [.char '|', .char task.flag, .char '|']
  have hline : task.line = head ++ task.text := by simp [line_eq, head]
  have hcut : task.cut.line = head ++ first := by simp [line_eq, head, cut, hpieces, Task.flag]
  have hhead : .char '\n' ∉ head := by
    have hfree : .char '\n' ∉ ({ task with text := [] } : Task).line :=
      lineFeed_not_mem_line (by simp)
    simpa [line_eq, head, Task.flag] using hfree
  rw [laterLines, Text.Utf8.pieces_encode, Text.Utf8.pieces_encode, hline, hcut,
    Text.pieces_append_of_not_mem hhead, hpieces]
  rfl

/-- What stands on the lines of a file when a task with any text was added behind tasks that fit. -/
theorem TaskList.pieces_content_concat (hfits : ∀ task ∈ tasks, task.FitsLine) (task : Task) :
    Text.pieces 0x0A (content (tasks ++ [task])) =
      (tasks ++ [task.cut]).map (fun task => Text.Utf8.encode task.line) ++
        (Task.laterLines task.text ++ [[]]) := by
  have hcontent : content (tasks ++ [task]) =
      content tasks ++ (Text.Utf8.encode task.line ++ 0x0A :: []) := by
    simp [content, Text.Utf8.encode_append, Text.Utf8.encode_lineFeed]
  rw [hcontent, pieces_content_append fun task hmem => (hfits task hmem).noLineFeed,
    Text.pieces_append_cons, Task.pieces_line]
  simp [Text.pieces]

/-- A file to which a task with any text was added is read strictly exactly if every later line of
    the text is blank or stores a task. Those tasks come last then. -/
theorem Reading.ofBytes_content_concat_iff (path : Path) (hfits : ∀ task ∈ tasks, task.FitsLine)
    (task : Task) (hnonneg : 0 ≤ task.id) (hle : task.id ≤ Task.maxId)
    (hencodable : Text.isEncodable task.text = true) (found : List Task) :
    (ofBytes true path (TaskList.content (tasks ++ [task]))).outcome = .ok found ↔
      ∃ more, Accounts (tasks.length + 2) (Task.laterLines task.text) more [] ∧
        found = (tasks ++ [task.cut]).map Task.restored ++ more := by
  have hfitsCut : ∀ other ∈ tasks ++ [task.cut], other.FitsLine := by
    intro other hmem
    rcases List.mem_append.mp hmem with hmem | hmem
    · exact hfits other hmem
    · obtain rfl := List.mem_singleton.mp hmem
      exact Task.fitsLine_cut hnonneg hle hencodable
  have hnumber : 1 + ((tasks ++ [task.cut]).map Task.restored).length = tasks.length + 2 := by
    simp
    omega
  have hblank : Line.ofBytes [] = .blank := rfl
  rw [ofBytes, TaskList.pieces_content_concat hfits, List.map_append,
    Line.map_ofBytes_lines hfitsCut, ofLines_tasks_append, hnumber, List.map_append,
    List.map_singleton, hblank, ofLines_concat_blank]
  let later := ofLines true path (tasks.length + 2) ((Task.laterLines task.text).map Line.ofBytes)
  have hlater (more : List Task) : later.outcome = .ok more ↔
      Accounts (tasks.length + 2) (Task.laterLines task.text) more [] :=
    ofLines_true_eq_ok_iff path (tasks.length + 2) fun _ => Task.lineFeed_not_mem_of_mem_laterLines
  simp only [← hlater]
  cases later.outcome with
  | error failure => simp [Except.map]
  | ok more => simp [Except.map, eq_comm]

end Checklist
