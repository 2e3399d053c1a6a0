import Checklist.Proofs.Task.Stored
import Checklist.Proofs.Text.Decoding
import Checklist.TaskFile.Content
import Checklist.TaskList

namespace Checklist

/-- What a file of tasks holds: the lines of the tasks, each with a line feed behind it. -/
def TaskList.content (tasks : TaskList) : List UInt8 :=
  tasks.flatMap fun task => Text.Utf8.encode (task.line ++ "\n")

namespace TaskList

@[simp] theorem content_nil : content [] = [] := rfl

@[simp] theorem content_cons (task : Task) (rest : TaskList) :
    content (task :: rest) = Text.Utf8.encode (task.line ++ "\n") ++ content rest := by
  simp [content]

theorem content_append (tasks more : TaskList) :
    content (tasks ++ more) = content tasks ++ content more :=
  List.flatMap_append

theorem content_eq_flatMap (tasks : TaskList) :
    content tasks =
      (tasks.map fun task => Text.Utf8.encode task.line).flatMap (· ++ [0x0A]) := by
  rw [List.flatMap_map, content]
  simp only [Text.Utf8.encode_append, Text.Utf8.encode_lineFeed]

/-- Without line feeds in their texts, tasks stand on lines of their own before what follows. -/
theorem pieces_content_append {tasks : TaskList} (hfree : ∀ task ∈ tasks, .char '\n' ∉ task.text)
    (behind : List UInt8) :
    Text.pieces 0x0A (content tasks ++ behind) =
      tasks.map (fun task => Text.Utf8.encode task.line) ++ Text.pieces 0x0A behind := by
  rw [content_eq_flatMap]
  apply Text.pieces_terminated_append
  intro line hmem
  obtain ⟨task, htask, rfl⟩ := List.mem_map.mp hmem
  exact Text.Utf8.lineFeed_not_mem_encode (Task.lineFeed_not_mem_line (hfree task htask))

/-- Without line feeds in the texts, the lines of a file of tasks are the lines of the tasks. -/
theorem pieces_content {tasks : TaskList} (hfree : ∀ task ∈ tasks, .char '\n' ∉ task.text) :
    Text.pieces 0x0A (content tasks) =
      tasks.map (fun task => Text.Utf8.encode task.line) ++ [[]] := by
  have h := pieces_content_append hfree []
  rwa [List.append_nil, Text.pieces] at h

end TaskList

namespace Line

/-- The line of a task is not blank, since it has bars. -/
theorem ofBytes_encode_line {task : Task} {line : String} (hline : task.line = line) :
    ofBytes (Text.Utf8.encode task.line) =
      match LineReading.ofLine task.line with
      | .task stored => .task stored
      | .malformed => .malformed line
      | .overlong digits => .overlong digits := by
  have hbar : 0x7C ∈ Text.Utf8.encode task.line := by
    have hmem : '|' ∈ Text.characters task.line := by simp [Text.mem_characters, Task.line_eq]
    exact Text.Utf8.mem_encodeChars_of_mem (by decide) hmem
  have hvisible : (Text.Utf8.encode task.line).all isBlankByte = false := by
    rw [List.all_eq_false]
    exact ⟨0x7C, hbar, by decide⟩
  rw [ofBytes, hvisible, hline, Text.Utf8.decode?_encode]
  rfl

/-- The line of a task that fits on one is read as that task, but for a carriage return at its
    end. -/
theorem ofBytes_line_of_fitsLine {task : Task} (hfits : task.FitsLine) :
    ofBytes (Text.Utf8.encode task.line) = .task task.restored := by
  obtain ⟨line, hline⟩ :=
    Text.isEncodable_iff.mp (task.isEncodable_line.trans hfits.isEncodable)
  rw [ofBytes_encode_line hline, hfits.ofLine_line]

theorem map_ofBytes_lines {tasks : TaskList} (hfits : ∀ task ∈ tasks, task.FitsLine) :
    (tasks.map fun task => Text.Utf8.encode task.line).map ofBytes =
      (tasks.map Task.restored).map task := by
  rw [List.map_map, List.map_map, List.map_inj_left]
  intro task hmem
  rw [Function.comp_apply, Function.comp_apply, ofBytes_line_of_fitsLine (hfits task hmem)]

/-- Whatever stands between two line feeds, a task that is read there fits on a line. -/
theorem fitsLine_of_ofBytes {raw : List UInt8} {task : Task} (hfree : 0x0A ∉ raw)
    (hread : ofBytes raw = .task task) : task.FitsLine := by
  unfold ofBytes at hread
  split at hread
  · cases hread
  · split at hread
    · cases hread
    · next text hdecode =>
      split at hread
      · next stored hstored =>
        obtain rfl := Line.task.inj hread
        obtain ⟨hnonneg, hle, hsubset⟩ := LineReading.ofLine_eq_task hstored
        have hencodable := Text.isEncodable_of_subset hsubset (Text.isEncodable_ofString text)
        refine ⟨hnonneg, hle, fun hfeed => ?_, hencodable⟩
        obtain rfl := Text.Utf8.decode?_eq_some_iff.mp hdecode
        exact hfree (Text.Utf8.mem_encodeChars_of_mem (c := '\n') (by decide)
          (Text.mem_characters.mpr (hsubset hfeed)))
      · cases hread
      · cases hread

end Line

namespace Reading

/-- Every task of a reading comes from a line that holds it. -/
theorem mem_of_ofLines {strict : Bool} {path : Path} {number : Nat} {lines : List Line}
    {found : List Task} (hread : (ofLines strict path number lines).outcome = .ok found) :
    ∀ task ∈ found, .task task ∈ lines := by
  induction lines generalizing number found with
  | nil =>
    obtain rfl := Except.ok.inj hread
    simp
  | cons line rest ih =>
    cases line with
    | blank =>
      intro task hmem
      exact List.mem_cons_of_mem _ (ih hread task hmem)
    | task first =>
      rw [ofLines] at hread
      cases hrest : (ofLines strict path (number + 1) rest).outcome with
      | error failure => simp [hrest, Except.map] at hread
      | ok others =>
        obtain rfl : first :: others = found := by simpa [hrest, Except.map] using hread
        intro task hmem
        rcases List.mem_cons.mp hmem with rfl | hmem
        · exact List.mem_cons_self
        · exact List.mem_cons_of_mem _ (ih hrest task hmem)
    | malformed text =>
      rw [ofLines] at hread
      split at hread
      · cases hread
      · intro task hmem
        exact List.mem_cons_of_mem _ (ih hread task hmem)
    | overlong digits => cases hread

/-- What the strict reader accepts, the other one reads the same. -/
theorem ofLines_of_strict {strict : Bool} {path : Path} {number : Nat} {lines : List Line}
    {found : List Task} (hread : (ofLines strict path number lines).outcome = .ok found) :
    (ofLines false path number lines).outcome = .ok found := by
  induction lines generalizing number found with
  | nil => exact hread
  | cons line rest ih =>
    cases line with
    | blank => exact ih hread
    | task first =>
      rw [ofLines] at hread ⊢
      cases hrest : (ofLines strict path (number + 1) rest).outcome with
      | error failure => simp [hrest, Except.map] at hread
      | ok others =>
        simp only [hrest] at hread
        simp only [ih hrest, hread]
    | malformed text =>
      cases strict with
      | true => cases hread
      | false => exact hread
    | overlong digits => cases hread

/-- Every task that is read from a file fits on a line. -/
theorem fitsLine_of_ofBytes {strict : Bool} {path : Path} {content : List UInt8}
    {found : List Task} (hread : (ofBytes strict path content).outcome = .ok found) :
    ∀ task ∈ found, task.FitsLine := by
  intro task hmem
  obtain ⟨raw, hraw, hline⟩ := List.mem_map.mp (mem_of_ofLines hread task hmem)
  exact Line.fitsLine_of_ofBytes (Text.not_mem_of_mem_pieces hraw) hline

/-- Lines that hold tasks are read before what follows, without a skip. -/
theorem ofLines_tasks_append (strict : Bool) (path : Path) (number : Nat) (tasks : List Task)
    (lines : List Line) :
    ofLines strict path number (tasks.map Line.task ++ lines) =
      ⟨(ofLines strict path (number + tasks.length) lines).skips,
        (ofLines strict path (number + tasks.length) lines).outcome.map (tasks ++ ·)⟩ := by
  induction tasks generalizing number with
  | nil =>
    have hmap (outcome : Except Failure (List Task)) : outcome.map ([] ++ ·) = outcome := by
      cases outcome <;> rfl
    rw [hmap]
    rfl
  | cons task rest ih =>
    rw [List.map_cons, List.cons_append, ofLines, ih, List.length_cons, Nat.add_assoc,
      Nat.add_comm 1]
    cases (ofLines strict path (number + (rest.length + 1)) lines).outcome <;> rfl

theorem ofLines_concat_blank (strict : Bool) (path : Path) (number : Nat) (lines : List Line) :
    ofLines strict path number (lines ++ [Line.blank]) = ofLines strict path number lines := by
  induction lines generalizing number with
  | nil => rfl
  | cons line rest ih =>
    cases line with
    | blank => exact ih (number + 1)
    | task task => rw [List.cons_append, ofLines, ih, ofLines]
    | malformed text => rw [List.cons_append, ofLines, ih, ofLines]
    | overlong digits => rfl

/-- Lines that all hold tasks are read without a skip, strictly or not. -/
theorem ofLines_tasks (strict : Bool) (path : Path) (number : Nat) (tasks : List Task) :
    ofLines strict path number (tasks.map Line.task ++ [Line.blank]) = ⟨[], .ok tasks⟩ := by
  rw [ofLines_concat_blank, ← List.append_nil (tasks.map Line.task), ofLines_tasks_append]
  simp [ofLines, Except.map]

/-- What a file of tasks that fit on lines is read as. -/
theorem ofBytes_content {tasks : TaskList} (hfits : ∀ task ∈ tasks, task.FitsLine) (strict : Bool)
    (path : Path) :
    ofBytes strict path tasks.content = ⟨[], .ok (tasks.map Task.restored)⟩ := by
  have hlines : (Text.pieces 0x0A tasks.content).map Line.ofBytes =
      (tasks.map Task.restored).map Line.task ++ [Line.blank] := by
    rw [TaskList.pieces_content fun task hmem => (hfits task hmem).noLineFeed, List.map_append,
      Line.map_ofBytes_lines hfits]
    rfl
  rw [ofBytes, hlines, ofLines_tasks]

theorem map_restored_eq_self_iff {tasks : TaskList} :
    tasks.map Task.restored = tasks ↔
      ∀ task ∈ tasks, task.text.getLast? ≠ some (.char '\r') := by
  have hpointwise := List.map_inj_left (f := Task.restored) (g := id) (l := tasks)
  simpa [Task.restored_eq_self_iff] using hpointwise

/-- A file of tasks is read as exactly these tasks if each of them is storable, and otherwise it is
    read as something else or not at all. No other task of the list makes up for a damaged line,
    because everything that is read fits on a line of its own. -/
theorem ofBytes_content_eq_ok_iff {strict : Bool} {path : Path} {tasks : TaskList} :
    (ofBytes strict path tasks.content).outcome = .ok tasks ↔
      ∀ task ∈ tasks, task.Storable := by
  constructor
  · intro hread
    -- What was read fits on lines, and it is the very list that was written. So reading it restores
    -- each task in its own place.
    have hfits := fitsLine_of_ofBytes hread
    rw [ofBytes_content hfits] at hread
    have hends := map_restored_eq_self_iff.mp (Except.ok.inj hread)
    exact fun task hmem => ⟨hfits task hmem, hends task hmem⟩
  · intro hstorable
    rw [ofBytes_content fun task hmem => (hstorable task hmem).toFitsLine,
      map_restored_eq_self_iff.mpr fun task hmem => (hstorable task hmem).noFinalReturn]

end Reading

end Checklist
