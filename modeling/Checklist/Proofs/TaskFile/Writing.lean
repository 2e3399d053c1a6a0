import Checklist.Proofs.Session.Steps
import Checklist.Proofs.TaskFile.Lines
import Checklist.Proofs.TaskList
import Checklist.TaskFile.Save

namespace Checklist

namespace Task

variable {task other : Task}

theorem writingFailure?_eq_none_iff :
    task.writingFailure? = none ↔
      task.isWritable = true ∧ Text.isEncodable task.text = true := by
  rw [writingFailure?, isEncodable_line]
  split
  · next hwritable =>
    split
    · next hencodable => simp [hwritable, hencodable]
    · next hencodable => simp [hencodable]
  · next hwritable => simp [hwritable]

theorem FitsLine.writingFailure?_eq_none (hfits : task.FitsLine) : task.writingFailure? = none :=
  writingFailure?_eq_none_iff.mpr ⟨hfits.isWritable, hfits.isEncodable⟩

/-- A number in range leaves the text as the only thing that can fail. -/
theorem writingFailure?_of_le (hnonneg : 0 ≤ task.id) (hle : task.id ≤ maxId) :
    task.writingFailure? =
      if Text.isEncodable task.text then none else some (.unencodable task.line) := by
  rw [writingFailure?, if_pos (isWritable_of_le hnonneg hle), isEncodable_line]

end Task

theorem TaskList.findSome?_writingFailure?_of_fitsLine {tasks : TaskList}
    (hfits : ∀ task ∈ tasks, task.FitsLine) : tasks.findSome? Task.writingFailure? = none :=
  List.findSome?_eq_none_iff.mpr fun task hmem => (hfits task hmem).writingFailure?_eq_none

/-- A new task behind tasks that fit can be written unless its text has lone surrogates. -/
theorem TaskList.findSome?_writingFailure?_concat {tasks : TaskList}
    (hfits : ∀ task ∈ tasks, task.FitsLine) (hroom : tasks.lastId < Task.maxId)
    (text : Text.RawText) :
    List.findSome? Task.writingFailure? (tasks ++ [⟨tasks.lastId + 1, text, false⟩]) =
      if Text.isEncodable text then none
      else some (.unencodable (Task.line ⟨tasks.lastId + 1, text, false⟩)) := by
  have hnonneg := lastId_nonneg fun task hmem => (hfits task hmem).nonneg
  rw [List.findSome?_append, findSome?_writingFailure?_of_fitsLine hfits, Option.none_or,
    List.findSome?_singleton]
  have hnext : 0 ≤ tasks.lastId + 1 ∧ tasks.lastId + 1 ≤ Task.maxId := by omega
  exact Task.writingFailure?_of_le hnext.1 hnext.2

namespace Writing

def bytes (steps : List WriteStep) : List UInt8 :=
  steps.flatMap fun
    | .record _ => []
    | .portion bytes => bytes

@[simp] theorem bytes_nil : bytes [] = [] := rfl

@[simp] theorem bytes_record (record : Log.Record) (rest : List WriteStep) :
    bytes (.record record :: rest) = bytes rest := rfl

@[simp] theorem bytes_portion (portion : List UInt8) (rest : List WriteStep) :
    bytes (.portion portion :: rest) = portion ++ bytes rest := rfl

@[simp] theorem bytes_append (front back : List WriteStep) :
    bytes (front ++ back) = bytes front ++ bytes back := by
  simp [bytes]

theorem bytes_map_record (records : List Log.Record) : bytes (records.map .record) = [] := by
  induction records with
  | nil => rfl
  | cons record rest ih => rw [List.map_cons, bytes_record, ih]

theorem bytes_map_portion (portions : Portions) :
    bytes (portions.map .portion) = portions.flatten := by
  induction portions with
  | nil => rfl
  | cons portion rest ih => rw [List.map_cons, bytes_portion, ih, List.flatten_cons]

/-- Tasks that can all be written come to the file line by line, behind what was on its way before.
    Where the bytes are gathered makes no difference. -/
theorem bytes_ofTasks {interruption : Option String} {tasks : List Task}
    (hwritable : ∀ task ∈ tasks, task.writingFailure? = none) (backlog : Backlog) :
    bytes (ofTasks interruption backlog tasks).steps =
      backlog.bytes ++ TaskList.content tasks := by
  induction tasks generalizing backlog with
  | nil => simp [ofTasks]
  | cons task rest ih =>
    have hrest := ih fun other hmem => hwritable other (List.mem_cons_of_mem _ hmem)
    have hline := backlog.bytes_push (Text.Utf8.encode task.line)
    have hfeed := (backlog.push (Text.Utf8.encode task.line)).2.bytes_push (Text.Utf8.encode "\n")
    rw [ofTasks, hwritable task List.mem_cons_self]
    simp only [bytes_append, bytes_map_record, bytes_map_portion, List.flatten_append,
      List.nil_append, hrest, TaskList.content_cons, Text.Utf8.encode_append]
    rw [List.append_assoc, ← List.append_assoc _ _ (TaskList.content rest), hfeed,
      ← List.append_assoc, ← List.append_assoc, hline]
    simp only [List.append_assoc]

/-- Writing fails at the first task that cannot be written, and else where the tasks stop coming. -/
theorem failure_ofTasks (interruption : Option String) (tasks : List Task) (backlog : Backlog) :
    (ofTasks interruption backlog tasks).failure =
      (tasks.findSome? Task.writingFailure?).or (interruption.map .sourceFailed) := by
  induction tasks generalizing backlog with
  | nil => rfl
  | cons task rest ih =>
    rw [ofTasks, List.findSome?_cons]
    cases task.writingFailure? with
    | some failure => rfl
    | none =>
      dsimp only
      rw [ih]

end Writing

theorem FileTree.put_put (tree : FileTree) (place : Location) (first second : Entry)
    (spared : List Location) :
    ((tree.put place first).put place second).AgreesExcept spared (tree.put place second) := by
  apply AgreesExcept.of_get?_eq
  intro other hroot
  rw [get?_put _ second hroot, get?_put _ second hroot, get?_put _ first hroot]
  split <;> rfl

theorem FileTree.put_same {tree : FileTree} {place : Location} {entry : Entry}
    (hentry : tree.get? place = some entry) (spared : List Location) :
    tree.AgreesExcept spared (tree.put place entry) := by
  apply AgreesExcept.of_get?_eq
  intro other hroot
  rw [get?_put tree entry hroot]
  split
  · next hother => rw [hother, hentry]
  · rfl

/-- Bytes written behind everything that a file holds are added to it. -/
theorem FileTree.overwrite_at_end {tree : FileTree} {place : Location} {sofar : List UInt8}
    (hfile : tree.get? place = some (.file sofar)) (bytes : List UInt8) :
    tree.overwrite place sofar.length bytes = tree.put place (.file (sofar ++ bytes)) := by
  have hnothing : sofar.drop (sofar.length + bytes.length) = [] :=
    List.drop_eq_nil_of_le (Nat.le_add_right _ _)
  simp [overwrite, hfile, hnothing]

theorem FileTree.get?_put_self {tree : FileTree} {place : Location} (hroot : place ≠ [])
    (entry : Entry) : (tree.put place entry).get? place = some entry := by
  rw [get?_put tree entry hroot, if_pos rfl]

theorem FileTree.ne_nil_of_get?_file {tree : FileTree} {place : Location} {content : List UInt8}
    (hfile : tree.get? place = some (.file content)) : place ≠ [] := by
  rintro rfl
  simp at hfile

namespace TaskFile

/-- Taking the steps of writing adds their bytes to the open file and issues their records. The
    bytes land behind each other because every step starts where the one before ended. -/
theorem runFrom_take {session : Session} {place : Location} {sofar : List UInt8}
    (hfile : session.tree.get? place = some (.file sofar))
    (hlog : place ∉ session.logPlaces) (steps : List WriteStep) :
    ∃ after, (take place sofar.length steps).runFrom session = (.ok (), after) ∧
      session.Continues after
        (session.tree.put place (.file (sofar ++ Writing.bytes steps))) := by
  -- A record changes the session and a portion what the file holds, so both must vary.
  induction steps generalizing session sofar with
  | nil =>
    refine ⟨session, rfl, (Session.Continues.refl session).congr ?_⟩
    rw [Writing.bytes_nil, List.append_nil]
    exact FileTree.put_same hfile _
  | cons step rest ih =>
    cases step with
    | record record =>
      have hissue := session.continues_issue record
      have hissuedFile : (session.issue record).tree.get? place = some (.file sofar) :=
        (hissue.tree.entries place hlog).trans hfile
      have hissuedLog : place ∉ (session.issue record).logPlaces := hissue.logPlaces ▸ hlog
      obtain ⟨after, hrun, hafter⟩ := ih hissuedFile hissuedLog
      refine ⟨after, ?_, (hissue.self.trans hafter).congr (hissue.tree.put place _)⟩
      rw [take, Attempt.runFrom_bind_of_ok (Session.runFrom_log record session), hrun]
    | portion bytes =>
      have hroot := FileTree.ne_nil_of_get?_file hfile
      have hwritten := FileTree.overwrite_at_end hfile bytes
      let written : Session :=
        { session with tree := session.tree.put place (.file (sofar ++ bytes)) }
      have hcontinues : session.Continues written written.tree := ⟨rfl, rfl, .refl _ _⟩
      have hwrittenFile : written.tree.get? place = some (.file (sofar ++ bytes)) :=
        FileTree.get?_put_self hroot _
      obtain ⟨after, hrun, hafter⟩ := ih hwrittenFile hlog
      refine ⟨after, ?_, (hcontinues.trans hafter).congr ?_⟩
      · rw [take, Attempt.runFrom_bind_of_ok (Session.runFrom_overwrite _ _ _ _), hwritten,
          ← List.length_append, hrun]
      · rw [List.append_assoc]
        exact FileTree.put_put _ _ _ _ _

variable {file : TaskFile} {source : TaskSource} {faults : SaveFaults} {before after : Session}

/-- A save that succeeds went through all of its steps. -/
theorem save_steps_of_ok (hsave : (file.save source faults).runFrom before = (.ok (), after)) :
    ∃ unfaulted rooted draft written,
      (failOn faults.parents).runFrom before = (.ok (), unfaulted) ∧
      file.ensureDirectory.runFrom unfaulted = (.ok (), rooted) ∧ file.draft? = some draft ∧
      (file.writeThrough draft source faults).runFrom rooted = (.ok (), written) ∧
      after = written.issue (file.savedRecord source.tasks.length) := by
  obtain ⟨_, unfaulted, hfault, hsave⟩ := Attempt.runFrom_bind_eq_ok_iff.mp hsave
  obtain ⟨_, rooted, hroot, hsave⟩ := Attempt.runFrom_bind_eq_ok_iff.mp hsave
  obtain ⟨draft, drafted, hdraft, hsave⟩ := Attempt.runFrom_bind_eq_ok_iff.mp hsave
  obtain ⟨_, written, hwrite, hlog⟩ := Attempt.runFrom_bind_eq_ok_iff.mp hsave
  rw [TaskFile.draft] at hdraft
  split at hdraft
  · next path hpath =>
    obtain ⟨hok, rfl⟩ := Prod.mk.inj hdraft
    obtain rfl := Except.ok.inj hok
    refine ⟨unfaulted, rooted, path, written, hfault, hroot, hpath, ?_, (Prod.mk.inj hlog).2.symm⟩
    apply Attempt.runFrom_of_tryCatch _ hwrite
    -- After the clean-up the failure is thrown again, unless the clean-up itself failed.
    intro failure middle
    rw [Attempt.runFrom_bind]
    split
    · exact ⟨failure, rfl⟩
    · exact ⟨_, rfl⟩
  · cases hdraft

theorem writingFailure?_of_writeThrough {draft : Path}
    (hwrite : (file.writeThrough draft source faults).runFrom before = (.ok (), after)) :
    ∀ task ∈ source.tasks, task.writingFailure? = none := by
  obtain ⟨place, opened, -, hwrite⟩ := Attempt.runFrom_bind_eq_ok_iff.mp hwrite
  obtain ⟨_, filled, -, hwrite⟩ := Attempt.runFrom_bind_eq_ok_iff.mp hwrite
  have hfailure := Writing.failure_ofTasks source.failure source.tasks {}
  split at hwrite
  · cases hwrite
  · next hnone =>
    rw [hnone, eq_comm, Option.or_eq_none_iff, List.findSome?_eq_none_iff] at hfailure
    exact hfailure.1

/-- What could not be written is not saved. -/
theorem writingFailure?_of_save
    (hsave : (file.save source faults).runFrom before = (.ok (), after)) :
    ∀ task ∈ source.tasks, task.writingFailure? = none := by
  obtain ⟨-, rooted, draft, written, -, -, -, hwrite, -⟩ := save_steps_of_ok hsave
  exact writingFailure?_of_writeThrough hwrite

end TaskFile

end Checklist
