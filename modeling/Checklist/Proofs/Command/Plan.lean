import Checklist.Command.BuiltIn

namespace Checklist.BuiltIn

/-- The tasks that a command saves in place of those it loaded, if it saves any. -/
def edited? (request : Request) (tasks : TaskList) : BuiltIn → Option TaskList
  | add => request.words.bind fun words => (TaskList.add? tasks (Text.spaced words)).map (·.1)
  | list => none
  | done => request.id.bind fun id => TaskList.markDone? tasks id
  | remove => request.id.bind fun id => TaskList.remove? id tasks

/-- How a command goes on once it loaded tasks. It is done then and touches nothing any more, or it
    logs its change, saves the edited tasks and reports. -/
inductive GoesOn (file : TaskFile) (next : Attempt Text.RawText) : Option TaskList → Prop where
  | idle (hidle : ∀ session, ∃ outcome, next.runFrom session = (outcome, session)) :
      GoesOn file next none
  | saves {edited : TaskList} {record : Log.Record} {report : Text.RawText}
      (hnext : next = do
        Session.log record
        file.save { tasks := edited }
        return report) : GoesOn file next (some edited)

variable {file : TaskFile} {request : Request}

theorem goesOn_performAt (id? : Option Int) (edit? : Int → TaskList → Option TaskList)
    (record : Int → Log.Record) (report : Int → String) :
    ∃ next, performAt file id? edit? record report = file.load >>= next ∧
      ∀ tasks, GoesOn file (next tasks) (id?.bind fun id => edit? id tasks) := by
  refine ⟨_, rfl, fun tasks => ?_⟩
  cases id? with
  | none => exact .idle fun session => ⟨_, rfl⟩
  | some id =>
    rw [need, pure_bind, Option.bind_some]
    cases edit? id tasks with
    | none => exact .idle fun session => ⟨_, rfl⟩
    | some edited => exact .saves rfl

theorem goesOn_performAdd (file : TaskFile) (words : List Text.RawText) :
    ∃ next, performAdd file words = file.load >>= next ∧ ∀ tasks, GoesOn file (next tasks)
      ((TaskList.add? tasks (Text.spaced words)).map (·.1)) := by
  refine ⟨_, rfl, fun tasks => ?_⟩
  cases TaskList.add? tasks (Text.spaced words) with
  | none => exact .idle fun session => ⟨_, rfl⟩
  | some added => exact .saves rfl

/-- Every command loads the tasks and goes on from there, unless it fails at once for lack of a
    field. -/
theorem perform_cases (file : TaskFile) (request : Request) (action : BuiltIn) :
    (∃ failure, perform file request action = throw failure ∧
      ∀ tasks, edited? request tasks action = none) ∨
    ∃ next, perform file request action = file.load >>= next ∧
      ∀ tasks, GoesOn file (next tasks) (edited? request tasks action) := by
  cases action with
  | add =>
    cases hwords : request.words with
    | none => exact .inl ⟨.missingField "Namespace" "text", by rw [perform, hwords]; rfl,
        fun tasks => by rw [edited?, hwords]; rfl⟩
    | some words =>
      obtain ⟨next, hnext, hgoes⟩ := goesOn_performAdd file words
      refine .inr ⟨next, ?_, fun tasks => ?_⟩
      · rw [perform, hwords, need, pure_bind, hnext]
      · rw [edited?, hwords]
        exact hgoes tasks
  | list => exact .inr ⟨_, rfl, fun tasks => .idle fun session => ⟨_, rfl⟩⟩
  | done => exact .inr (goesOn_performAt request.id _ _ _)
  | remove => exact .inr (goesOn_performAt request.id _ _ _)

end Checklist.BuiltIn
