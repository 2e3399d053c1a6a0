import Checklist.Program
import Checklist.Proofs.Command.Running
import Checklist.Proofs.CommandLine.Parse

namespace Checklist

/-- What the program can be told to do. -/
inductive Order where
  | list
  | done (id : Nat)
  | remove (id : Nat)
  | add (words : List Text.RawText)
  deriving Repr, DecidableEq

namespace Order

def commandLine : Order → List Text.RawText
  | list => ["list"]
  | done id => ["done", toString id]
  | remove id => ["rm", toString id]
  | add words => "add" :: words

/-- An order that can be given: a number that is not too long, or words that are no options and
    whose text has no line feed and no carriage return at its end. -/
def Admissible : Order → Prop
  | list => True
  | done id => (toString id).length ≤ Numeral.maxDigits
  | remove id => (toString id).length ≤ Numeral.maxDigits
  | add words => words ≠ [] ∧ (∀ word ∈ words, CommandLine.IsPlain word) ∧
      .char '\n' ∉ Text.spaced words ∧ (Text.spaced words).getLast? ≠ some (.char '\r')

instance : (order : Order) → Decidable order.Admissible
  | list => inferInstanceAs (Decidable True)
  | done _ => inferInstanceAs (Decidable (_ ≤ _))
  | remove _ => inferInstanceAs (Decidable (_ ≤ _))
  | add _ => inferInstanceAs (Decidable (_ ∧ _ ∧ _ ∧ _))

def largest (tasks : TaskList) : Int := (tasks.map (·.id)).max?.getD 0

/-- What an order on one task comes to: the changed list and a report, if there is such a task. -/
def applyAt (stored : Option TaskList) (id : Nat) (changed : TaskList) (report : String) :
    Option TaskList × Except Failure Text.RawText :=
  if (stored.getD []).any (·.id == (id : Int)) then (some changed, .ok report)
  else (stored, .ok s!"Task {id} not found.")

/-- What is stored after an order, if anything is, and the reply to it. A new task is not stored if
    no number is left for it or its text has lone surrogates. -/
def apply (stored : Option TaskList) : Order → Option TaskList × Except Failure Text.RawText
  | list => (stored, .ok (TaskList.listing (stored.getD [])))
  | done id =>
    let tasks := stored.getD []
    let first := tasks.findIdx (·.id == (id : Int))
    applyAt stored id (tasks.modify first fun task => { task with done := true })
      s!"Marked {id} done."
  | remove id =>
    applyAt stored id ((stored.getD []).eraseP (·.id == (id : Int))) s!"Removed {id}."
  | add words =>
    let tasks := stored.getD []
    let task : Task := ⟨largest tasks + 1, Text.spaced words, false⟩
    if Task.maxId ≤ largest tasks then (stored, .error (.idsExhausted (largest tasks)))
    else if Text.isEncodable task.text then
      (some (tasks ++ [task]), .ok (s!"Added task {task.id}: " ++ task.text))
    else (stored, .error (.unencodable task.line))

/-- How the program ends on a reply. A failure that is not expected is let out. -/
def ending : Except Failure Text.RawText → Except Failure Ending
  | .ok reply => .ok { code := 0, output := reply ++ "\n" }
  | .error failure => if failure.isExpected then .ok { code := 1 } else .error failure

/-- What is stored after each of several orders, and how the program ends on each. -/
def applyAll (stored : Option TaskList) :
    List Order → List (Option TaskList × Except Failure Ending)
  | [] => []
  | order :: rest =>
    let (after, reply) := order.apply stored
    (after, ending reply) :: applyAll after rest

def action : Order → BuiltIn
  | list => .list
  | done _ => .done
  | remove _ => .remove
  | add _ => .add

def request : Order → Request
  | list => { command := some "list" }
  | done id => BuiltIn.requestAt "done" id
  | remove id => BuiltIn.requestAt "rm" id
  | add words => { command := some "add", words := some words }

theorem parse_commandLine {order : Order} (hadmissible : order.Admissible) :
    CommandLine.parse BuiltIn.registry order.commandLine = .request order.request := by
  cases order with
  | list =>
    have hread : CommandLine.readParameter .nothing [] = .ok (none, []) := rfl
    exact CommandLine.parse_eq_request (by decide) (BuiltIn.named?_command .list) hread
  | done id =>
    exact CommandLine.parse_eq_request (by decide) (BuiltIn.named?_command .done)
      (CommandLine.readParameter_taskId hadmissible)
  | remove id =>
    exact CommandLine.parse_eq_request (by decide) (BuiltIn.named?_command .remove)
      (CommandLine.readParameter_taskId hadmissible)
  | add words =>
    obtain ⟨hne, hplain, -⟩ := hadmissible
    exact CommandLine.parse_eq_request (by decide) (BuiltIn.named?_command .add)
      (CommandLine.readParameter_words hplain hne)

end Order

end Checklist
