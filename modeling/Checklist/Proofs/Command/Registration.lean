import Checklist.CommandLine.Parse
import Checklist.Proofs.Text.Case
import Checklist.Proofs.Text.Raw
import Mathlib.Data.List.Induction
import Mathlib.Data.List.Nodup

namespace Checklist

namespace Registry

variable {α : Type} {command : Command α} {commands calls : List (Command α)} {name : String}

/-- The registry in which commands were registered, one after the other. -/
def registerAll (calls : List (Command α)) : Registry α :=
  calls.foldl register {}

/-- The last of several commands whose name is the same in lower case. -/
def lastNamed? (calls : List (Command α)) (name : String) : Option (Command α) :=
  calls.reverse.find? fun call => Text.lower call.name == Text.lower name

/-- The commands that a command line chooses from, with one more. It is refused if its name is
    taken. -/
def addChoice? (choices : List (Command α)) (command : Command α) : Option (List (Command α)) :=
  if choices.any (·.name == command.name) then none else some (choices ++ [command])

theorem map_name_place (command : Command α) (commands : List (Command α)) :
    (place command commands).map (·.name) =
      if command.name ∈ commands.map (·.name) then commands.map (·.name)
      else commands.map (·.name) ++ [command.name] := by
  induction commands with
  | nil => rfl
  | cons other rest ih =>
    rw [place]
    by_cases hname : other.name = command.name
    · simp [hname]
    · have hne : command.name ≠ other.name := fun heq => hname heq.symm
      rw [if_neg hname, List.map_cons, ih, List.map_cons]
      simp only [List.mem_cons, hne, false_or]
      split <;> rfl

/-- The command that was put in is found under its name, and every other one as before. -/
theorem find?_place (command : Command α) (commands : List (Command α)) (name : String) :
    (place command commands).find? (·.name == name) =
      if command.name = name then some command else commands.find? (·.name == name) := by
  induction commands with
  | nil => by_cases hname : command.name = name <;> simp [place, hname]
  | cons other rest ih =>
    rw [place]
    by_cases hother : other.name = command.name
    · by_cases hname : command.name = name <;> simp [hother, hname]
    · rw [if_neg hother, List.find?_cons, ih, List.find?_cons]
      by_cases hname : command.name = name
      · have hne : (other.name == name) = false := by simpa [hname] using hother
        rw [hne, if_pos hname]
      · rw [if_neg hname, if_neg hname]

theorem eraseDups_concat (names : List String) (name : String) :
    (names ++ [name]).eraseDups =
      if name ∈ names then names.eraseDups else names.eraseDups ++ [name] := by
  rw [List.eraseDups_append]
  by_cases hmem : name ∈ names <;> simp [List.removeAll, List.eraseDups_cons, hmem]

theorem registerAll_concat (calls : List (Command α)) (call : Command α) :
    registerAll (calls ++ [call]) = (registerAll calls).register call := by
  simp [registerAll]

theorem names_register (registry : Registry α) (call : Command α) :
    (registry.register call).names =
      if Text.lower call.name ∈ registry.names then registry.names
      else registry.names ++ [Text.lower call.name] :=
  map_name_place { call with name := Text.lower call.name } registry.commands

/-- The names are the lower-case forms, each where it was registered first. -/
theorem names_registerAll (calls : List (Command α)) :
    (registerAll calls).names = (calls.map fun call => Text.lower call.name).eraseDups := by
  induction calls using List.reverseRecOn with
  | nil => rfl
  | append_singleton calls call ih =>
    rw [registerAll_concat, names_register, ih, List.map_append, List.map_singleton,
      eraseDups_concat]
    simp only [List.mem_eraseDups]

theorem nodup_names_registerAll (calls : List (Command α)) : (registerAll calls).names.Nodup := by
  induction calls using List.reverseRecOn with
  | nil => exact List.nodup_nil
  | append_singleton calls call ih =>
    rw [registerAll_concat, names_register]
    split
    · exact ih
    · next hnew =>
      rw [← List.concat_eq_append]
      exact (List.nodup_concat _ _).mpr ⟨hnew, ih⟩

/-- What is found is the last command of that name, under the lower-case form. -/
theorem find?_registerAll (calls : List (Command α)) (name : String) :
    (registerAll calls).find? name =
      (lastNamed? calls name).map fun call => { call with name := Text.lower call.name } := by
  induction calls using List.reverseRecOn with
  | nil => rfl
  | append_singleton calls call ih =>
    rw [registerAll_concat, find?, named?, register, find?_place, ← named?, ← find?, ih,
      lastNamed?, lastNamed?, List.reverse_append, List.reverse_singleton, List.singleton_append]
    by_cases hname : Text.lower call.name = Text.lower name
    · rw [if_pos hname, List.find?_cons_of_pos (by simpa using hname), Option.map_some]
    · rw [if_neg hname, List.find?_cons_of_neg (by simpa using hname)]

theorem lastNamed?_eq_none_iff :
    lastNamed? calls name = none ↔ ∀ call ∈ calls, Text.lower call.name ≠ Text.lower name := by
  simp [lastNamed?]

theorem handle_registerAll (calls : List (Command α)) (perform : α → Attempt Text.RawText)
    (name : String) :
    (registerAll calls).handle perform name =
      match lastNamed? calls name with
      | none => return unknownMessage (Text.lower name)
      | some call =>
        (do
          Session.log (runningRecord (Text.lower name))
          perform call.action) := by
  rw [handle, find?_registerAll]
  cases lastNamed? calls name <;> rfl

/-- No command is refused as a choice if all names are different. -/
theorem foldlM_addChoice? {front : List (Command α)}
    (hnodup : ((front ++ commands).map (·.name)).Nodup) :
    commands.foldlM addChoice? front = some (front ++ commands) := by
  induction commands generalizing front with
  | nil => simp
  | cons command rest ih =>
    have hfree : ¬ front.any (·.name == command.name) = true := by
      rw [List.map_append, List.map_cons, List.nodup_append] at hnodup
      intro htaken
      obtain ⟨other, hmem, hname⟩ := List.any_eq_true.mp htaken
      exact hnodup.2.2 _ (List.mem_map_of_mem hmem) _ List.mem_cons_self (beq_iff_eq.mp hname)
    have hassoc : front ++ command :: rest = front ++ [command] ++ rest := by simp
    rw [hassoc] at hnodup ⊢
    rw [List.foldlM_cons, addChoice?, if_neg hfree]
    exact ih hnodup

theorem lower_of_mem_names (hmem : name ∈ (registerAll calls).names) : Text.lower name = name := by
  rw [names_registerAll, List.mem_eraseDups] at hmem
  obtain ⟨call, -, rfl⟩ := List.mem_map.mp hmem
  exact Text.lower_lower call.name

/-- A name in use is its own lower-case form, so that it means the same when it is handled. -/
theorem find?_of_named? (hnamed : (registerAll calls).named? name = some command) :
    (registerAll calls).find? name = some command ∧ Text.lower name = name := by
  have hname : command.name = name := by simpa using List.find?_some hnamed
  have hmem : name ∈ (registerAll calls).names := by
    rw [← hname]
    exact List.mem_map_of_mem (List.mem_of_find?_eq_some hnamed)
  have hlower := lower_of_mem_names hmem
  exact ⟨by rw [find?, hlower, hnamed], hlower⟩

end Registry

namespace CommandLine

variable {α : Type} {registry : Registry α} {words : List Text.RawText} {request : Request}
  {name : String}

/-- A command line asks for a command if it has the name of a choice and, behind it, what fills the
    parameter of that choice. -/
structure Chooses (command : Command α) (words : List Text.RawText) (name : String)
    (request : Request) : Prop where
  named : command.name = name
  reads : ∃ rest value, findCommand words = .ok ([], some (name, rest)) ∧
    readParameter command.parameter rest = .ok (value, []) ∧ request = requestFor name value

theorem command_requestFor (name : String) (value : Option Value) :
    (requestFor name value).command = some name := by
  rcases value with _ | ⟨_ | _⟩ <;> rfl

/-- A request for a command comes from the choice of that name. -/
theorem chooses_of_parse (hparse : parse registry words = .request request)
    (hname : request.command = some name) :
    ∃ command, registry.named? name = some command ∧ Chooses command words name request := by
  unfold parse at hparse
  split at hparse
  · next stop hfind => cases stop <;> cases hparse
  · next strays hfind =>
    split at hparse
    · cases hparse
      cases hname
    · cases hparse
  · next strays found rest hfind =>
    split at hparse
    · cases hparse
    · next command hnamed =>
      split at hparse
      · next stop hread => cases stop <;> cases hparse
      · next value more hread =>
        split at hparse
        · next hempty =>
          obtain rfl := Parsed.request.inj hparse
          obtain rfl : command.name = name := by
            rw [command_requestFor] at hname
            exact Option.some.inj hname
          obtain ⟨typed, htyped, hlookup⟩ := Option.bind_eq_some_iff.mp hnamed
          obtain rfl : command.name = typed := by simpa using List.find?_some hlookup
          obtain rfl := Text.string?_eq_some_iff.mp htyped
          obtain ⟨rfl, rfl⟩ := List.append_eq_nil_iff.mp (List.isEmpty_iff.mp hempty)
          exact ⟨command, hlookup, rfl, rest, value, hfind, hread, rfl⟩
        · cases hparse

end CommandLine

namespace Registry

end Registry

end Checklist
