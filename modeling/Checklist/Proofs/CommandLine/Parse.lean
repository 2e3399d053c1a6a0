import Checklist.CommandLine.Parse
import Checklist.Proofs.Numeral
import Checklist.Proofs.Text.Raw

namespace Checklist.CommandLine

open Text (RawText)

/-- A word that does not start with a dash. -/
def IsPlain (word : RawText) : Prop := word.head? ≠ some (.char '-')

instance (word : RawText) : Decidable (IsPlain word) := inferInstanceAs (Decidable (_ ≠ _))

variable {word : RawText} {words : List RawText} {parameter : Parameter}

theorem IsPlain.ne_dashes (hplain : IsPlain word) : word ≠ "--" := by
  rintro rfl
  exact hplain rfl

theorem IsPlain.classify (hplain : IsPlain word) : Word.classify word = .argument := by
  unfold Word.classify
  split
  · rfl
  · exact absurd rfl hplain
  · exact absurd rfl hplain
  · exact absurd rfl hplain
  · rfl

theorem findCommand_of_isPlain (hplain : IsPlain word) :
    findCommand (word :: words) = .ok ([], some (word, words)) := by
  rw [findCommand, if_neg hplain.ne_dashes, hplain.classify]

/-- A plain word goes where its slot puts it. -/
theorem fill_of_isPlain (hplain : IsPlain word) (slot : Slot) :
    fill parameter slot (word :: words) = (do
      let (slot, left) ← slot.take parameter word
      let (slot, strays) ← fill parameter slot words
      return (slot, left ++ strays)) := by
  rw [fill, if_neg hplain.ne_dashes, hplain.classify]

theorem fill_opened_words (hplain : ∀ word ∈ words, IsPlain word) (taken : List RawText) :
    fill .words (.opened (.words taken)) words = .ok (.opened (.words (taken ++ words)), []) := by
  induction words generalizing taken with
  | nil => simp [fill]
  | cons word rest ih =>
    have hrest := ih (fun other hother => hplain other (List.mem_cons_of_mem _ hother))
      (taken ++ [word])
    rw [fill_of_isPlain (hplain word List.mem_cons_self), Slot.take]
    simp [hrest, bind, Except.bind, pure, Except.pure]

theorem readParameter_words (hplain : ∀ word ∈ words, IsPlain word) (hne : words ≠ []) :
    readParameter .words words = .ok (some (.words words), []) := by
  obtain ⟨first, rest, rfl⟩ := List.exists_cons_of_ne_nil hne
  have hrest := fill_opened_words (fun word hword => hplain word (List.mem_cons_of_mem _ hword))
    [first]
  have hfill : fill .words .empty (first :: rest) = .ok (.opened (.words (first :: rest)), []) := by
    have hfirst : firstValue .words first = .ok (.words [first]) := rfl
    rw [fill_of_isPlain (hplain first List.mem_cons_self), Slot.take, hfirst]
    simp [hrest, bind, Except.bind, pure, Except.pure]
  simp [readParameter, Slot.start, hfill, Slot.value?, bind, Except.bind, pure, Except.pure]

/-- Behind two dashes a word is a word, whatever it looks like. -/
theorem readParameter_dashes (hne : words ≠ []) :
    readParameter .words ("--" :: words) = .ok (some (.words words), []) := by
  obtain ⟨first, rest, rfl⟩ := List.exists_cons_of_ne_nil hne
  have hfill : fill .words .empty ("--" :: first :: rest) =
      .ok (.closed (some (.words (first :: rest))), []) := by
    rw [fill, if_pos rfl, Slot.finish]
    simp
  rw [readParameter, Slot.start, hfill]
  · rfl
  · simp

theorem isPlain_toString (n : Nat) : IsPlain (toString n) := by
  have htext : toString n = String.ofList (Nat.toDigits 10 n) := rfl
  rw [IsPlain, htext, Text.ofString, String.toList_ofList]
  intro hhead
  have hmem := Text.mem_ofChars.mp (List.mem_of_head? hhead)
  have hdigit := Nat.isDigit_of_mem_toDigits (b := 10) (by decide) (by decide) hmem
  cases hdigit

/-- A task is chosen by the decimal form of its number. -/
theorem readParameter_taskId {n : Nat} (hlength : (toString n).length ≤ Numeral.maxDigits) :
    readParameter .taskId [toString n] = .ok (some (.taskId n), []) := by
  have hvalue : firstValue .taskId (toString n) = .ok (.taskId n) := by
    rw [firstValue, taskId, Text.string?_ofString, Option.bind_some,
      Numeral.parse?_toString hlength]
    exact if_pos (Int.natCast_nonneg n)
  have hfill : fill .taskId .empty [toString n] = .ok (.opened (.taskId n), []) := by
    rw [fill_of_isPlain (isPlain_toString n), Slot.take, hvalue]
    rfl
  rw [readParameter, Slot.start, hfill]
  · rfl
  · simp

/-- The name of a command and a parameter that is filled exactly make a request. -/
theorem parse_eq_request {α : Type} {registry : Registry α} {name : String} {command : Command α}
    {value : Option Value} (hplain : IsPlain name) (hname : registry.named? name = some command)
    (hread : readParameter command.parameter words = .ok (value, [])) :
    parse registry (name :: words) = .request (requestFor name value) := by
  have hsame : command.name = name := by simpa using List.find?_some hname
  rw [parse, findCommand_of_isPlain hplain]
  simp [hname, hread, hsame]

end Checklist.CommandLine
