import Checklist.Proofs.Task.Stored

namespace Checklist

open Text (Point RawText ofChars)

/-- The ASCII digits of a number, however many. Leading zeros are allowed. -/
structure IsNumeral (number : List Char) : Prop where
  ne_nil : number ≠ []
  isDigit : ∀ c ∈ number, c.isDigit = true

theorem IsNumeral.bar_not_mem {number : List Char} (hnumeral : IsNumeral number) :
    .char '|' ∉ ofChars number := by
  intro hmem
  have hdigit := hnumeral.isDigit _ (Text.mem_ofChars.mp hmem)
  cases hdigit

/-- What stands on a line for a task: a numeral for its number, its flag and its text, with bars
    between them. The text may hold bars itself. -/
def Task.IsWritten (task : Task) (body : RawText) : Prop :=
  ∃ number, IsNumeral number ∧ number.length ≤ Numeral.maxDigits ∧
    task.id = Numeral.value number ∧ task.id ≤ Task.maxId ∧
    body = ofChars number ++
      Point.char '|' :: ([Point.char task.flag] ++ Point.char '|' :: task.text)

/-- Three fields of which the first is a numeral of so many digits, which are too many. -/
def HasOverlongNumber (body : RawText) (digits : Nat) : Prop :=
  ∃ number flag text, IsNumeral number ∧ number.length = digits ∧ Numeral.maxDigits < digits ∧
    .char '|' ∉ flag ∧ body = ofChars number ++ Point.char '|' :: (flag ++ Point.char '|' :: text)

theorem HasOverlongNumber.lt_length {line : RawText} {digits : Nat}
    (hoverlong : HasOverlongNumber line digits) : Numeral.maxDigits < line.length := by
  obtain ⟨number, flag, text, -, hlength, hlong, -, rfl⟩ := hoverlong
  rw [List.length_append, ofChars, List.length_map]
  omega

/-- A carriage return at the end of a line is not what makes its number too long. -/
theorem HasOverlongNumber.of_chopReturn {line : RawText} {digits : Nat}
    (hoverlong : HasOverlongNumber (chopReturn line) digits) : HasOverlongNumber line digits := by
  obtain ⟨number, flag, text, hnumeral, hlength, hlong, hflag, hbody⟩ := hoverlong
  unfold chopReturn at hbody
  split at hbody
  · next hlast =>
    refine ⟨number, flag, text ++ [Point.char '\r'], hnumeral, hlength, hlong, hflag, ?_⟩
    rw [← List.dropLast_append_getLast? (Point.char '\r') hlast, hbody]
    simp
  · exact ⟨number, flag, text, hnumeral, hlength, hlong, hflag, hbody⟩

namespace LineReading

theorem digits?_eq_some_iff {field : RawText} {digits : List Char} :
    digits? field = some digits ↔ IsNumeral digits ∧ field = ofChars digits := by
  unfold digits?
  constructor
  · intro hdigits
    split at hdigits
    · next hnumber =>
      simp only [Bool.and_eq_true, List.all_eq_true, Bool.not_eq_true', List.isEmpty_eq_false_iff]
        at hnumber
      obtain ⟨hne, hall⟩ := hnumber
      have hencodable : Text.isEncodable field = true :=
        List.all_eq_true.mpr fun point hmem => Option.isSome_of_any (hall point hmem)
      obtain rfl := Option.some.inj hdigits
      have hfield := Text.ofChars_characters hencodable
      refine ⟨⟨?_, ?_⟩, hfield.symm⟩
      · intro hnil
        rw [← hfield, hnil] at hne
        exact hne rfl
      · exact fun c hc => hall _ (Text.mem_characters.mp hc)
    · cases hdigits
  · rintro ⟨⟨hne, hall⟩, rfl⟩
    have hdigits : (ofChars digits).all (·.char?.any Char.isDigit) = true := by
      simpa [ofChars, Point.char?] using hall
    have hnonempty : ofChars digits ≠ [] := by simpa [ofChars] using hne
    simp [hdigits, hnonempty]

theorem flag?_eq_some_iff {field : RawText} {done : Bool} :
    flag? field = some done ↔ field = [.char (if done then '1' else '0')] := by
  constructor
  · intro hflag
    unfold flag? at hflag
    split at hflag
    · cases hflag
      rfl
    · cases hflag
      rfl
    · cases hflag
  · rintro rfl
    exact flag?_singleton done

theorem bar_not_mem_flag (task : Task) : .char '|' ∉ [Point.char task.flag] := by
  unfold Task.flag
  split <;> decide

theorem ofFields_eq_task_iff {number flag text : RawText} {task : Task} :
    ofFields number flag text = .task task ↔
      ∃ digits, IsNumeral digits ∧ digits.length ≤ Numeral.maxDigits ∧
        task.id = Numeral.value digits ∧ task.id ≤ Task.maxId ∧ number = ofChars digits ∧
          flag = [.char task.flag] ∧ text = task.text := by
  unfold ofFields
  constructor
  · intro hread
    split at hread
    · next digits hdigits =>
      obtain ⟨hnumeral, hnumber⟩ := digits?_eq_some_iff.mp hdigits
      split at hread
      · next hshort =>
        split at hread
        · next hle =>
          split at hread
          · next done hflag =>
            obtain rfl := LineReading.task.inj hread
            exact ⟨digits, hnumeral, hshort, rfl, hle, hnumber, flag?_eq_some_iff.mp hflag, rfl⟩
          · cases hread
        · cases hread
      · cases hread
    · cases hread
  · rintro ⟨digits, hnumeral, hshort, hid, hle, rfl, rfl, rfl⟩
    have hflag : flag? [.char task.flag] = some task.done := flag?_singleton task.done
    rw [digits?_eq_some_iff.mpr ⟨hnumeral, rfl⟩]
    dsimp only
    rw [if_pos hshort, if_pos (hid ▸ hle), hflag, ← hid]

theorem ofFields_eq_overlong_iff {number flag text : RawText} {count : Nat} :
    ofFields number flag text = .overlong count ↔
      ∃ digits, IsNumeral digits ∧ digits.length = count ∧ Numeral.maxDigits < count ∧
        number = ofChars digits := by
  unfold ofFields
  constructor
  · intro hread
    split at hread
    · next digits hdigits =>
      obtain ⟨hnumeral, hnumber⟩ := digits?_eq_some_iff.mp hdigits
      split at hread
      · split at hread
        · split at hread <;> cases hread
        · cases hread
      · next hlong =>
        obtain rfl := LineReading.overlong.inj hread
        exact ⟨digits, hnumeral, rfl, Nat.not_le.mp hlong, hnumber⟩
    · cases hread
  · rintro ⟨digits, hnumeral, rfl, hlong, rfl⟩
    rw [digits?_eq_some_iff.mpr ⟨hnumeral, rfl⟩]
    dsimp only
    rw [if_neg (Nat.not_le.mpr hlong)]

/-- A line is read as a task exactly if that task is written on it. -/
theorem ofLine_eq_task_iff {line : RawText} {task : Task} :
    ofLine line = .task task ↔ task.IsWritten (body line) := by
  unfold ofLine
  constructor
  · intro hread
    split at hread
    · next number flag text hfields =>
      obtain ⟨digits, hnumeral, hshort, hid, hle, rfl, rfl, rfl⟩ := ofFields_eq_task_iff.mp hread
      obtain ⟨-, -, hbody⟩ := fields?_eq_some_iff.mp hfields
      exact ⟨digits, hnumeral, hshort, hid, hle, hbody⟩
    · cases hread
  · rintro ⟨number, hnumber, hshort, hid, hle, hbody⟩
    rw [fields?_eq_some_iff.mpr ⟨hnumber.bar_not_mem, bar_not_mem_flag task, hbody⟩]
    exact ofFields_eq_task_iff.mpr ⟨number, hnumber, hshort, hid, hle, rfl, rfl, rfl⟩

theorem ofLine_eq_overlong_iff {line : RawText} {digits : Nat} :
    ofLine line = .overlong digits ↔ HasOverlongNumber (body line) digits := by
  unfold ofLine
  constructor
  · intro hread
    split at hread
    · next number flag text hfields =>
      obtain ⟨numeral, hnumeral, hlength, hlong, rfl⟩ := ofFields_eq_overlong_iff.mp hread
      obtain ⟨-, hflag, hbody⟩ := fields?_eq_some_iff.mp hfields
      exact ⟨numeral, flag, text, hnumeral, hlength, hlong, hflag, hbody⟩
    · cases hread
  · rintro ⟨number, flag, text, hnumber, hlength, hlong, hflag, hbody⟩
    rw [fields?_eq_some_iff.mpr ⟨hnumber.bar_not_mem, hflag, hbody⟩]
    exact ofFields_eq_overlong_iff.mpr ⟨number, hnumber, hlength, hlong, rfl⟩

theorem ofLine_ne_overlong {line : RawText} {digits : Nat} (hfree : .char '\n' ∉ line)
    (hshort : ¬ HasOverlongNumber line digits) : ofLine line ≠ .overlong digits := by
  intro hread
  have hbody := ofLine_eq_overlong_iff.mp hread
  rw [body_of_not_mem hfree] at hbody
  exact hshort hbody.of_chopReturn

end LineReading

end Checklist
