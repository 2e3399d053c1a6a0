import Checklist.Proofs.Text.Raw
import Checklist.Task
import Mathlib.Data.List.DropRight

namespace Checklist

open Text (Point RawText)

/-- The text without one carriage return at its end. -/
def chopReturn (s : RawText) : RawText :=
  if s.getLast? = some (.char '\r') then s.dropLast else s

/-- The task as its own line gives it back. A carriage return at the end of the text is taken for a
    part of the line ending. -/
def Task.restored (task : Task) : Task :=
  { task with text := chopReturn task.text }

/-- What a task must be like to stand on a line of its own. Every task that a line is read as is
    like this. -/
structure Task.FitsLine (task : Task) : Prop where
  nonneg : 0 ≤ task.id
  le_maxId : task.id ≤ Task.maxId
  noLineFeed : .char '\n' ∉ task.text
  isEncodable : Text.isEncodable task.text = true

/-- What a task must be like to be given back unchanged by its line. -/
structure Task.Storable (task : Task) : Prop extends task.FitsLine where
  noFinalReturn : task.text.getLast? ≠ some (.char '\r')

theorem Task.FitsLine.congr {task other : Task} (hfits : task.FitsLine) (hid : other.id = task.id)
    (htext : other.text = task.text) : other.FitsLine :=
  ⟨hid ▸ hfits.nonneg, hid ▸ hfits.le_maxId, htext ▸ hfits.noLineFeed, htext ▸ hfits.isEncodable⟩

theorem Task.storable_iff (task : Task) :
    task.Storable ↔ 0 ≤ task.id ∧ task.id ≤ Task.maxId ∧ .char '\n' ∉ task.text ∧
      task.text.getLast? ≠ some (.char '\r') ∧ Text.isEncodable task.text = true :=
  ⟨fun h => ⟨h.nonneg, h.le_maxId, h.noLineFeed, h.noFinalReturn, h.isEncodable⟩,
    fun ⟨hnonneg, hle, hfeed, hreturn, hencodable⟩ =>
      ⟨⟨hnonneg, hle, hfeed, hencodable⟩, hreturn⟩⟩

theorem Task.Storable.congr {task other : Task} (hstorable : task.Storable)
    (hid : other.id = task.id) (htext : other.text = task.text) : other.Storable :=
  ⟨hstorable.toFitsLine.congr hid htext, htext ▸ hstorable.noFinalReturn⟩

instance (task : Task) : Decidable task.Storable :=
  decidable_of_iff _ task.storable_iff.symm

theorem chopReturn_eq_self_iff {s : RawText} :
    chopReturn s = s ↔ s.getLast? ≠ some (.char '\r') := by
  unfold chopReturn
  split
  · next hlast =>
    simp only [hlast, ne_eq, not_true_eq_false, iff_false]
    intro heq
    have hlen := congrArg List.length heq
    rw [List.length_dropLast] at hlen
    have hpos : 0 < s.length := by
      apply List.length_pos_iff.mpr
      rintro rfl
      simp at hlast
    omega
  · next hlast => simp [hlast]

theorem chopReturn_concat (s : RawText) : chopReturn (s ++ [Point.char '\r']) = s := by
  simp [chopReturn]

theorem chopReturn_append_cons {c : Point} (hc : c ≠ .char '\r') (front text : RawText) :
    chopReturn (front ++ c :: text) = front ++ c :: chopReturn text := by
  unfold chopReturn
  cases htext : text.getLast? with
  | none =>
    obtain rfl := List.getLast?_eq_none_iff.mp htext
    simp [hc]
  | some last =>
    have hne : text ≠ [] := by
      rintro rfl
      simp at htext
    have hlast : (front ++ c :: text).getLast? = some last := by
      simp [List.getLast?_cons, htext]
    rw [hlast]
    split
    · rw [List.dropLast_append_of_ne_nil (by simp), List.dropLast_cons_of_ne_nil hne]
    · rfl

theorem rdropWhile_append_cons {p : Point → Bool} {c : Point} (hc : ¬ p c) (front text : RawText) :
    (front ++ c :: text).rdropWhile p = front ++ c :: text.rdropWhile p := by
  induction text using List.reverseRecOn with
  | nil => rw [List.rdropWhile_concat_neg _ _ _ hc, List.rdropWhile_nil]
  | append_singleton text last ih =>
    have hsplit : front ++ c :: (text ++ [last]) = (front ++ c :: text) ++ [last] := by simp
    rw [hsplit, List.rdropWhile_concat, List.rdropWhile_concat, ih]
    split
    · rfl
    · simp

theorem Task.restored_eq_self_iff {task : Task} :
    task.restored = task ↔ task.text.getLast? ≠ some (.char '\r') := by
  rw [← chopReturn_eq_self_iff]
  constructor
  · exact fun heq => congrArg Task.text heq
  · intro htext
    simp [restored, htext]

namespace LineReading

/-- The body of a line is what is left without the line feeds at its end, and then without one
    carriage return. -/
theorem body_eq (s : RawText) : body s = chopReturn (s.rdropWhile (· == .char '\n')) := by
  unfold body chopReturn List.rdropWhile
  split
  · next rest hrest => simp [hrest]
  · next hrest =>
    have hlast : (s.reverse.dropWhile (· == .char '\n')).head? ≠ some (.char '\r') := by
      intro hhead
      obtain ⟨rest, heq⟩ := List.head?_eq_some_iff.mp hhead
      exact hrest rest heq
    rw [List.getLast?_reverse, if_neg hlast]

/-- What a line ends with is not looked for before a character that stands in it. -/
theorem body_append_cons {c : Point} (hfeed : c ≠ .char '\n') (hreturn : c ≠ .char '\r')
    (front text : RawText) : body (front ++ c :: text) = front ++ c :: body text := by
  rw [body_eq, body_eq, rdropWhile_append_cons (by simpa using hfeed),
    chopReturn_append_cons hreturn]

/-- Without line feeds, the body of a line lacks nothing but a carriage return at its end. -/
theorem body_of_not_mem {s : RawText} (hfree : .char '\n' ∉ s) : body s = chopReturn s := by
  have hkept : s.rdropWhile (· == .char '\n') = s := by
    rw [List.rdropWhile_eq_self_iff]
    intro hne hlast
    rw [← beq_iff_eq.mp hlast] at hfree
    exact hfree (List.getLast_mem hne)
  rw [body_eq, hkept]

theorem body_isPrefix (s : RawText) : body s <+: s := by
  have hchop (t : RawText) : chopReturn t <+: t := by
    unfold chopReturn
    split
    · exact List.dropLast_prefix t
    · exact List.prefix_rfl
  have hdrop := List.rdropWhile_prefix (· == .char '\n') s
  rw [body_eq]
  exact (hchop _).trans hdrop

theorem body_eq_self_iff {s : RawText} :
    body s = s ↔ s.getLast? ≠ some (.char '\r') ∧ s.getLast? ≠ some (.char '\n') := by
  rcases List.eq_nil_or_concat' s with rfl | ⟨front, last, rfl⟩
  · decide
  · by_cases hfeed : last = .char '\n'
    · subst hfeed
      constructor
      · intro heq
        have hlength := (body_isPrefix front).length_le
        rw [body_eq, List.rdropWhile_concat_pos _ _ _ (by decide), ← body_eq] at heq
        rw [heq, List.length_append, List.length_singleton] at hlength
        omega
      · rintro ⟨-, hlast⟩
        simp at hlast
    · have hkept : ¬ (last == .char '\n') = true := by simpa using hfeed
      rw [body_eq, List.rdropWhile_concat, if_neg hkept, chopReturn_eq_self_iff]
      simp [hfeed]

theorem body_sublist (s : RawText) : (body s).Sublist s :=
  (body_isPrefix s).sublist

theorem cut?_append_cons {field : RawText} (hfree : .char '|' ∉ field) (rest : RawText) :
    cut? (field ++ .char '|' :: rest) = some (field, rest) := by
  have hall : ∀ c ∈ field, (c != .char '|') = true := by
    intro c hc
    have hne : c ≠ .char '|' := ne_of_mem_of_not_mem hc hfree
    simpa using hne
  simp [cut?, List.dropWhile_append_of_pos hall, List.takeWhile_append_of_pos hall]

theorem cut?_eq_some_iff {s field rest : RawText} :
    cut? s = some (field, rest) ↔ .char '|' ∉ field ∧ s = field ++ .char '|' :: rest := by
  constructor
  · intro hcut
    unfold cut? at hcut
    have hsplit : s.takeWhile (· != .char '|') ++ s.dropWhile (· != .char '|') = s :=
      List.takeWhile_append_dropWhile
    split at hcut
    · cases hcut
    · next bar rest' hdrop =>
      obtain ⟨rfl, rfl⟩ : s.takeWhile (· != .char '|') = field ∧ rest' = rest := by simpa using hcut
      have hbar : bar = .char '|' := by
        have hhead := List.head?_dropWhile_not (· != .char '|') s
        rw [hdrop] at hhead
        simpa using hhead
      subst hbar
      rw [hdrop] at hsplit
      refine ⟨?_, hsplit.symm⟩
      intro hmem
      have hall := List.all_eq_true.mp (List.all_takeWhile (l := s) (p := (· != .char '|'))) _ hmem
      simp at hall
  · rintro ⟨hfree, rfl⟩
    exact cut?_append_cons hfree rest

/-- The three fields are what stands between the first two bars and around them. -/
theorem fields?_eq_some_iff {s number flag text : RawText} :
    fields? s = some (number, flag, text) ↔
      .char '|' ∉ number ∧ .char '|' ∉ flag ∧
        s = number ++ Point.char '|' :: (flag ++ Point.char '|' :: text) := by
  simp only [fields?, Option.bind_eq_bind, Option.bind_eq_some_iff, Prod.exists, cut?_eq_some_iff,
    Option.pure_def, Option.some.injEq, Prod.mk.injEq]
  constructor
  · rintro ⟨number, rest, ⟨hnumber, rfl⟩, flag, text, ⟨hflag, rfl⟩, rfl, rfl, rfl⟩
    exact ⟨hnumber, hflag, rfl⟩
  · rintro ⟨hnumber, hflag, rfl⟩
    exact ⟨_, _, ⟨hnumber, rfl⟩, _, _, ⟨hflag, rfl⟩, rfl, rfl, rfl⟩

theorem digits?_toDigits (n : Nat) :
    digits? (Text.ofChars (Nat.toDigits 10 n)) = some (Nat.toDigits 10 n) := by
  have hall : ∀ c ∈ Nat.toDigits 10 n, c.isDigit = true := fun c hc =>
    Nat.isDigit_of_mem_toDigits (by decide) (by decide) hc
  have hdigits : (Text.ofChars (Nat.toDigits 10 n)).all (·.char?.any Char.isDigit) = true := by
    simpa [Text.ofChars, Point.char?] using hall
  have hne : Text.ofChars (Nat.toDigits 10 n) ≠ [] := by simp [Text.ofChars]
  simp [digits?, hdigits, hne]

theorem not_mem_toDigits {c : Char} (hdigit : c.isDigit = false) (n : Nat) :
    c ∉ Nat.toDigits 10 n := by
  intro hmem
  rw [Nat.isDigit_of_mem_toDigits (by decide) (by decide) hmem] at hdigit
  cases hdigit

theorem flag?_singleton (done : Bool) :
    flag? [.char (if done then '1' else '0')] = some done := by
  cases done <;> rfl

theorem ofFields_toDigits {n : Nat} (hle : (n : Int) ≤ Task.maxId) (done : Bool) (text : RawText) :
    ofFields (Text.ofChars (Nat.toDigits 10 n)) [.char (if done then '1' else '0')] text =
      .task ⟨n, text, done⟩ := by
  have hvalue : Numeral.value (Nat.toDigits 10 n) = n := Nat.ofDigitChars_ten_toDigits
  have hlength : (Nat.toDigits 10 n).length ≤ Numeral.maxDigits := by
    have hpow : n < 10 ^ 20 := by
      simp only [Task.maxId] at hle
      omega
    have hshort := (Nat.length_toDigits_le_iff (by decide) (by decide)).mpr hpow
    exact Nat.le_trans hshort (by decide)
  rw [ofFields, digits?_toDigits]
  dsimp only
  rw [if_pos hlength, hvalue, if_pos hle, flag?_singleton]

/-- Whatever a line is read as has a number in range and a text from the line. -/
theorem ofLine_eq_task {line : RawText} {task : Task} (hread : ofLine line = .task task) :
    0 ≤ task.id ∧ task.id ≤ Task.maxId ∧ task.text ⊆ line := by
  unfold ofLine at hread
  split at hread
  · next number flag text hfields =>
    obtain ⟨-, -, hbody⟩ := fields?_eq_some_iff.mp hfields
    unfold ofFields at hread
    split at hread
    · split at hread
      · split at hread
        · next hle =>
          split at hread
          · obtain rfl := LineReading.task.inj hread
            refine ⟨Int.natCast_nonneg _, hle, ?_⟩
            intro point hmem
            apply (body_sublist line).subset
            simp [hbody, hmem]
          · cases hread
        · cases hread
      · cases hread
    · cases hread
  · cases hread

end LineReading

theorem Task.line_eq (task : Task) :
    task.line = Text.ofChars (toString task.id).toList ++
      Point.char '|' :: ([Point.char task.flag] ++ Point.char '|' :: task.text) := by
  have hline : task.line =
      (toString task.id ++ "|" ++ String.singleton task.flag ++ "|" : String) ++ task.text := rfl
  simp [hline, Text.ofString]

theorem Task.line_of_nonneg {task : Task} (hnonneg : 0 ≤ task.id) :
    task.line = Text.ofChars (Nat.toDigits 10 task.id.toNat) ++
      Point.char '|' :: ([Point.char task.flag] ++ Point.char '|' :: task.text) := by
  rw [line_eq, Int.toString_eq_repr, Int.repr_eq_if, if_pos hnonneg, Nat.toList_repr]

/-- Nothing on a line but the text can keep it from being encoded. -/
theorem Task.isEncodable_line (task : Task) :
    Text.isEncodable task.line = Text.isEncodable task.text := by
  rw [line, Text.isEncodable_append, Text.isEncodable_ofString, Bool.true_and]

/-- A line holds no line feed besides those of the text. -/
theorem Task.lineFeed_not_mem_line {task : Task} (hfree : .char '\n' ∉ task.text) :
    .char '\n' ∉ task.line := by
  have hdigits (n : Nat) : '\n' ∉ Nat.toDigits 10 n :=
    LineReading.not_mem_toDigits (by decide) n
  have hid : '\n' ∉ (toString task.id).toList := by
    rw [Int.toString_eq_repr, Int.repr_eq_if]
    split
    · simpa using hdigits _
    · simpa using hdigits _
  have hflag : '\n' ≠ task.flag := by
    unfold flag
    split <;> decide
  simp only [line_eq, List.mem_append, List.mem_cons, List.not_mem_nil, or_false,
    Text.mem_ofChars, Point.char.injEq]
  rintro (hmem | hbar | heq | hbar | hmem)
  · exact hid hmem
  · exact absurd hbar (by decide)
  · exact hflag heq
  · exact absurd hbar (by decide)
  · exact hfree hmem

/-- The line of a task whose number is in range is read as that task again, save for what its text
    ends with. -/
theorem Task.ofLine_line {task : Task} (hnonneg : 0 ≤ task.id) (hle : task.id ≤ Task.maxId) :
    LineReading.ofLine task.line =
      .task { task with text := LineReading.body task.text } := by
  let number := Text.ofChars (Nat.toDigits 10 task.id.toNat)
  have hbody : LineReading.body task.line =
      number ++ Point.char '|' ::
        ([Point.char task.flag] ++ Point.char '|' :: LineReading.body task.text) := by
    have hsplit :
        number ++ Point.char '|' :: ([Point.char task.flag] ++ Point.char '|' :: task.text) =
          number ++ [Point.char '|', Point.char task.flag] ++ Point.char '|' :: task.text := by
      simp
    rw [Task.line_of_nonneg hnonneg, hsplit,
      LineReading.body_append_cons (by decide) (by decide)]
    simp
  have hfields : LineReading.fields? (LineReading.body task.line) =
      some (number, [.char task.flag], LineReading.body task.text) := by
    have hnumber : .char '|' ∉ number :=
      mt Text.mem_ofChars.mp (LineReading.not_mem_toDigits (by decide) _)
    have hflag : .char '|' ∉ [Point.char task.flag] := by
      unfold Task.flag
      split <;> decide
    exact LineReading.fields?_eq_some_iff.mpr ⟨hnumber, hflag, hbody⟩
  have hid : (task.id.toNat : Int) = task.id := Int.toNat_of_nonneg hnonneg
  rw [LineReading.ofLine, hfields]
  dsimp only
  rw [Task.flag, LineReading.ofFields_toDigits (by rwa [hid]), hid]

/-- The line of a task that fits on one is read as the task again, but for a carriage return at
    its end. -/
theorem Task.FitsLine.ofLine_line {task : Task} (hfits : task.FitsLine) :
    LineReading.ofLine task.line = .task task.restored := by
  rw [Task.ofLine_line hfits.nonneg hfits.le_maxId,
    LineReading.body_of_not_mem hfits.noLineFeed, Task.restored]

theorem Task.isWritable_of_le {task : Task} (hnonneg : 0 ≤ task.id) (hle : task.id ≤ Task.maxId) :
    task.isWritable = true := by
  have hpow : task.id.natAbs < 10 ^ 20 := by
    simp only [Task.maxId] at hle
    omega
  have hshort := (Nat.length_toDigits_le_iff (by decide) (by decide)).mpr hpow
  exact decide_eq_true (Nat.le_trans hshort (by decide))

theorem Task.FitsLine.isWritable {task : Task} (hfits : task.FitsLine) :
    task.isWritable = true :=
  Task.isWritable_of_le hfits.nonneg hfits.le_maxId

end Checklist
