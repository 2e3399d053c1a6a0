import Checklist.Proofs.Numeral
import Checklist.Proofs.Task.Grammar

namespace Checklist

open Text (Point RawText ofChars)

/-- Three fields as they may stand on a line. -/
@[ext]
structure LineFields where
  number : List Char
  flag : Char
  text : RawText
  deriving Repr, DecidableEq

namespace LineFields

/-- The fields with bars between them. -/
def joined (fields : LineFields) : RawText :=
  ofChars fields.number ++ .char '|' :: .char fields.flag :: .char '|' :: fields.text

/-- Fields that make a task: a numeral in range and one of the two flags. Any text will do. -/
structure Legal (fields : LineFields) : Prop where
  isNumeral : IsNumeral fields.number
  inRange : (Numeral.value fields.number : Int) ≤ Task.maxId
  isFlag : fields.flag = '0' ∨ fields.flag = '1'

/-- The task that the fields make. -/
def task (fields : LineFields) : Task :=
  ⟨Numeral.value fields.number, fields.text, fields.flag = '1'⟩

/-- The number is written without a superfluous zero in front. -/
def Canonical (fields : LineFields) : Prop :=
  fields.number.head? = some '0' → fields.number = ['0']

variable {fields other : LineFields}

theorem Legal.flag_task (hlegal : fields.Legal) : fields.task.flag = fields.flag := by
  rcases hlegal.isFlag with hflag | hflag <;> simp [task, Task.flag, hflag]

theorem id_task_nonneg : 0 ≤ fields.task.id :=
  Int.natCast_nonneg _

theorem Legal.eq_of_joined (hlegal : fields.Legal) (hother : other.Legal)
    (hjoined : other.joined = fields.joined) : other = fields := by
  have hcut := LineReading.cut?_append_cons hlegal.isNumeral.bar_not_mem
    (.char fields.flag :: .char '|' :: fields.text)
  have hcutOther := LineReading.cut?_append_cons hother.isNumeral.bar_not_mem
    (.char other.flag :: .char '|' :: other.text)
  rw [← joined] at hcut hcutOther
  rw [hjoined, hcut] at hcutOther
  obtain ⟨hnumber, hrest⟩ := Prod.mk.inj (Option.some.inj hcutOther)
  obtain ⟨hflag, hrest⟩ := List.cons.inj hrest
  obtain ⟨-, htext⟩ := List.cons.inj hrest
  exact LineFields.ext (Text.ofChars_inj.mp hnumber.symm) (Point.char.inj hflag).symm htext.symm

/-- The task's line differs from the fields in nothing but zeros in front of the number. -/
theorem Legal.line_eq_joined_iff (hlegal : fields.Legal) :
    fields.task.line = fields.joined ↔ fields.Canonical := by
  have hline : fields.task.line = ofChars (Nat.toDigits 10 (Numeral.value fields.number)) ++
      .char '|' :: .char fields.flag :: .char '|' :: fields.text := by
    rw [Task.line_of_nonneg LineFields.id_task_nonneg, hlegal.flag_task]
    simp [task]
  rw [hline, joined, List.append_left_inj, Text.ofChars_inj]
  exact Numeral.toDigits_value_eq_iff hlegal.isNumeral.isDigit hlegal.isNumeral.ne_nil

end LineFields

namespace LineReading

/-- Lines whose first field is short enough to be read as a number. Of a line without a bar nothing
    is asked. -/
def IsShort (line : RawText) : Prop :=
  ∀ number rest, .char '|' ∉ number → line = number ++ Point.char '|' :: rest →
    number.length ≤ Numeral.maxDigits

theorem IsShort.length_le {line rest : RawText} {number : List Char} (hshort : IsShort line)
    (hfree : .char '|' ∉ ofChars number)
    (hbody : ofChars number ++ Point.char '|' :: rest = body line) :
    number.length ≤ Numeral.maxDigits := by
  obtain ⟨ending, hline⟩ := body_isPrefix line
  rw [← hbody, List.append_assoc, List.cons_append] at hline
  have hlength := hshort (ofChars number) (rest ++ ending) hfree hline.symm
  rwa [ofChars, List.length_map] at hlength

theorem ofLine_eq_task_iff_fields {line : RawText} {task : Task} (hshort : IsShort line) :
    ofLine line = .task task ↔
      ∃ fields : LineFields, fields.Legal ∧ fields.joined = body line ∧
        task = fields.task := by
  rw [ofLine_eq_task_iff]
  constructor
  · rintro ⟨number, hnumeral, -, hid, hle, hbody⟩
    refine ⟨⟨number, task.flag, task.text⟩, ⟨hnumeral, hid ▸ hle, ?_⟩, ?_, ?_⟩
    · cases hdone : task.done <;> simp [Task.flag, hdone]
    · exact hbody.symm
    · obtain ⟨id, text, done⟩ := task
      simp_all [LineFields.task, Task.flag]
  · rintro ⟨fields, hlegal, hjoined, rfl⟩
    refine ⟨fields.number, hlegal.isNumeral, ?_, rfl, hlegal.inRange, ?_⟩
    · exact hshort.length_le hlegal.isNumeral.bar_not_mem hjoined
    · rw [← hjoined, hlegal.flag_task]
      simp [LineFields.joined, LineFields.task]

/-- A line with a short number that is not read as a task is malformed, nothing worse. -/
theorem ofLine_eq_malformed {line : RawText} (hshort : IsShort line)
    (hnone : ∀ task, ofLine line ≠ .task task) : ofLine line = .malformed := by
  cases hread : ofLine line with
  | task task => exact absurd hread (hnone task)
  | malformed => rfl
  | overlong digits =>
    obtain ⟨number, flag, text, hnumeral, rfl, hlong, -, hbody⟩ := ofLine_eq_overlong_iff.mp hread
    exact absurd (hshort.length_le hnumeral.bar_not_mem hbody.symm) (Nat.not_le.mpr hlong)

/-- Exactly the lines with three legal fields are read as tasks, and the fields say which task. The
    task's own line is what was read unless a superfluous zero stood in front, and it is read as
    the task again unless the text ends like a line. -/
theorem ofLine_exact (line : RawText) (hshort : IsShort line) :
    ((∃ task, ofLine line = .task task) ↔ ∃ fields : LineFields, fields.Legal ∧
        fields.joined = chopReturn (line.rdropWhile (· == .char '\n'))) ∧
      ((∀ task, ofLine line ≠ .task task) → ofLine line = .malformed) ∧
      ∀ fields : LineFields, fields.Legal →
        fields.joined = chopReturn (line.rdropWhile (· == .char '\n')) →
        (∀ other : LineFields, other.Legal →
            other.joined = chopReturn (line.rdropWhile (· == .char '\n')) → other = fields) ∧
          ofLine line = .task fields.task ∧ fields.task.isWritable = true ∧
          (fields.task.line = chopReturn (line.rdropWhile (· == .char '\n')) ↔
            fields.Canonical) ∧
          (ofLine fields.task.line = .task fields.task ↔
            fields.text.getLast? ≠ some (.char '\r') ∧
            fields.text.getLast? ≠ some (.char '\n')) := by
  rw [← body_eq]
  refine ⟨?_, ofLine_eq_malformed hshort, ?_⟩
  · constructor
    · rintro ⟨task, hread⟩
      obtain ⟨fields, hlegal, hjoined, -⟩ := (ofLine_eq_task_iff_fields hshort).mp hread
      exact ⟨fields, hlegal, hjoined⟩
    · rintro ⟨fields, hlegal, hjoined⟩
      exact ⟨fields.task, (ofLine_eq_task_iff_fields hshort).mpr ⟨fields, hlegal, hjoined, rfl⟩⟩
  · intro fields hlegal hjoined
    refine ⟨?_, ?_, ?_, ?_, ?_⟩
    · intro other hother hotherJoined
      exact hlegal.eq_of_joined hother (hotherJoined.trans hjoined.symm)
    · exact (ofLine_eq_task_iff_fields hshort).mpr ⟨fields, hlegal, hjoined, rfl⟩
    · exact Task.isWritable_of_le LineFields.id_task_nonneg hlegal.inRange
    · rw [← hjoined, hlegal.line_eq_joined_iff]
    · rw [Task.ofLine_line LineFields.id_task_nonneg hlegal.inRange, ← body_eq_self_iff]
      simp [LineFields.task]

/-- A number may have zeros in front, which the task's own line lacks, and the text may have bars. -/
theorem ofLine_exact_leading_zeros :
    IsShort "007|1|a|b\r\n" ∧ ofLine "007|1|a|b\r\n" = .task ⟨7, "a|b", true⟩ ∧
      Task.line ⟨7, "a|b", true⟩ ≠ "007|1|a|b" ∧
      ofLine (Task.line ⟨7, "a|b", true⟩) = .task ⟨7, "a|b", true⟩ := by
  have hshort : IsShort "007|1|a|b\r\n" := by
    intro number rest _ hline
    have hlength := congrArg List.length hline
    have htotal : (Text.ofString "007|1|a|b\r\n").length = 11 := by decide
    have hmax : 11 ≤ Numeral.maxDigits := by decide
    rw [htotal, List.length_append] at hlength
    omega
  let fields : LineFields := ⟨['0', '0', '7'], '1', "a|b"⟩
  have hlegal : fields.Legal := ⟨⟨by decide, List.all_eq_true.mp rfl⟩, by decide, Or.inr rfl⟩
  obtain ⟨-, hread, -, hline, hagain⟩ :=
    (ofLine_exact "007|1|a|b\r\n" hshort).2.2 fields hlegal (by decide)
  have hbody : chopReturn ((Text.ofString "007|1|a|b\r\n").rdropWhile (· == .char '\n')) =
      "007|1|a|b" := by
    decide
  rw [hbody] at hline
  refine ⟨hshort, hread, mt hline.mp ?_, hagain.mpr (by decide)⟩
  intro hcanonical
  exact absurd (hcanonical rfl) (by decide)

end LineReading

end Checklist
