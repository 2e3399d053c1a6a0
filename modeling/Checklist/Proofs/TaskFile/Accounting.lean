import Checklist.Proofs.Task.Grammar
import Checklist.Proofs.TaskFile.Lines
import Checklist.Proofs.Text.Pieces

namespace Checklist

open Text (RawText)

theorem chopReturn_subset (s : RawText) : chopReturn s ⊆ s := by
  unfold chopReturn
  split
  · exact List.dropLast_subset s
  · exact List.Subset.refl s

theorem Task.IsWritten.bar_mem {task : Task} {body : RawText} (hwritten : task.IsWritten body) :
    .char '|' ∈ body := by
  obtain ⟨number, -, -, -, -, rfl⟩ := hwritten
  simp

theorem HasOverlongNumber.bar_mem {body : RawText} {digits : Nat}
    (hoverlong : HasOverlongNumber body digits) : .char '|' ∈ body := by
  obtain ⟨number, flag, text, -, -, -, -, rfl⟩ := hoverlong
  simp

namespace Line

/-- A line of bytes that stores a task. It may end in one carriage return besides. -/
def Stores (raw : List UInt8) (task : Task) : Prop :=
  ∃ line : String, raw = Text.Utf8.encode line ∧ task.IsWritten (chopReturn line)

/-- A line of bytes that stores no task for the sole reason that the number, or what is in its
    place, has too many digits. The flag need not be one. -/
def IsOverlong (raw : List UInt8) (digits : Nat) : Prop :=
  ∃ line : String, raw = Text.Utf8.encode line ∧ HasOverlongNumber (chopReturn line) digits

def IsBlank (raw : List UInt8) : Prop := raw.all isBlankByte = true

/-- A line of bytes that stores no task and is not blank. It need not be text at all. -/
structure IsMalformed (raw : List UInt8) : Prop where
  visible : ¬ IsBlank raw
  not_stores : ∀ task, ¬ Stores raw task

variable {raw : List UInt8} {task : Task} {digits : Nat} {text : String}

/-- A line with a bar in it is not blank, and is read as the text that it encodes. -/
theorem ofBytes_encode_of_bar {line : String} (hbar : .char '|' ∈ Text.ofString line) :
    ofBytes (Text.Utf8.encode line) =
      match LineReading.ofLine line with
      | .task stored => .task stored
      | .malformed => .malformed line
      | .overlong digits => .overlong digits := by
  have hmem := Text.Utf8.mem_encodeChars_of_mem (by decide) (Text.mem_characters.mpr hbar)
  have hvisible : (Text.Utf8.encode line).all isBlankByte = false :=
    List.all_eq_false.mpr ⟨_, hmem, by decide⟩
  rw [ofBytes, hvisible, Text.Utf8.decode?_encode]
  rfl

theorem ofBytes_eq_task_iff (hfree : 0x0A ∉ raw) : ofBytes raw = .task task ↔ Stores raw task := by
  constructor
  · intro hread
    unfold ofBytes at hread
    split at hread
    · cases hread
    · split at hread
      · cases hread
      · next text hdecode =>
        obtain rfl := Text.Utf8.decode?_eq_some_iff.mp hdecode
        split at hread
        · next stored hline =>
          obtain rfl := Line.task.inj hread
          have hwritten := LineReading.ofLine_eq_task_iff.mp hline
          rw [LineReading.body_of_not_mem (Text.Utf8.lineFeed_not_mem_of_encode hfree)]
            at hwritten
          exact ⟨text, rfl, hwritten⟩
        · cases hread
        · cases hread
  · rintro ⟨line, rfl, hwritten⟩
    have hline : LineReading.ofLine line = .task task := by
      rw [LineReading.ofLine_eq_task_iff,
        LineReading.body_of_not_mem (Text.Utf8.lineFeed_not_mem_of_encode hfree)]
      exact hwritten
    rw [ofBytes_encode_of_bar (chopReturn_subset _ hwritten.bar_mem), hline]

theorem ofBytes_eq_overlong_iff (hfree : 0x0A ∉ raw) :
    ofBytes raw = .overlong digits ↔ IsOverlong raw digits := by
  constructor
  · intro hread
    unfold ofBytes at hread
    split at hread
    · cases hread
    · split at hread
      · cases hread
      · next text hdecode =>
        obtain rfl := Text.Utf8.decode?_eq_some_iff.mp hdecode
        split at hread
        · cases hread
        · cases hread
        · next count hline =>
          obtain rfl := Line.overlong.inj hread
          have hoverlong := LineReading.ofLine_eq_overlong_iff.mp hline
          rw [LineReading.body_of_not_mem (Text.Utf8.lineFeed_not_mem_of_encode hfree)]
            at hoverlong
          exact ⟨text, rfl, hoverlong⟩
  · rintro ⟨line, rfl, hoverlong⟩
    have hline : LineReading.ofLine line = .overlong digits := by
      rw [LineReading.ofLine_eq_overlong_iff,
        LineReading.body_of_not_mem (Text.Utf8.lineFeed_not_mem_of_encode hfree)]
      exact hoverlong
    rw [ofBytes_encode_of_bar (chopReturn_subset _ hoverlong.bar_mem), hline]

theorem ofBytes_eq_blank (hread : ofBytes raw = .blank) : IsBlank raw := by
  unfold ofBytes at hread
  split at hread
  · next hblank => exact hblank
  · split at hread
    · cases hread
    · split at hread <;> cases hread

/-- A malformed line is shown as text, whether or not it is one. -/
theorem ofBytes_eq_malformed (hfree : 0x0A ∉ raw) (hread : ofBytes raw = .malformed text) :
    IsMalformed raw ∧ text = Text.Utf8.decodeLossy raw := by
  have hnot : ∀ task, ¬ Stores raw task := by
    intro task hstores
    rw [(ofBytes_eq_task_iff hfree).mpr hstores] at hread
    cases hread
  unfold ofBytes at hread
  split at hread
  · cases hread
  · next hvisible =>
    refine ⟨⟨hvisible, hnot⟩, ?_⟩
    split at hread
    · exact (Line.malformed.inj hread).symm
    · next decoded hdecode =>
      split at hread
      · cases hread
      · obtain rfl := Line.malformed.inj hread
        rw [Text.Utf8.decode?_eq_some_iff.mp hdecode, Text.Utf8.decodeLossy_encode]
      · cases hread

end Line

namespace Reading

/-- How the lines of a file are accounted for when they are numbered from some number on: each of
    them is blank, or gives the next task, or gives the next skip, under its own number. -/
inductive Accounts : Nat → List (List UInt8) → List Task → List Skip → Prop where
  | nil (number : Nat) : Accounts number [] [] []
  | blank {number : Nat} {raw : List UInt8} {rest : List (List UInt8)} {tasks : List Task}
      {skips : List Skip} (hblank : Line.IsBlank raw)
      (hrest : Accounts (number + 1) rest tasks skips) : Accounts number (raw :: rest) tasks skips
  | task {number : Nat} {raw : List UInt8} {rest : List (List UInt8)} {task : Task}
      {tasks : List Task} {skips : List Skip} (hstores : Line.Stores raw task)
      (hrest : Accounts (number + 1) rest tasks skips) :
      Accounts number (raw :: rest) (task :: tasks) skips
  | skip {number : Nat} {raw : List UInt8} {rest : List (List UInt8)} {tasks : List Task}
      {skips : List Skip} (hmalformed : Line.IsMalformed raw)
      (hrest : Accounts (number + 1) rest tasks skips) :
      Accounts number (raw :: rest) tasks (⟨number, Text.Utf8.decodeLossy raw⟩ :: skips)

variable {path : Path} {number : Nat} {raws : List (List UInt8)} {tasks : List Task}
  {skips : List Skip}

/-- How reading ends, with the tasks that came before, at the lines that are not accounted for. There
    are none of them, or the first one is overlong. -/
inductive Ends (tasks : List Task) : List (List UInt8) → Except Failure (List Task) → Prop where
  | complete : Ends tasks [] (.ok tasks)
  | overlong {raw : List UInt8} {rest : List (List UInt8)} {digits : Nat}
      (hoverlong : Line.IsOverlong raw digits) :
      Ends tasks (raw :: rest) (.error (.overlongNumber digits))

theorem Ends.cons {rest : List (List UInt8)} {outcome : Except Failure (List Task)}
    (hends : Ends tasks rest outcome) (task : Task) :
    Ends (task :: tasks) rest (outcome.map (task :: ·)) := by
  cases hends with
  | complete => exact .complete
  | overlong hoverlong => exact .overlong hoverlong

/-- What the strict reader makes of lines of which the other one skips some. -/
def strictOutcome (path : Path) (outcome : Except Failure (List Task)) :
    List Skip → Except Failure (List Task)
  | [] => outcome
  | first :: _ => .error (.corruptLine path first.lineNumber first.text)

/-- One account of the lines, up to the first overlong one, tells what both readers make of them. -/
theorem exists_accounts (path : Path) (number : Nat) (hfree : ∀ raw ∈ raws, 0x0A ∉ raw) :
    ∃ front rest tasks skips outcome, raws = front ++ rest ∧
      Accounts number front tasks skips ∧
      (∀ raw ∈ front, ∀ digits, ¬ Line.IsOverlong raw digits) ∧ Ends tasks rest outcome ∧
      ofLines false path number (raws.map Line.ofBytes) = ⟨skips, outcome⟩ ∧
      ofLines true path number (raws.map Line.ofBytes) =
        ⟨[], strictOutcome path outcome skips⟩ := by
  induction raws generalizing number with
  | nil => exact ⟨[], [], [], [], .ok [], rfl, .nil number, by simp, .complete, rfl, rfl⟩
  | cons raw others ih =>
    have hrawFree := hfree raw List.mem_cons_self
    obtain ⟨front, rest, tasks, skips, outcome, rfl, haccounts, hshort, hends, hlenient, hstrict⟩ :=
      ih (number + 1) fun other hmem => hfree other (List.mem_cons_of_mem _ hmem)
    -- A line is overlong exactly if it is read as that, so any other reading makes it short.
    have hshortCons (hread : ∀ digits, Line.ofBytes raw ≠ .overlong digits) :
        ∀ other ∈ raw :: front, ∀ digits, ¬ Line.IsOverlong other digits := by
      rintro other hmem digits hoverlong
      rcases List.mem_cons.mp hmem with rfl | hmem
      · exact hread digits ((Line.ofBytes_eq_overlong_iff hrawFree).mpr hoverlong)
      · exact hshort other hmem digits hoverlong
    rw [List.map_cons]
    cases hread : Line.ofBytes raw with
    | blank =>
      exact ⟨raw :: front, rest, tasks, skips, outcome, rfl,
        .blank (Line.ofBytes_eq_blank hread) haccounts, hshortCons (by simp [hread]), hends,
        hlenient, hstrict⟩
    | task task =>
      have hstores := (Line.ofBytes_eq_task_iff hrawFree).mp hread
      refine ⟨raw :: front, rest, task :: tasks, skips, outcome.map (task :: ·), rfl,
        .task hstores haccounts, hshortCons (by simp [hread]), hends.cons task, ?_, ?_⟩
      · rw [ofLines, hlenient]
      · rw [ofLines, hstrict]
        cases skips <;> rfl
    | malformed text =>
      obtain ⟨hmalformed, rfl⟩ := Line.ofBytes_eq_malformed hrawFree hread
      refine ⟨raw :: front, rest, tasks, _, outcome, rfl, .skip hmalformed haccounts,
        hshortCons (by simp [hread]), hends, ?_, rfl⟩
      rw [ofLines, hlenient]
      rfl
    | overlong digits =>
      have hoverlong := (Line.ofBytes_eq_overlong_iff hrawFree).mp hread
      exact ⟨[], raw :: (front ++ rest), [], [], _, rfl, .nil number, by simp,
        .overlong hoverlong, rfl, rfl⟩

/-- The strict reader succeeds with some tasks exactly if they account for the lines without any
    skip. -/
theorem ofLines_true_eq_ok_iff (path : Path) (number : Nat) (hfree : ∀ raw ∈ raws, 0x0A ∉ raw) :
    (ofLines true path number (raws.map Line.ofBytes)).outcome = .ok tasks ↔
      Accounts number raws tasks [] := by
  constructor
  · intro hread
    obtain ⟨front, rest, found, skips, outcome, rfl, haccounts, -, hends, -, hstrict⟩ :=
      exists_accounts path number hfree
    rw [hstrict] at hread
    cases skips with
    | cons first more => cases hread
    | nil =>
      cases hends with
      | overlong => cases hread
      | complete =>
        obtain rfl := Except.ok.inj hread
        rwa [List.append_nil]
  · intro haccounts
    generalize hskips : ([] : List Skip) = skips at haccounts
    induction haccounts with
    | nil number => rfl
    | blank hblank hrest ih =>
      have hline : Line.ofBytes _ = .blank := if_pos hblank
      rw [List.map_cons, hline, ofLines]
      exact ih (fun raw hmem => hfree raw (List.mem_cons_of_mem _ hmem)) hskips
    | task hstores hrest ih =>
      have hline := (Line.ofBytes_eq_task_iff (hfree _ List.mem_cons_self)).mpr hstores
      rw [List.map_cons, hline, ofLines]
      rw [ih (fun raw hmem => hfree raw (List.mem_cons_of_mem _ hmem)) hskips]
      rfl
    | skip => cases hskips

/-- Before the first skip there are blank lines and lines with tasks only. -/
theorem Accounts.first_skip {first : Skip}
    (haccounts : Accounts number raws tasks (first :: skips)) :
    ∃ (front : List (List UInt8)) (raw : List UInt8) (back : List (List UInt8)),
      raws = front ++ raw :: back ∧ Line.IsMalformed raw ∧
      first = ⟨number + front.length, Text.Utf8.decodeLossy raw⟩ ∧
      ∀ line ∈ front, Line.IsBlank line ∨ ∃ task, Line.Stores line task := by
  -- The account goes on to the first skip, where the rest of it no longer matters.
  generalize hall : first :: skips = all at haccounts
  induction haccounts with
  | nil number => cases hall
  | @blank number raw rest tasks skips hblank hrest ih =>
    obtain ⟨front, found, back, rfl, hmalformed, hfirst, hfront⟩ := ih hall
    refine ⟨raw :: front, found, back, rfl, hmalformed, ?_, ?_⟩
    · rw [hfirst, List.length_cons, Nat.add_assoc, Nat.add_comm 1]
    · intro line hmem
      rcases List.mem_cons.mp hmem with rfl | hmem
      · exact .inl hblank
      · exact hfront line hmem
  | @task number raw rest task tasks skips hstores hrest ih =>
    obtain ⟨front, found, back, rfl, hmalformed, hfirst, hfront⟩ := ih hall
    refine ⟨raw :: front, found, back, rfl, hmalformed, ?_, ?_⟩
    · rw [hfirst, List.length_cons, Nat.add_assoc, Nat.add_comm 1]
    · intro line hmem
      rcases List.mem_cons.mp hmem with rfl | hmem
      · exact .inr ⟨task, hstores⟩
      · exact hfront line hmem
  | @skip number raw rest tasks skips hmalformed hrest ih =>
    obtain ⟨rfl, -⟩ := List.cons.inj hall
    exact ⟨[], raw, rest, rfl, hmalformed, rfl, by simp⟩

end Reading

/-- A skip of the first malformed line of a content: its number counts the line feeds before it,
    and every line before it is blank or stores a task. -/
def Skip.IsFirstOf (skip : Skip) (content : List UInt8) : Prop :=
  ∃ before raw behind, content = before ++ raw ++ behind ∧ 0x0A ∉ raw ∧
    (before = [] ∨ before.getLast? = some 0x0A) ∧ (behind = [] ∨ behind.head? = some 0x0A) ∧
    Line.IsMalformed raw ∧ skip = ⟨1 + before.count 0x0A, Text.Utf8.decodeLossy raw⟩ ∧
    ∀ line ∈ Text.pieces 0x0A before, Line.IsBlank line ∨ ∃ task, Line.Stores line task

theorem Reading.Accounts.isFirstOf {content : List UInt8} {raws rest : List (List UInt8)}
    {tasks : List Task} {first : Skip} {skips : List Skip}
    (haccounts : Accounts 1 raws tasks (first :: skips))
    (hraws : Text.pieces 0x0A content = raws ++ rest) : first.IsFirstOf content := by
  obtain ⟨front, raw, back, rfl, hmalformed, hfirst, hfront⟩ := haccounts.first_skip
  have hpieces : Text.pieces 0x0A content = front ++ raw :: (back ++ rest) := by simpa using hraws
  have hfree : ∀ line ∈ front, 0x0A ∉ line := by
    intro line hmem
    apply Text.not_mem_of_mem_pieces (s := content)
    rw [hpieces]
    exact List.mem_append_left _ hmem
  have hrawFree : 0x0A ∉ raw := by
    apply Text.not_mem_of_mem_pieces (s := content)
    rw [hpieces]
    exact List.mem_append_right _ List.mem_cons_self
  obtain ⟨behind, hcontent, hbehind⟩ := Text.eq_of_pieces_eq hpieces
  refine ⟨front.flatMap (· ++ [0x0A]), raw, behind, hcontent, hrawFree, ?_, hbehind, hmalformed, ?_,
    ?_⟩
  · rcases List.eq_nil_or_concat front with rfl | ⟨others, last, rfl⟩
    · exact .inl rfl
    · refine .inr ?_
      rw [List.concat_eq_append, List.flatMap_append, List.flatMap_singleton, ← List.append_assoc,
        List.getLast?_concat]
  · rw [hfirst, Text.count_terminated hfree]
  · rw [Text.pieces_terminated hfree]
    intro line hmem
    rcases List.mem_append.mp hmem with hmem | hmem
    · exact hfront line hmem
    · obtain rfl := List.mem_singleton.mp hmem
      exact .inl rfl

end Checklist
