import Checklist.Proofs.TaskFile.Malformed

namespace Checklist

/-- The task that was read, if there is one. -/
def LineReading.task? : LineReading → Option Task
  | .task stored => some stored
  | _ => none

namespace Line

/-- The characters of which a blank line consists. -/
def isBlankChar (c : Char) : Bool :=
  c == ' ' || c == '\t' || c == '\r' || c == '\x0b' || c == '\x0c'

theorem isBlankByte_of_ascii :
    ∀ n < 0x80, n ≠ '\n'.toNat → isBlankByte n.toUInt8 = isBlankChar (Char.ofNat n) := by
  decide +kernel

theorem not_isBlankChar_of_le {c : Char} (hwide : 0x80 ≤ c.toNat) : isBlankChar c = false := by
  simp only [isBlankChar, Bool.or_eq_false_iff, beq_eq_false_iff_ne]
  refine ⟨⟨⟨⟨?_, ?_⟩, ?_⟩, ?_⟩, ?_⟩ <;> rintro rfl <;> revert hwide <;> decide

theorem not_isBlankByte_of_le {byte : UInt8} (hwide : 0x80 ≤ byte.toNat) :
    isBlankByte byte = false := by
  have hne : byte ≠ 0x20 := by
    rintro rfl
    exact absurd hwide (by decide)
  have hhigh : ¬ byte ≤ 0x0D := by
    rw [UInt8.le_iff_toNat_le]
    have h : (0x0D : UInt8).toNat = 13 := rfl
    omega
  simp [isBlankByte, hne, hhigh]

theorem all_isBlankByte_encodeChar {c : Char} (hc : c ≠ '\n') :
    (Text.Utf8.encodeChar c).all isBlankByte = isBlankChar c := by
  by_cases hwide : 0x80 ≤ c.toNat
  · rw [not_isBlankChar_of_le hwide, List.all_eq_false]
    obtain ⟨byte, rest, hbytes⟩ := List.exists_cons_of_ne_nil (Text.Utf8.encodeChar_ne_nil c)
    have hmem : byte ∈ Text.Utf8.encodeChar c := hbytes ▸ List.mem_cons_self
    refine ⟨byte, hmem, ?_⟩
    rw [not_isBlankByte_of_le (Text.Utf8.le_of_mem_encodeChar hwide hmem)]
    decide
  · have hascii : c.toNat < 0x80 := Nat.not_le.mp hwide
    have hfeed : c.toNat ≠ '\n'.toNat := fun h => hc (Char.toNat_inj.mp h)
    have h := isBlankByte_of_ascii c.toNat hascii hfeed
    rw [Char.ofNat_toNat] at h
    simp [Text.Utf8.encodeChar, hascii, h]

/-- Whether a line of text consists of blank characters. -/
def isBlankText (line : String) : Bool :=
  line.toList.all isBlankChar

variable {line : String}

/-- A line of text is blank in bytes exactly if it is blank in characters. -/
theorem all_isBlankByte_encode (hfree : '\n' ∉ line.toList) :
    (Text.Utf8.encode line).all isBlankByte = isBlankText line := by
  rw [Text.Utf8.encode_ofString, Text.Utf8.encodeChars, List.all_flatMap, isBlankText,
    Bool.eq_iff_iff, List.all_eq_true, List.all_eq_true]
  refine forall₂_congr fun c hc => ?_
  rw [all_isBlankByte_encodeChar (ne_of_mem_of_not_mem hc hfree)]

/-- A line of text is never refused for its bytes. -/
theorem ofBytes_encode (hfree : '\n' ∉ line.toList) :
    ofBytes (Text.Utf8.encode line) =
      if isBlankText line then .blank
      else
        match LineReading.ofLine line with
        | .task stored => .task stored
        | .malformed => .malformed line
        | .overlong digits => .overlong digits := by
  rewrite [ofBytes, all_isBlankByte_encode hfree, Text.Utf8.decode?_encode]
  rfl

end Line

/-- The lines of a text. Nothing but a line feed ends a line. -/
def Text.lines (text : String) : List String :=
  (text.toList.splitOn '\n').map String.ofList

theorem Text.lineFeed_not_mem_of_mem_lines {text line : String} (hmem : line ∈ lines text) :
    '\n' ∉ line.toList := by
  obtain ⟨piece, hpiece, rfl⟩ := List.mem_map.mp hmem
  rw [← pieces_eq_splitOn] at hpiece
  rw [String.toList_ofList]
  exact not_mem_of_mem_pieces hpiece

/-- The lines of the bytes of a text are the bytes of its lines. -/
theorem Text.pieces_encode (text : String) :
    pieces 0x0A (Utf8.encode text) = (lines text).map (Utf8.encode ∘ ofString) := by
  rw [Utf8.encode_ofString, Utf8.pieces_encodeChars, pieces_eq_splitOn, lines, List.map_map]
  refine List.map_congr_left fun piece _ => ?_
  rw [Function.comp_apply, Function.comp_apply, Utf8.encode_ofString, String.toList_ofList]

namespace Reading

/-- The lines of text that are not blank, each with its number. -/
def visible (number : Nat) (lines : List String) : List (String × Nat) :=
  (lines.zipIdx number).filter fun numbered => !Line.isBlankText numbered.1

/-- The tasks that are read from lines of text. -/
def tasksOf (lines : List (String × Nat)) : List Task :=
  lines.filterMap fun numbered => (LineReading.ofLine numbered.1).task?

/-- The skips of the lines of text that are malformed. -/
def skipsOf (lines : List (String × Nat)) : List Skip :=
  (lines.filter fun numbered => LineReading.ofLine numbered.1 = .malformed).map
    fun numbered => ⟨numbered.2, numbered.1⟩

theorem ofLines_encode (path : Path) (number : Nat) {lines : List String}
    (hfree : ∀ line ∈ lines, '\n' ∉ line.toList)
    (hshort : ∀ line ∈ lines, ∀ digits, ¬ HasOverlongNumber line digits) :
    ofLines false path number ((lines.map (Text.Utf8.encode ∘ Text.ofString)).map Line.ofBytes) =
      ⟨skipsOf (visible number lines), .ok (tasksOf (visible number lines))⟩ := by
  induction lines generalizing number with
  | nil => rfl
  | cons line rest ih =>
    obtain ⟨hline, hfreeRest⟩ := List.forall_mem_cons.mp hfree
    obtain ⟨hshortLine, hshortRest⟩ := List.forall_mem_cons.mp hshort
    have hrest := ih (number + 1) hfreeRest hshortRest
    rw [List.map_cons, List.map_cons, Function.comp_apply, Line.ofBytes_encode hline, visible,
      List.zipIdx_cons]
    cases hblank : Line.isBlankText line with
    | true =>
      rw [if_pos rfl, ofLines, hrest, List.filter_cons_of_neg (by simp [hblank])]
      rfl
    | false =>
      rw [if_neg Bool.false_ne_true, List.filter_cons_of_pos (by simp [hblank])]
      cases hread : LineReading.ofLine line with
      | task stored =>
        rw [ofLines, hrest]
        simp [tasksOf, skipsOf, hread, LineReading.task?, visible, Except.map]
      | malformed =>
        rw [ofLines, hrest]
        simp [tasksOf, skipsOf, hread, LineReading.task?, visible]
      | overlong digits =>
        exact absurd hread
          (LineReading.ofLine_ne_overlong (mt Text.mem_ofString.mp hline) (hshortLine digits))

end Reading

namespace TaskFile

variable {path : Path} {text : String} {session : Session}

/-- A file that holds the bytes of a text is loaded as the text itself is read line by line. -/
theorem load_of_text (hname : path.name ≠ "")
    (hread : session.tree.read session.directory path = .ok (Text.Utf8.encode text))
    (hshort : ∀ line ∈ Text.lines text, ∀ digits, ¬ HasOverlongNumber line digits) :
    let lines := Reading.visible 1 (Text.lines text)
    ∃ after, (load { path }).runFrom session = (.ok (Reading.tasksOf lines), after) ∧
      after.records = session.records ++ (Reading.skipsOf lines).map (skipRecord { path }) ++
        [loadedRecord { path } (Reading.tasksOf lines).length (Reading.skipsOf lines).length] := by
  intro lines
  obtain ⟨after, hload, hrecords⟩ := runFrom_load_of_read { path } hname hread
  have hreading : Reading.ofBytes false path (Text.Utf8.encode text) =
      ⟨Reading.skipsOf lines, .ok (Reading.tasksOf lines)⟩ := by
    rw [Reading.ofBytes, Text.pieces_encode]
    exact Reading.ofLines_encode path 1 (fun _ => Text.lineFeed_not_mem_of_mem_lines) hshort
  rw [hreading] at hload hrecords
  exact ⟨after, hload, hrecords _ rfl⟩

/-- Neither a carriage return within a line nor a line separator beyond ASCII ends a line, and of
    these only the carriage return is blank. -/
theorem load_of_text_separators :
    let path : Path := ⟨.here, ["t"]⟩
    let text := "1|0|a\u0085b\u2028c\rd\r\n \t\r\x0b\x0c\n\u2028\n2|1|\x1c\n\x1c"
    let session : Session :=
      { tree := ⟨[(["t"], .file (Text.Utf8.encode text))]⟩, directory := [], clock := 0 }
    ∃ after, (load { path }).runFrom session =
        (.ok [⟨1, "a\u0085b\u2028c\rd", false⟩, ⟨2, "\x1c", true⟩], after) ∧
      after.records = [⟨3, "\u2028"⟩, ⟨5, "\x1c"⟩].map (skipRecord { path }) ++
        [loadedRecord { path } 2 2] := by
  intro path text session
  have hshort : ∀ line ∈ Text.lines text, ∀ digits, ¬ HasOverlongNumber line digits := by
    intro line hmem digits hoverlong
    have hlength : ∀ line ∈ Text.lines text,
        (Text.ofString line).length ≤ Numeral.maxDigits := by
      decide +kernel
    exact Nat.not_lt.mpr (hlength line hmem) hoverlong.lt_length
  have htasks : Reading.tasksOf (Reading.visible 1 (Text.lines text)) =
      [⟨1, "a\u0085b\u2028c\rd", false⟩, ⟨2, "\x1c", true⟩] := by decide +kernel
  have hskips : Reading.skipsOf (Reading.visible 1 (Text.lines text)) =
      [⟨3, "\u2028"⟩, ⟨5, "\x1c"⟩] := by decide +kernel
  have hname : path.name ≠ "" := by decide
  have hread : session.tree.read session.directory path = .ok (Text.Utf8.encode text) := rfl
  have hload := load_of_text hname hread hshort
  dsimp only at hload
  rw [htasks, hskips] at hload
  exact hload

end TaskFile

end Checklist
