import Checklist.Proofs.TaskFile.Malformed

namespace Checklist

namespace LineReading

/-- A carriage return at the end of a line that has none makes no difference. -/
theorem ofLine_append_return {line : Text.RawText} (hfree : .char '\n' ∉ line)
    (hreturn : line.getLast? ≠ some (.char '\r')) :
    ofLine (line ++ [Text.Point.char '\r']) = ofLine line := by
  have hlonger : .char '\n' ∉ line ++ [Text.Point.char '\r'] := by simp [hfree]
  have hbody : body (line ++ [Text.Point.char '\r']) = body line := by
    rw [body_of_not_mem hlonger, body_of_not_mem hfree, chopReturn_concat,
      chopReturn_eq_self_iff.mpr hreturn]
  rw [ofLine, hbody, ofLine]

end LineReading

namespace Line

/-- What a line holds, but for the text by which a malformed one is known. -/
def unshown : Line → Line
  | .malformed _ => .malformed ""
  | line => line

variable {raw : List UInt8}

/-- A carriage return at the end of a line that has none makes no difference, but that a malformed
    line is shown with it. -/
theorem unshown_ofBytes_concat (hfree : 0x0A ∉ raw) (hreturn : raw.getLast? ≠ some 0x0D) :
    (ofBytes (raw ++ [0x0D])).unshown = (ofBytes raw).unshown := by
  have hblank : (raw ++ [0x0D]).all isBlankByte = raw.all isBlankByte := by
    have hbyte : isBlankByte 0x0D = true := by decide
    simp [hbyte]
  rw [ofBytes, ofBytes, hblank, Text.Utf8.decode?_concat]
  split
  · rfl
  · cases hdecode : Text.Utf8.decode? raw with
    | none => rfl
    | some text =>
      obtain rfl := Text.Utf8.decode?_eq_some_iff.mp hdecode
      have htext : (Text.ofString text).getLast? ≠ some (.char '\r') := by
        intro hlast
        apply hreturn
        rw [← List.dropLast_append_getLast? (Text.Point.char '\r') hlast, Text.Utf8.encode_append]
        exact List.getLast?_concat
      have hlonger : Text.ofString (text ++ "\r") = Text.ofString text ++ [.char '\r'] :=
        Text.ofString_append text "\r"
      rw [Option.map_some]
      dsimp only
      rw [hlonger,
        LineReading.ofLine_append_return (Text.Utf8.lineFeed_not_mem_of_encode hfree) htext]
      cases LineReading.ofLine text <;> rfl

end Line

/-- A content that consists of these lines. Each of them ends in a line feed, with or without a
    carriage return before it, and the last one need not end in either. -/
inductive Text.HoldsLines : List (List UInt8) → List UInt8 → Prop where
  | nil : HoldsLines [] []
  | unended (line : List UInt8) : HoldsLines [line] line
  | feed {lines : List (List UInt8)} {content : List UInt8} (line : List UInt8)
      (hrest : HoldsLines lines content) : HoldsLines (line :: lines) (line ++ 0x0A :: content)
  | returnFeed {lines : List (List UInt8)} {content : List UInt8} (line : List UInt8)
      (hrest : HoldsLines lines content) :
      HoldsLines (line :: lines) (line ++ 0x0D :: 0x0A :: content)

namespace Reading

variable {path : Path} {number : Nat} {lines : List (List UInt8)} {content : List UInt8}

theorem ofLines_unshown (path : Path) (number : Nat) (lines : List Line) :
    ofLines false path number (lines.map Line.unshown) =
      ⟨(ofLines false path number lines).skips.map fun skip => { skip with text := "" },
        (ofLines false path number lines).outcome⟩ := by
  induction lines generalizing number with
  | nil => rfl
  | cons line rest ih =>
    have hrest := ih (number + 1)
    cases line with
    | blank => exact hrest
    | task task =>
      change ofLines false path number (.task task :: rest.map Line.unshown) = _
      rw [ofLines, hrest, ofLines]
    | malformed text =>
      rw [List.map_cons, Line.unshown, ofLines, hrest]
      rfl
    | overlong digits => rfl

/-- The pieces of a content hold what its lines hold. Behind the last line feed there is one more of
    them, which is blank. -/
theorem unshown_pieces (hholds : Text.HoldsLines lines content)
    (hfree : ∀ line ∈ lines, 0x0A ∉ line) (hreturn : ∀ line ∈ lines, line.getLast? ≠ some 0x0D) :
    ∃ behind, (behind = [] ∨ behind = [Line.blank]) ∧
      ((Text.pieces 0x0A content).map Line.ofBytes).map Line.unshown =
        (lines.map Line.ofBytes).map Line.unshown ++ behind := by
  induction hholds with
  | nil => exact ⟨[.blank], .inr rfl, rfl⟩
  | unended line =>
    rw [Text.pieces_of_not_mem (hfree line List.mem_cons_self)]
    exact ⟨[], .inl rfl, by simp⟩
  | feed line _ ih =>
    obtain ⟨hline, hfreeRest⟩ := List.forall_mem_cons.mp hfree
    obtain ⟨behind, hbehind, hrest⟩ := ih hfreeRest (List.forall_mem_cons.mp hreturn).2
    refine ⟨behind, hbehind, ?_⟩
    rw [Text.pieces_cons_of_not_mem hline]
    simp [hrest]
  | returnFeed line _ ih =>
    obtain ⟨hline, hfreeRest⟩ := List.forall_mem_cons.mp hfree
    obtain ⟨hunended, hreturnRest⟩ := List.forall_mem_cons.mp hreturn
    obtain ⟨behind, hbehind, hrest⟩ := ih hfreeRest hreturnRest
    have hended : 0x0A ∉ line ++ [0x0D] := by simp [hline]
    refine ⟨behind, hbehind, ?_⟩
    rw [List.append_cons, Text.pieces_cons_of_not_mem hended]
    simp [hrest, Line.unshown_ofBytes_concat hline hunended]

/-- However its lines end, a content is read as the same tasks, and the same lines are skipped. -/
theorem ofLines_pieces (hholds : Text.HoldsLines lines content)
    (hfree : ∀ line ∈ lines, 0x0A ∉ line) (hreturn : ∀ line ∈ lines, line.getLast? ≠ some 0x0D)
    (path : Path) (number : Nat) :
    let reading := ofLines false path number ((Text.pieces 0x0A content).map Line.ofBytes)
    let bare := ofLines false path number (lines.map Line.ofBytes)
    reading.outcome = bare.outcome ∧
      reading.skips.map (·.lineNumber) = bare.skips.map (·.lineNumber) := by
  intro reading bare
  obtain ⟨behind, hbehind, hpieces⟩ := unshown_pieces hholds hfree hreturn
  have hsame : ofLines false path number
        (((Text.pieces 0x0A content).map Line.ofBytes).map Line.unshown) =
      ofLines false path number ((lines.map Line.ofBytes).map Line.unshown) := by
    rw [hpieces]
    rcases hbehind with rfl | rfl
    · rw [List.append_nil]
    · rw [ofLines_concat_blank]
  rw [ofLines_unshown, ofLines_unshown] at hsame
  obtain ⟨hskips, houtcome⟩ := Reading.mk.inj hsame
  refine ⟨houtcome, ?_⟩
  have hnumbers := congrArg (List.map (·.lineNumber)) hskips
  rwa [List.map_map, List.map_map] at hnumbers

end Reading

namespace TaskFile

variable {path : Path} {lines : List (List UInt8)}

/-- How the lines of a file end makes no difference to the tasks that are loaded, nor to which lines
    are skipped or refused. -/
theorem load_of_any_endings (hname : path.name ≠ "") (hfree : ∀ line ∈ lines, 0x0A ∉ line)
    (hreturn : ∀ line ∈ lines, line.getLast? ≠ some 0x0D)
    (hshort : ∀ line ∈ lines, ∀ digits, ¬ Line.IsOverlong line digits) :
    ∃ tasks skips, Reading.Accounts 1 lines tasks skips ∧
      ∀ content session, Text.HoldsLines lines content →
        session.tree.read session.directory path = .ok content →
          ∃ shown leniently strictly, shown.map (·.lineNumber) = skips.map (·.lineNumber) ∧
            (load { path }).runFrom session = (.ok tasks, leniently) ∧
            leniently.records = session.records ++ shown.map (skipRecord { path }) ++
              [loadedRecord { path } tasks.length shown.length] ∧
            (load { path, strict := true }).runFrom session =
              (Reading.strictOutcome path (.ok tasks) shown, strictly) := by
  obtain ⟨front, rest, tasks, skips, outcome, rfl, haccounts, -, hends, hbare, -⟩ :=
    Reading.exists_accounts path 1 hfree
  cases hends with
  | overlong hoverlong => exact absurd hoverlong (hshort _ (by simp) _)
  | complete =>
    rw [List.append_nil] at hfree hreturn hbare
    refine ⟨tasks, skips, by rwa [List.append_nil], fun content session hholds hread => ?_⟩
    rw [List.append_nil] at hholds
    obtain ⟨leniently, hlenientLoad, hrecords⟩ := runFrom_load_of_read { path } hname hread
    obtain ⟨strictly, hstrictLoad, -⟩ :=
      runFrom_load_of_read { path, strict := true } hname hread
    obtain ⟨-, -, -, shown, outcome, -, -, -, -, hlenient, hstrict⟩ :=
      Reading.exists_accounts path 1
        fun raw (hmem : raw ∈ Text.pieces 0x0A content) => Text.not_mem_of_mem_pieces hmem
    obtain ⟨houtcome, hnumbers⟩ := Reading.ofLines_pieces hholds hfree hreturn path 1
    rw [hlenient, hbare] at houtcome hnumbers
    dsimp only at houtcome hnumbers
    subst houtcome
    unfold Reading.ofBytes at hlenientLoad hrecords hstrictLoad
    dsimp only at hlenientLoad hrecords hstrictLoad
    rw [hlenient] at hlenientLoad hrecords
    rw [hstrict] at hstrictLoad
    exact ⟨shown, leniently, strictly, hnumbers, hlenientLoad, hrecords tasks rfl, hstrictLoad⟩

/-- What is known of a file whose lines all end in line feeds holds of one in which some of them end
    in a carriage return besides, and the last one in neither. -/
theorem load_of_mixed_endings :
    let mixed := [0x20, 0x0D, 0x0A] ++ Text.Utf8.encode "1|0|a\n" ++ [0xFF, 0x0D, 0x0A] ++
      Text.Utf8.encode "\nx\r\n2|1|b"
    let path : Path := ⟨.here, ["t"]⟩
    let session : Session := { tree := ⟨[(["t"], .file mixed)]⟩, directory := [], clock := 0 }
    ∃ text leniently strictly,
      (load { path }).runFrom session = (.ok [⟨1, "a", false⟩, ⟨2, "b", true⟩], leniently) ∧
      (load { path, strict := true }).runFrom session =
        (.error (.corruptLine path 3 text), strictly) := by
  intro mixed path session
  let lines : List (List UInt8) := [[0x20], Text.Utf8.encode "1|0|a", [0xFF], [],
    Text.Utf8.encode "x", Text.Utf8.encode "2|1|b"]
  let plain := lines.flatMap (· ++ [0x0A])
  have hfree : ∀ line ∈ lines, 0x0A ∉ line := by decide +kernel
  have hreturn : ∀ line ∈ lines, line.getLast? ≠ some 0x0D := by decide +kernel
  have hshort : ∀ line ∈ lines, ∀ digits, ¬ Line.IsOverlong line digits := by
    intro line hmem digits hoverlong
    have hread := List.mem_map_of_mem (f := Line.ofBytes) hmem
    have hlines : lines.map Line.ofBytes = [.blank, .task ⟨1, "a", false⟩, .malformed "\ufffd",
        .blank, .malformed "x", .task ⟨2, "b", true⟩] := by decide +kernel
    rw [hlines, (Line.ofBytes_eq_overlong_iff (hfree line hmem)).mpr hoverlong] at hread
    simp at hread
  have hplain : Text.HoldsLines lines plain :=
    .feed _ (.feed _ (.feed _ (.feed _ (.feed _ (.feed _ .nil)))))
  have hmixed : Text.HoldsLines lines mixed :=
    .returnFeed _ (.feed _ (.returnFeed _ (.feed _ (.returnFeed _ (.unended _)))))
  have hname : path.name ≠ "" := by decide
  obtain ⟨tasks, skips, -, hsame⟩ := load_of_any_endings hname hfree hreturn hshort
  let ended : Session := { session with tree := ⟨[(["t"], .file plain)]⟩ }
  obtain ⟨shown, _, _, hnumbers, hlenient, -, hstrict⟩ := hsame plain ended hplain rfl
  have htasks : ((load { path }).runFrom ended).1 = .ok [⟨1, "a", false⟩, ⟨2, "b", true⟩] := by
    decide +kernel
  have hfails : ((load { path, strict := true }).runFrom ended).1 =
      .error (.corruptLine path 3 "\ufffd") := by decide +kernel
  rw [hlenient] at htasks
  rw [hstrict] at hfails
  obtain rfl := Except.ok.inj htasks
  obtain ⟨shownMixed, leniently, strictly, hnumbersMixed, hlenientMixed, -, hstrictMixed⟩ :=
    hsame mixed session hmixed rfl
  rw [← hnumbers] at hnumbersMixed
  cases shown with
  | nil => cases hfails
  | cons first more =>
    obtain ⟨-, hfirst, -⟩ := Failure.corruptLine.inj (Except.error.inj hfails)
    cases shownMixed with
    | nil => cases hnumbersMixed
    | cons firstMixed moreMixed =>
      have hnumber : firstMixed.lineNumber = 3 := hfirst ▸ (List.cons.inj hnumbersMixed).1
      refine ⟨firstMixed.text, leniently, strictly, hlenientMixed, ?_⟩
      rw [hstrictMixed, Reading.strictOutcome, hnumber]

end TaskFile

end Checklist
