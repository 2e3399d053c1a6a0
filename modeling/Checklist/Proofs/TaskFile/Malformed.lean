import Checklist.Proofs.FileTree.Parents
import Checklist.Proofs.TaskFile.Accounting
import Checklist.Proofs.TaskFile.RoundTrip

namespace Checklist

open Text (ofChars)

/-- A first line that starts with an overlong number stops every reader. -/
theorem Reading.ofBytes_of_overlong {number : List Char} (text rest : List Char)
    (hnumeral : IsNumeral number) (hlong : Numeral.maxDigits < number.length)
    (htext : '\n' ∉ text ∧ text.getLast? ≠ some '\r') (strict : Bool) (path : Path) :
    (ofBytes strict path
      (Text.Utf8.encodeChars (number ++ '|' :: '0' :: '|' :: (text ++ '\n' :: rest)))).outcome =
        .error (.overlongNumber number.length) := by
  let line := number ++ '|' :: '0' :: '|' :: text
  have hfree : '\n' ∉ line := by
    have hnumber : '\n' ∉ number := fun hmem => by cases hnumeral.isDigit _ hmem
    simp [line, hnumber, htext.1]
  have hlast : (ofChars text).getLast? ≠ some (.char '\r') := by
    rw [ofChars, List.getLast?_map]
    intro hmapped
    obtain ⟨c, hc, hreturn⟩ := Option.map_eq_some_iff.mp hmapped
    exact htext.2 (Text.Point.char.inj hreturn ▸ hc)
  have hreturn : chopReturn (ofChars line) = ofChars line := by
    have hchop := chopReturn_append_cons (c := .char '|') (by decide)
      (ofChars number ++ [.char '|', .char '0']) (ofChars text)
    rw [chopReturn_eq_self_iff.mpr hlast] at hchop
    simpa [line] using hchop
  have hoverlong : Line.IsOverlong (Text.Utf8.encodeChars line) number.length := by
    refine ⟨String.ofList line, ?_, ?_⟩
    · rw [Text.Utf8.encode_ofString, String.toList_ofList]
    · rw [Text.ofString, String.toList_ofList, hreturn]
      exact ⟨number, [.char '0'], ofChars text, hnumeral, rfl, hlong, by decide, by simp [line]⟩
  have hlineFree := Text.Utf8.lineFeed_not_mem_encodeChars hfree
  have hcontent : Text.Utf8.encodeChars (number ++ '|' :: '0' :: '|' :: (text ++ '\n' :: rest)) =
      Text.Utf8.encodeChars line ++ 0x0A :: Text.Utf8.encodeChars rest := by
    have hfeed : Text.Utf8.encodeChar '\n' = [0x0A] := by decide
    simp [line, hfeed]
  rw [hcontent, ofBytes, Text.pieces_append_cons, Text.pieces_of_not_mem hlineFree,
    List.singleton_append, List.map_cons, (Line.ofBytes_eq_overlong_iff hlineFree).mpr hoverlong]
  rfl

namespace TaskFile

variable {path : Path} {content : List UInt8} {session : Session}

/-- A file that can be read stands in a directory, so that a load has none to make. -/
theorem shows_of_read {file : TaskFile} (hname : file.path.name ≠ "")
    (hread : session.tree.read session.directory file.path = .ok content) :
    file.Shows session.tree session.directory (some content) :=
  ⟨(FileTree.read_eq_ok_iff.mp hread).1.peek?_parent hname, hread⟩

/-- A load of a file that can be read goes by its content alone. What it logs is what it skips, and
    a summary if it succeeds. -/
theorem runFrom_load_of_read (file : TaskFile) (hname : file.path.name ≠ "")
    (hread : session.tree.read session.directory file.path = .ok content) :
    ∃ after,
      file.load.runFrom session = ((Reading.ofBytes file.strict file.path content).outcome, after) ∧
        ∀ tasks, (Reading.ofBytes file.strict file.path content).outcome = .ok tasks →
          after.records = session.records ++
            (Reading.ofBytes file.strict file.path content).skips.map file.skipRecord ++
              [file.loadedRecord tasks.length
                (Reading.ofBytes file.strict file.path content).skips.length] := by
  have hshows := shows_of_read hname hread
  obtain ⟨hleads, hfile⟩ := FileTree.read_eq_ok_iff.mp hread
  have hpeek : session.tree.peek? session.directory file.path = .ok (some (.file content)) := by
    rw [hleads.peek?, hfile]
  rw [load, Attempt.runFrom_bind, runFrom_ensureDirectory, hshows.makeDirectories, hshows.rooted]
  dsimp only [FileTree.mapError_ok]
  rw [Attempt.runFrom_bind, Session.peek?, Session.runFrom_inspect, hpeek]
  dsimp only
  rw [Attempt.runFrom_bind, Session.read, Session.runFrom_inspect, hread]
  dsimp only
  rw [interpret, Attempt.runFrom_bind, Session.runFrom_logAll]
  dsimp only
  cases houtcome : (Reading.ofBytes file.strict file.path content).outcome with
  | error failure => exact ⟨_, rfl, fun tasks hok => by cases hok⟩
  | ok tasks =>
    refine ⟨_, rfl, ?_⟩
    rintro _ ⟨⟩
    rw [Session.records_issue, Session.records_issueAll]

/-- What a load makes of a content. It gives every task and logs every skip. A strict one fails at
    the first malformed line instead, and any load fails at an overlong number. -/
inductive LoadsAs (file : TaskFile) (content : List UInt8) (before after : Session) :
    Except Failure (List Task) → Prop where
  | tasks {tasks : List Task} {skips : List Skip}
      (hshort : ∀ raw ∈ Text.pieces 0x0A content, ∀ digits, ¬ Line.IsOverlong raw digits)
      (hskips : file.strict = true → skips = [])
      (haccounts : Reading.Accounts 1 (Text.pieces 0x0A content) tasks skips)
      (hrecords : after.records = before.records ++ skips.map file.skipRecord ++
        [file.loadedRecord tasks.length skips.length]) :
      LoadsAs file content before after (.ok tasks)
  | corrupt {skip : Skip} (hstrict : file.strict = true) (hfirst : skip.IsFirstOf content) :
      LoadsAs file content before after
        (.error (.corruptLine file.path skip.lineNumber skip.text))
  | overlong {raw : List UInt8} {digits : Nat} (hmem : raw ∈ Text.pieces 0x0A content)
      (hoverlong : Line.IsOverlong raw digits) :
      LoadsAs file content before after (.error (.overlongNumber digits))

/-- Where reading is not stopped by a malformed line, it ends as the lines themselves do. -/
theorem LoadsAs.of_ends {file : TaskFile} {before after : Session} {front rest : List (List UInt8)}
    {tasks : List Task} {skips : List Skip} {outcome : Except Failure (List Task)}
    (hpieces : Text.pieces 0x0A content = front ++ rest)
    (haccounts : Reading.Accounts 1 front tasks skips)
    (hshort : ∀ raw ∈ front, ∀ digits, ¬ Line.IsOverlong raw digits)
    (hends : Reading.Ends tasks rest outcome) (hskips : file.strict = true → skips = [])
    (hrecords : ∀ tasks, outcome = .ok tasks →
      after.records = before.records ++ skips.map file.skipRecord ++
        [file.loadedRecord tasks.length skips.length]) :
    file.LoadsAs content before after outcome := by
  cases hends with
  | complete =>
    rw [List.append_nil] at hpieces
    subst hpieces
    exact .tasks hshort hskips haccounts (hrecords tasks rfl)
  | overlong hoverlong => exact .overlong (by simp [hpieces]) hoverlong

/-- A load of a file that can be read gives the tasks of its lines, whatever its content, unless
    there is a line to fail at. -/
theorem load_of_any_content {file : TaskFile} (hname : file.path.name ≠ "")
    (hread : session.tree.read session.directory file.path = .ok content) :
    ∃ outcome after, file.load.runFrom session = (outcome, after) ∧
      file.LoadsAs content session after outcome := by
  obtain ⟨after, hload, hrecords⟩ := runFrom_load_of_read file hname hread
  refine ⟨_, after, hload, ?_⟩
  obtain ⟨front, rest, tasks, skips, outcome, hpieces, haccounts, hshort, hends, hlenient,
    hstrict⟩ := Reading.exists_accounts file.path 1
      fun raw (hmem : raw ∈ Text.pieces 0x0A content) => Text.not_mem_of_mem_pieces hmem
  unfold Reading.ofBytes at hrecords ⊢
  cases hfile : file.strict with
  | false =>
    rw [hfile, hlenient] at hrecords
    rw [hlenient]
    exact .of_ends hpieces haccounts hshort hends (by simp [hfile]) hrecords
  | true =>
    rw [hfile, hstrict] at hrecords
    rw [hstrict]
    cases skips with
    | nil => exact .of_ends hpieces haccounts hshort hends (fun _ => rfl) hrecords
    | cons first more => exact .corrupt hfile (haccounts.isFirstOf hpieces)

theorem load_of_content_with_malformed_line :
    let file : TaskFile := { path := ⟨.here, ["t"]⟩ }
    let content := Text.Utf8.encode "x\n1|0|a"
    let session : Session := { tree := ⟨[(["t"], .file content)]⟩, directory := [], clock := 0 }
    ∃ after, file.load.runFrom session = (.ok [⟨1, "a", false⟩], after) ∧
      file.LoadsAs content session after (.ok [⟨1, "a", false⟩]) := by
  intro file content session
  have hname : file.path.name ≠ "" := by decide
  have hread : session.tree.read session.directory file.path = .ok content := rfl
  obtain ⟨outcome, after, hload, hloads⟩ := load_of_any_content hname hread
  have houtcome : (file.load.runFrom session).1 = .ok [⟨1, "a", false⟩] := by decide +kernel
  rw [hload] at houtcome
  obtain rfl : outcome = .ok [⟨1, "a", false⟩] := houtcome
  exact ⟨after, hload, hloads⟩

/-- One overlong number keeps the tasks on all other lines from being loaded, strictly or not, and
    the failure is none that is expected. -/
theorem load_fails_at_overlong_number :
    let file : TaskFile := { path := ⟨.here, ["t"]⟩ }
    let number := List.replicate 4301 '1'
    let content := Text.Utf8.encodeChars (number ++ "|0|a\n1|0|b\n".toList)
    let before : Session := { tree := ⟨[(["t"], .file content)]⟩, directory := [], clock := 0 }
    (file.load.runFrom before).1 = .error (.overlongNumber 4301) ∧
      ({ file with strict := true }.load.runFrom before).1 = .error (.overlongNumber 4301) ∧
      Failure.isExpected (.overlongNumber 4301) = false := by
  intro file number content before
  have hread : before.tree.read before.directory file.path = .ok content := rfl
  have hnumeral : IsNumeral number := by
    refine ⟨List.ne_nil_of_length_pos (by rw [List.length_replicate]; decide), ?_⟩
    intro c hmem
    rw [List.eq_of_mem_replicate hmem]
    rfl
  have hlength : number.length = 4301 := List.length_replicate
  have hfails (strict : Bool) := Reading.ofBytes_of_overlong ['a'] "1|0|b\n".toList hnumeral
    (by rw [hlength]; decide) (by decide) strict file.path
  obtain ⟨lenient, hlenient, -⟩ := runFrom_load_of_read file (by decide) hread
  obtain ⟨strict, hstrict, -⟩ :=
    runFrom_load_of_read { file with strict := true } (by decide) hread
  have houtcome (strict : Bool) :
      (Reading.ofBytes strict file.path content).outcome = .error (.overlongNumber 4301) := by
    rw [← hlength]
    exact hfails strict
  rw [hlenient, hstrict, houtcome, houtcome]
  exact ⟨rfl, rfl, rfl⟩

end TaskFile

end Checklist
