import Checklist.Proofs.TaskFile.Malformed

namespace Checklist

/-- The skip of the same line where so many more lines stand before it. -/
def Skip.later (skip : Skip) (count : Nat) : Skip :=
  { skip with lineNumber := skip.lineNumber + count }

namespace Reading

variable {path : Path} {number : Nat} {a b : List UInt8} {tasks : List Task}

/-- The number of the first line shows in the skips and nowhere else. -/
theorem ofLines_later (path : Path) (number count : Nat) (lines : List Line) :
    ofLines false path (number + count) lines =
      ⟨(ofLines false path number lines).skips.map (·.later count),
        (ofLines false path number lines).outcome⟩ := by
  induction lines generalizing number with
  | nil => rfl
  | cons line rest ih =>
    have hrest := ih (number + 1)
    rw [Nat.add_right_comm] at hrest
    cases line with
    | blank => rw [ofLines, ofLines, hrest]
    | task task =>
      rw [ofLines, hrest]
      rfl
    | malformed text =>
      rw [ofLines, hrest]
      rfl
    | overlong digits => rfl

/-- Lines that are all read do not get in the way of those behind them. -/
theorem ofLines_append {front : List Line} (back : List Line)
    (hfront : (ofLines false path number front).outcome = .ok tasks) :
    ofLines false path number (front ++ back) =
      ⟨(ofLines false path number front).skips ++
          (ofLines false path (number + front.length) back).skips,
        (ofLines false path (number + front.length) back).outcome.map (tasks ++ ·)⟩ := by
  induction front generalizing number tasks with
  | nil =>
    obtain rfl : [] = tasks := Except.ok.inj hfront
    cases hback : ofLines false path number back with
    | mk skips outcome => cases outcome <;> simp [ofLines, hback, Except.map]
  | cons line rest ih =>
    have hnumber : number + (line :: rest).length = number + 1 + rest.length := by
      rw [List.length_cons, Nat.add_assoc, Nat.add_comm 1]
    rw [hnumber, List.cons_append]
    cases line with
    | blank => exact ih hfront
    | task task =>
      have hmap : (ofLines false path (number + 1) rest).outcome.map (task :: ·) = .ok tasks :=
        hfront
      cases hrest : (ofLines false path (number + 1) rest).outcome with
      | error failure =>
        rw [hrest] at hmap
        cases hmap
      | ok others =>
        rw [hrest] at hmap
        obtain rfl : task :: others = tasks := Except.ok.inj hmap
        rw [ofLines, ofLines, ih hrest]
        dsimp only
        cases (ofLines false path (number + 1 + rest.length) back).outcome <;> rfl
    | malformed text =>
      rw [ofLines, ofLines, ih hfront]
      rfl
    | overlong digits => cases hfront

/-- A content behind another one is read as on its own, but that its lines come later. -/
theorem ofBytes_append (b : List UInt8) (hfront : (ofBytes false path a).outcome = .ok tasks) :
    ofBytes false path (a ++ 0x0A :: b) =
      ⟨(ofBytes false path a).skips ++
          (ofBytes false path b).skips.map (·.later (1 + a.count 0x0A)),
        (ofBytes false path b).outcome.map (tasks ++ ·)⟩ := by
  rw [ofBytes, Text.pieces_append_cons, List.map_append, ofLines_append _ hfront, List.length_map,
    Text.length_pieces, ofLines_later]
  rfl

theorem accounts_of_ofBytes (hread : (ofBytes false path a).outcome = .ok tasks) :
    Accounts 1 (Text.pieces 0x0A a) tasks (ofBytes false path a).skips := by
  obtain ⟨front, rest, found, skips, outcome, hpieces, haccounts, -, hends, hlenient, -⟩ :=
    exists_accounts path 1
      fun raw (hmem : raw ∈ Text.pieces 0x0A a) => Text.not_mem_of_mem_pieces hmem
  rw [ofBytes, hlenient] at hread ⊢
  cases hends with
  | overlong => cases hread
  | complete =>
    obtain rfl := Except.ok.inj hread
    rw [hpieces, List.append_nil]
    exact haccounts

end Reading

namespace TaskFile

/-- A load of two contents with a line feed between them gives the tasks of the one and then those
    of the other. It skips what the two loads skip, under the line numbers that follow. -/
theorem load_joined {path : Path} {a b : List UInt8} {tasks more : List Task}
    {first second both afterFirst afterSecond : Session} (hname : path.name ≠ "")
    (hreadFirst : first.tree.read first.directory path = .ok a)
    (hreadSecond : second.tree.read second.directory path = .ok b)
    (hreadBoth : both.tree.read both.directory path = .ok (a ++ 0x0A :: b))
    (hloadFirst : (load { path }).runFrom first = (.ok tasks, afterFirst))
    (hloadSecond : (load { path }).runFrom second = (.ok more, afterSecond)) :
    ∃ skips later afterBoth,
      Reading.Accounts 1 (Text.pieces 0x0A a) tasks skips ∧
      Reading.Accounts 1 (Text.pieces 0x0A b) more later ∧
      afterFirst.records = first.records ++ skips.map (skipRecord { path }) ++
        [loadedRecord { path } tasks.length skips.length] ∧
      afterSecond.records = second.records ++ later.map (skipRecord { path }) ++
        [loadedRecord { path } more.length later.length] ∧
      (load { path }).runFrom both = (.ok (tasks ++ more), afterBoth) ∧
      afterBoth.records = both.records ++
        (skips ++ later.map (·.later (1 + a.count 0x0A))).map (skipRecord { path }) ++
          [loadedRecord { path } (tasks.length + more.length) (skips.length + later.length)] := by
  obtain ⟨_, hfirst, hrecordsFirst⟩ := runFrom_load_of_read { path } hname hreadFirst
  obtain ⟨_, hsecond, hrecordsSecond⟩ := runFrom_load_of_read { path } hname hreadSecond
  obtain ⟨afterBoth, hboth, hrecordsBoth⟩ := runFrom_load_of_read { path } hname hreadBoth
  obtain ⟨houtcomeFirst, rfl⟩ := Prod.mk.inj (hfirst.symm.trans hloadFirst)
  obtain ⟨houtcomeSecond, rfl⟩ := Prod.mk.inj (hsecond.symm.trans hloadSecond)
  have hjoined := Reading.ofBytes_append b houtcomeFirst
  dsimp only at houtcomeFirst houtcomeSecond
  rw [houtcomeSecond] at hjoined
  rw [hjoined] at hboth hrecordsBoth
  have hrecords := hrecordsBoth (tasks ++ more) rfl
  rw [List.length_append, List.length_append, List.length_map] at hrecords
  exact ⟨_, _, afterBoth, Reading.accounts_of_ofBytes houtcomeFirst,
    Reading.accounts_of_ofBytes houtcomeSecond, hrecordsFirst tasks houtcomeFirst,
    hrecordsSecond more houtcomeSecond, hboth, hrecords⟩

/-- Neither side of a cut through a character is text, and the lines around it are still read. -/
theorem load_joined_within_character :
    let path : Path := ⟨.here, ["t"]⟩
    let a := Text.Utf8.encode "1|0|a\n2|0|" ++ [0xC3]
    let b := 0xA9 :: Text.Utf8.encode "\n3|1|c"
    let session (content : List UInt8) : Session :=
      { tree := ⟨[(["t"], .file content)]⟩, directory := [], clock := 0 }
    ∃ skips later after,
      Reading.Accounts 1 (Text.pieces 0x0A a) [⟨1, "a", false⟩] skips ∧
      Reading.Accounts 1 (Text.pieces 0x0A b) [⟨3, "c", true⟩] later ∧
      (load { path }).runFrom (session (a ++ 0x0A :: b)) =
        (.ok [⟨1, "a", false⟩, ⟨3, "c", true⟩], after) ∧
      after.records = (skips ++ later.map (·.later 2)).map (skipRecord { path }) ++
        [loadedRecord { path } 2 (skips.length + later.length)] := by
  intro path a b session
  have hread (content : List UInt8) :
      (session content).tree.read (session content).directory path = .ok content := rfl
  have hfirst : (load { path }).runFrom (session a) =
      (.ok [⟨1, "a", false⟩], ((load { path }).runFrom (session a)).2) :=
    Prod.ext (by decide +kernel) rfl
  have hsecond : (load { path }).runFrom (session b) =
      (.ok [⟨3, "c", true⟩], ((load { path }).runFrom (session b)).2) :=
    Prod.ext (by decide +kernel) rfl
  obtain ⟨skips, later, after, hskips, hlater, -, -, hload, hrecords⟩ :=
    load_joined (by decide) (hread a) (hread b) (hread _) hfirst hsecond
  have hcount : 1 + a.count 0x0A = 2 := by decide +kernel
  rw [hcount] at hrecords
  exact ⟨skips, later, after, hskips, hlater, hload, hrecords⟩

end TaskFile

end Checklist
