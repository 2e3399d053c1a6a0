import Checklist.Proofs.Log.Setups
import Mathlib.Control.Monad.Basic

namespace Checklist.Log

/-- What came of records, from a session before logging was set up to one after they were told. Other
    log files than the last one are at most made, and are empty then. -/
structure Told (last : Setup) (paths : List Path) (consoleLevel fileLevel : Int)
    (records : List Record) (before after : Session) : Prop where
  errorText : after.errorText =
    before.errorText ++ transcript before.clock (records.filter (IsShown consoleLevel))
  file : ∀ path, last.file = some path → ∃ earlier,
    (before.tree.get? (filePlace before.directory path) = some (.file earlier) ∨
      before.tree.get? (filePlace before.directory path) = none ∧ earlier = []) ∧
    after.tree.get? (filePlace before.directory path) = some (.file (earlier ++
      Text.Utf8.encode (transcript before.clock (records.filter (IsFiled fileLevel)))))
  elsewhere : ∀ place, last.file.map (filePlace before.directory) ≠ some place →
    OpenedAt paths before.directory before.tree after.tree place

variable {last : Setup} {paths : List Path} {session ready : Session}
  {consoleLevel fileLevel : Int}

theorem SetUp.told (hsetUp : SetUp paths session ready) (hlevel : ready.routing.level = debug)
    (hhandlers : ready.routing.handlers =
      ⟨consoleLevel, .console⟩ :: last.file.toList.map fun path =>
        ⟨fileLevel, .file (some (filePlace session.directory path))⟩)
    (hthere : ∀ path, last.file = some path →
      ∃ content, ready.tree.get? (filePlace session.directory path) = some (.file content))
    (records : List Record) :
    Told last paths consoleLevel fileLevel records session
      (records.foldl Session.issue ready) := by
  constructor
  · have hshows : ready.routing.ShowsFrom consoleLevel := by
      refine ⟨hlevel, ?_⟩
      rw [Routing.consoles, hhandlers]
      cases last.file <;> rfl
    rw [ready.errorText_issueAll hshows, hsetUp.errorText, hsetUp.clock]
  · intro path hpath
    obtain ⟨content, hcontent⟩ := hthere path hpath
    rw [hpath] at hhandlers
    have htold := ready.get?_issueAll hlevel hhandlers (FileTree.ne_nil_of_get?_file hcontent)
      hcontent records
    rw [hsetUp.clock] at htold
    exact ⟨content, (hsetUp.tree _).file hcontent, htold⟩
  · intro place hplace
    have hlogPlaces : ready.logPlaces = last.file.toList.map (filePlace session.directory) := by
      rw [Session.logPlaces, Routing.places, hhandlers]
      cases last.file <;> rfl
    have hapart : place ∉ ready.logPlaces := by
      rw [hlogPlaces]
      cases hfile : last.file with
      | none => simp
      | some path =>
        rw [hfile, Option.map_some] at hplace
        simpa [eq_comm] using hplace
    have hsame := (ready.continues_issueAll records).tree.entries place hapart
    exact (hsetUp.tree place).trans (.same hsame)

end Checklist.Log
