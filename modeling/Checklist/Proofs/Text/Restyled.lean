import Checklist.Text.Case
import Checklist.Text.Character

namespace Checklist.Text

variable {p : Char → Bool} {front core back : List Char} {text other : String}

/-- What is the same for the capital and the small one of every ASCII letter does not look at their
    case. -/
theorem apply_toLower {α : Type} (f : Char → α)
    (hcapitals : ∀ n < 26, f (Char.ofNat (0x41 + n)).toLower = f (Char.ofNat (0x41 + n)))
    (c : Char) : f c.toLower = f c := by
  by_cases hc : 'A'.val ≤ c.val ∧ c.val ≤ 'Z'.val
  · have hfirst : 0x41 ≤ c.toNat := hc.1
    have hlast : c.toNat ≤ 0x5A := hc.2
    have hsame := hcapitals (c.toNat - 0x41) (by omega)
    rwa [Nat.add_sub_cancel' hfirst, Char.ofNat_toNat] at hsame
  · have hsame : c.toLower = c := dif_neg hc
    rw [hsame]

theorem isBlank_toLower (c : Char) : isBlank c.toLower = isBlank c :=
  apply_toLower isBlank (by decide) c

section MapCase

variable {expansions : List (Nat × List Nat)} {first : CaseShift} {rest : List CaseShift}

/-- The first run of a table is all that counts for the characters before everything else in it. -/
theorem mapCase_of_lt {bound : Nat} {c : Char}
    (hexpansions : ∀ expansion ∈ expansions, bound ≤ expansion.1)
    (hrest : ∀ shift ∈ rest, bound ≤ shift.first) (hc : c.toNat < bound) :
    mapCase expansions (first :: rest) c = mapCase [] [first] c := by
  have hexpansion : expansions.find? (·.1 == c.toNat) = none := by
    refine List.find?_eq_none.mpr fun expansion hmem hkey => ?_
    have hbound := hexpansions expansion hmem
    have hkey := beq_iff_eq.mp hkey
    omega
  have hshift : rest.find? (·.covers c.toNat) = none := by
    refine List.find?_eq_none.mpr fun shift hmem hcovers => ?_
    have hbound := hrest shift hmem
    simp only [CaseShift.covers, Bool.and_eq_true, decide_eq_true_eq] at hcovers
    omega
  rw [mapCase, mapCase, hexpansion, shiftCase, shiftCase, List.find?_cons, List.find?_cons, hshift]
  rfl

/-- In the tables the first run is the one of the ASCII letters. -/
theorem mapCase_toLower (hexpansions : ∀ expansion ∈ expansions, 0x80 ≤ expansion.1)
    (hrest : ∀ shift ∈ rest, 0x80 ≤ shift.first)
    (hfirst : ∀ n < 26, mapCase [] [first] (Char.ofNat (0x41 + n)).toLower =
      mapCase [] [first] (Char.ofNat (0x41 + n))) (c : Char) :
    mapCase expansions (first :: rest) c.toLower = mapCase expansions (first :: rest) c := by
  have hascii : ∀ n < 26, (Char.ofNat (0x41 + n)).toNat < 0x80 ∧
      (Char.ofNat (0x41 + n)).toLower.toNat < 0x80 := by
    decide
  refine apply_toLower (mapCase expansions (first :: rest)) (fun n hn => ?_) c
  obtain ⟨hcapital, hsmall⟩ := hascii n hn
  rw [mapCase_of_lt hexpansions hrest hsmall, mapCase_of_lt hexpansions hrest hcapital,
    hfirst n hn]

end MapCase

set_option maxRecDepth 1000 in
theorem upperForm_toLower (c : Char) :
    mapCase upperExpansions upperShifts c.toLower = mapCase upperExpansions upperShifts c :=
  mapCase_toLower (by decide) (by decide) (by decide) c

set_option maxRecDepth 1000 in
theorem lowerForm_toLower (c : Char) :
    mapCase lowerExpansions lowerShifts c.toLower = mapCase lowerExpansions lowerShifts c :=
  mapCase_toLower (by decide) (by decide) (by decide) c

theorem nextLetterIsCased_map_toLower (s : List Char) :
    nextLetterIsCased (s.map Char.toLower) = nextLetterIsCased s := by
  have hignorable := apply_toLower (fun c => caseIgnorable.contains c.toNat) (by decide)
  have hcased := apply_toLower (fun c => casedLetters.contains c.toNat) (by decide)
  induction s with
  | nil => rfl
  | cons c rest ih =>
    rw [List.map_cons, nextLetterIsCased, nextLetterIsCased, ih]
    simp only [hignorable, hcased]

theorem upper_map_toLower (s : List Char) :
    upper (String.ofList (s.map Char.toLower)) = upper (String.ofList s) := by
  rw [upper, upper, String.toList_ofList, String.toList_ofList, List.flatMap_map]
  simp only [upperForm_toLower]

theorem lowerFrom_map_toLower (before s : List Char) :
    lowerFrom (before.map Char.toLower) (s.map Char.toLower) = lowerFrom before s := by
  have hsigma := apply_toLower (· == 'Σ') (by decide)
  induction s generalizing before with
  | nil => rfl
  | cons c rest ih =>
    have hrest := ih (c :: before)
    rw [List.map_cons] at hrest
    rw [List.map_cons, lowerFrom, lowerFrom, hrest, lowerSigma, lowerSigma,
      nextLetterIsCased_map_toLower, nextLetterIsCased_map_toLower, lowerForm_toLower]
    simp only [hsigma]

theorem lower_map_toLower (s : List Char) :
    lower (String.ofList (s.map Char.toLower)) = lower (String.ofList s) := by
  rw [lower, lower, String.toList_ofList, String.toList_ofList]
  exact congrArg String.ofList (lowerFrom_map_toLower [] s)

theorem trimEnds_map {f : Char → Char} (hf : ∀ c, p (f c) = p c) (s : List Char) :
    trimEnds p (s.map f) = (trimEnds p s).map f := by
  have hp : p ∘ f = p := funext hf
  rw [trimEnds, trimEnds, List.dropWhile_map, hp, ← List.map_reverse, List.dropWhile_map, hp,
    ← List.map_reverse]

/-- What is taken off anyhow makes no difference around the rest. -/
theorem trimEnds_append (hfront : ∀ c ∈ front, p c = true) (hback : ∀ c ∈ back, p c = true) :
    trimEnds p (front ++ core ++ back) = trimEnds p core := by
  have hbackReverse : ∀ c ∈ back.reverse, p c = true := fun c hmem =>
    hback c (List.mem_reverse.mp hmem)
  have hdrop : back.dropWhile p = [] := by
    rw [← List.append_nil back, List.dropWhile_append_of_pos hback, List.dropWhile_nil]
  rw [trimEnds, trimEnds, List.append_assoc, List.dropWhile_append_of_pos hfront,
    List.dropWhile_append]
  split
  · next hempty => rw [hdrop, List.isEmpty_iff.mp hempty]
  · rw [List.reverse_append, List.dropWhile_append_of_pos hbackReverse]

/-- Texts that differ at most in the blanks around them and in the case of ASCII letters. -/
def Restyled (text other : String) : Prop :=
  ∃ front core back frontOther coreOther backOther : List Char,
    text.toList = front ++ core ++ back ∧
    other.toList = frontOther ++ coreOther ++ backOther ∧
    core.map Char.toLower = coreOther.map Char.toLower ∧
    ∀ c ∈ front ++ back ++ (frontOther ++ backOther), isBlank c = true

namespace Restyled

/-- Without the blanks around them, such texts agree up to the case of ASCII letters. -/
theorem map_strip (hrestyled : Restyled text other) :
    (strip text).toList.map Char.toLower = (strip other).toList.map Char.toLower := by
  obtain ⟨front, core, back, frontOther, coreOther, backOther, htext, hother, hcore, hblank⟩ :=
    hrestyled
  simp only [List.forall_mem_append] at hblank
  obtain ⟨⟨hfront, hback⟩, hfrontOther, hbackOther⟩ := hblank
  rw [strip, strip, String.toList_ofList, String.toList_ofList, htext, hother,
    trimEnds_append hfront hback, trimEnds_append hfrontOther hbackOther,
    ← trimEnds_map isBlank_toLower, hcore, trimEnds_map isBlank_toLower]

theorem isAllBlank_eq (hrestyled : Restyled text other) : isAllBlank text = isAllBlank other := by
  obtain ⟨front, core, back, frontOther, coreOther, backOther, htext, hother, hcore, hblank⟩ :=
    hrestyled
  simp only [List.forall_mem_append] at hblank
  obtain ⟨⟨hfront, hback⟩, hfrontOther, hbackOther⟩ := hblank
  have hall : core.all isBlank = coreOther.all isBlank := by
    have hmapped := congrArg (List.all · isBlank) hcore
    simpa only [List.all_map, Function.comp_def, isBlank_toLower] using hmapped
  simp only [isAllBlank, htext, hother, List.all_append, hall, List.all_eq_true.mpr hfront,
    List.all_eq_true.mpr hback, List.all_eq_true.mpr hfrontOther, List.all_eq_true.mpr hbackOther]

theorem upper_strip (hrestyled : Restyled text other) :
    upper (strip text) = upper (strip other) := by
  rw [← String.ofList_toList (s := strip text), ← upper_map_toLower, hrestyled.map_strip,
    upper_map_toLower, String.ofList_toList]

theorem lower_strip (hrestyled : Restyled text other) :
    lower (strip text) = lower (strip other) := by
  rw [← String.ofList_toList (s := strip text), ← lower_map_toLower, hrestyled.map_strip,
    lower_map_toLower, String.ofList_toList]

/-- A blank text is the empty one with blanks around it. -/
theorem of_isAllBlank (hblank : isAllBlank text = true) : Restyled text "" := by
  refine ⟨text.toList, [], [], [], [], [], by simp, rfl, rfl, ?_⟩
  simpa using List.all_eq_true.mp hblank

end Restyled

end Checklist.Text
