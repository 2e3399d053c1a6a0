import Checklist.Text.Case

namespace Checklist.Text

/-- Some numbers at equal distances, as the bits of one. It takes a few operations on one large
    number to see that two such sets have no member in common. -/
def strided (first step count : Nat) : Nat :=
  ((1 <<< (step * count) - 1) / (1 <<< step - 1)) <<< first

/-- The numbers that are in one set or another. -/
def union (sets : List Nat) : Nat :=
  sets.foldr (· ||| ·) 0

theorem testBit_quotient {step count i : Nat} (hstep : 0 < step) (hi : i < count) :
    ((1 <<< (step * count) - 1) / (1 <<< step - 1)).testBit (step * i) = true := by
  simp only [Nat.one_shiftLeft]
  have hbase : 2 ≤ 2 ^ step := Nat.le_self_pow (Nat.ne_of_gt hstep) 2
  induction count with
  | zero => omega
  | succ count ih =>
    have hpositive : 0 < 2 ^ (step * count) := Nat.two_pow_pos _
    -- The set grows by one member, which is above the ones it has.
    have hgrown : (2 ^ (step * (count + 1)) - 1) / (2 ^ step - 1) =
        2 ^ (step * count) + (2 ^ (step * count) - 1) / (2 ^ step - 1) := by
      have hsum : 2 ^ (step * (count + 1)) - 1 =
          2 ^ (step * count) - 1 + 2 ^ (step * count) * (2 ^ step - 1) := by
        rw [Nat.mul_succ, Nat.pow_add, Nat.mul_sub, Nat.mul_one]
        have hle := Nat.mul_le_mul_left (2 ^ (step * count)) hbase
        omega
      rw [hsum, Nat.add_mul_div_right _ _ (by omega), Nat.add_comm]
    rw [hgrown]
    rcases Nat.lt_succ_iff_lt_or_eq.mp hi with hbelow | rfl
    · rw [Nat.testBit_two_pow_add_gt (Nat.mul_lt_mul_of_pos_left hbelow hstep), ih hbelow]
    · have hsmall : (2 ^ (step * i) - 1) / (2 ^ step - 1) < 2 ^ (step * i) :=
        Nat.lt_of_le_of_lt (Nat.div_le_self _ _) (by omega)
      rw [Nat.testBit_two_pow_add_eq, Nat.testBit_lt_two_pow hsmall]
      rfl

theorem testBit_strided {first step count i : Nat} (hstep : 0 < step) (hi : i < count) :
    (strided first step count).testBit (first + step * i) = true := by
  rw [strided, Nat.testBit_shiftLeft, Nat.add_sub_cancel_left, testBit_quotient hstep hi]
  simp

theorem testBit_union {sets : List Nat} {n : Nat} :
    (union sets).testBit n = true ↔ ∃ set ∈ sets, set.testBit n = true := by
  induction sets with
  | nil => simp [union]
  | cons first rest ih =>
    have hrest : union (first :: rest) = first ||| union rest := rfl
    simp [hrest, Nat.testBit_or, ih]

/-- How many code points a run covers. -/
def CaseShift.count (shift : CaseShift) : Nat :=
  (shift.last - shift.first) / shift.step + 1

/-- The code points that a run covers. -/
def CaseShift.codes (shift : CaseShift) : Nat :=
  strided shift.first shift.step shift.count

/-- The counterparts of the code points that a run covers. -/
def CaseShift.forms (shift : CaseShift) : Nat :=
  strided (shift.first + shift.distance).toNat shift.step shift.count

/-- A run that leads somewhere. -/
def CaseShift.Proper (shift : CaseShift) : Prop :=
  0 < shift.step ∧ 0 ≤ shift.first + shift.distance

instance (shift : CaseShift) : Decidable shift.Proper :=
  inferInstanceAs (Decidable (_ ∧ _))

theorem CaseShift.exists_of_covers {shift : CaseShift} {n : Nat} (hcovers : shift.covers n = true) :
    ∃ i < shift.count, n = shift.first + shift.step * i := by
  simp only [covers, Bool.and_eq_true, decide_eq_true_eq, beq_iff_eq] at hcovers
  obtain ⟨⟨hfirst, hlast⟩, hstep⟩ := hcovers
  have hcount : (n - shift.first) / shift.step ≤ (shift.last - shift.first) / shift.step :=
    Nat.div_le_div_right (by omega)
  have hreached : shift.step * ((n - shift.first) / shift.step) = n - shift.first :=
    Nat.mul_div_cancel' (Nat.dvd_of_mod_eq_zero hstep)
  exact ⟨(n - shift.first) / shift.step, Nat.lt_succ_of_le hcount, by omega⟩

theorem CaseShift.testBit_codes {shift : CaseShift} {n : Nat} (hproper : shift.Proper)
    (hcovers : shift.covers n = true) : shift.codes.testBit n = true := by
  obtain ⟨i, hi, rfl⟩ := exists_of_covers hcovers
  exact testBit_strided hproper.1 hi

theorem CaseShift.testBit_forms {shift : CaseShift} {n : Nat} (hproper : shift.Proper)
    (hcovers : shift.covers n = true) : shift.forms.testBit (n + shift.distance).toNat = true := by
  obtain ⟨i, hi, rfl⟩ := exists_of_covers hcovers
  have hnonneg := hproper.2
  have hform : ((shift.first + shift.step * i : Nat) + shift.distance).toNat =
      (shift.first + shift.distance).toNat + shift.step * i := by
    push_cast
    omega
  rw [hform]
  exact testBit_strided hproper.1 hi

variable {expansions : List (Nat × List Nat)} {shifts : List CaseShift} {c letter : Char}
  {before s : List Char} {n : Nat}

/-- Whether a code point has no other form than itself. -/
def IsSettledCode (expansions : List (Nat × List Nat)) (shifts : List CaseShift) (n : Nat) : Prop :=
  expansions.find? (·.1 == n) = none ∧ shifts.find? (·.covers n) = none

instance (n : Nat) : Decidable (IsSettledCode expansions shifts n) :=
  inferInstanceAs (Decidable (_ ∧ _))

/-- A character that has no other form than itself. -/
def IsSettled (expansions : List (Nat × List Nat)) (shifts : List CaseShift) (c : Char) : Prop :=
  IsSettledCode expansions shifts c.toNat

instance (c : Char) : Decidable (IsSettled expansions shifts c) :=
  inferInstanceAs (Decidable (IsSettledCode _ _ _))

/-- The code points that a table has another form for. -/
def changedCodes (expansions : List (Nat × List Nat)) (shifts : List CaseShift) : Nat :=
  union (expansions.map (1 <<< ·.1) ++ shifts.map CaseShift.codes)

/-- The code points that a table leads to, and the one of the character that stands for what is no
    code point. -/
def formCodes (expansions : List (Nat × List Nat)) (shifts : List CaseShift) : Nat :=
  union ((0 :: expansions.flatMap (·.2)).map (1 <<< ·) ++ shifts.map CaseShift.forms)

/-- A table of forms that leads to characters without another form only. -/
structure Settles (expansions : List (Nat × List Nat)) (shifts : List CaseShift) : Prop where
  proper : ∀ shift ∈ shifts, shift.Proper
  apart : formCodes expansions shifts &&& changedCodes expansions shifts = 0

namespace Settles

theorem isSettledCode (hsettles : Settles expansions shifts)
    (hform : (formCodes expansions shifts).testBit n = true) :
    IsSettledCode expansions shifts n := by
  have hunchanged {set : Nat}
      (hmem : set ∈ expansions.map (1 <<< ·.1) ++ shifts.map CaseShift.codes) :
      set.testBit n ≠ true := by
    intro hset
    have hboth := congrArg (·.testBit n) hsettles.apart
    simp [hform, testBit_union.mpr ⟨set, hmem, hset⟩, changedCodes] at hboth
  constructor
  · refine List.find?_eq_none.mpr fun expansion hmem hkey => ?_
    refine hunchanged (List.mem_append_left _ (List.mem_map_of_mem hmem)) ?_
    rw [beq_iff_eq.mp hkey, Nat.one_shiftLeft, Nat.testBit_two_pow_self]
  · refine List.find?_eq_none.mpr fun shift hmem hcovers => ?_
    exact hunchanged (List.mem_append_right _ (List.mem_map_of_mem hmem))
      (CaseShift.testBit_codes (hsettles.proper shift hmem) hcovers)

end Settles

theorem IsSettled.mapCase (hsettled : IsSettled expansions shifts c) :
    mapCase expansions shifts c = [c] := by
  rw [Text.mapCase, hsettled.1]
  dsimp only
  rw [shiftCase, hsettled.2]
  dsimp only
  rw [Char.ofNat_toNat]

theorem flatMap_of_isSettled (hsettled : ∀ c ∈ s, IsSettled expansions shifts c) :
    s.flatMap (mapCase expansions shifts) = s := by
  induction s with
  | nil => rfl
  | cons first rest ih =>
    rw [List.flatMap_cons, (hsettled first List.mem_cons_self).mapCase,
      ih fun c hmem => hsettled c (List.mem_cons_of_mem _ hmem), List.singleton_append]

namespace Settles

theorem isSettledCode_of_letter (hsettles : Settles expansions shifts)
    (hmem : n ∈ 0 :: expansions.flatMap (·.2)) : IsSettledCode expansions shifts n :=
  hsettles.isSettledCode (testBit_union.mpr
    ⟨1 <<< n, List.mem_append_left _ (List.mem_map_of_mem hmem), by simp [Nat.one_shiftLeft]⟩)

/-- A number that is no code point stands for the character zero. -/
theorem isSettled_ofNat (hsettles : Settles expansions shifts)
    (hsettled : IsSettledCode expansions shifts n) :
    IsSettled expansions shifts (Char.ofNat n) := by
  by_cases hvalid : n.isValidChar
  · rw [Char.ofNat, dif_pos hvalid]
    exact hsettled
  · rw [Char.ofNat, dif_neg hvalid]
    exact hsettles.isSettledCode_of_letter List.mem_cons_self

theorem isSettled_of_mem_mapCase (hsettles : Settles expansions shifts)
    (hmem : letter ∈ mapCase expansions shifts c) : IsSettled expansions shifts letter := by
  rw [mapCase] at hmem
  split at hmem
  · next key letters hfind =>
    obtain ⟨n, hn, rfl⟩ := List.mem_map.mp hmem
    refine hsettles.isSettled_ofNat (hsettles.isSettledCode_of_letter (List.mem_cons_of_mem _ ?_))
    exact List.mem_flatMap.mpr ⟨_, List.mem_of_find?_eq_some hfind, hn⟩
  · next hplain =>
    rw [List.mem_singleton.mp hmem, shiftCase]
    cases hfind : shifts.find? (·.covers c.toNat) with
    | none =>
      dsimp only
      rw [Char.ofNat_toNat]
      exact ⟨hplain, hfind⟩
    | some shift =>
      have hcovers : shift.covers c.toNat = true := by simpa using List.find?_some hfind
      have hshift := List.mem_of_find?_eq_some hfind
      refine hsettles.isSettled_ofNat (hsettles.isSettledCode (testBit_union.mpr ?_))
      exact ⟨shift.forms, List.mem_append_right _ (List.mem_map_of_mem hshift),
        CaseShift.testBit_forms (hsettles.proper shift hshift) hcovers⟩

end Settles

set_option maxRecDepth 2000 in
/-- No character has a lower-case form that has another one. -/
theorem settles_lower : Settles lowerExpansions lowerShifts :=
  ⟨by decide, by decide⟩

theorem isSettled_lowerSigma (before after : List Char) :
    IsSettled lowerExpansions lowerShifts (lowerSigma before after) := by
  rw [lowerSigma]
  split <;> decide

theorem isSettled_of_mem_lowerFrom (hmem : c ∈ lowerFrom before s) :
    IsSettled lowerExpansions lowerShifts c := by
  induction s generalizing before with
  | nil => cases hmem
  | cons first rest ih =>
    rw [lowerFrom, List.mem_append] at hmem
    rcases hmem with hhead | hrest
    · split at hhead
      · rw [List.mem_singleton.mp hhead]
        exact isSettled_lowerSigma before rest
      · exact settles_lower.isSettled_of_mem_mapCase hhead
    · exact ih hrest

theorem lowerFrom_of_isSettled (hsettled : ∀ c ∈ s, IsSettled lowerExpansions lowerShifts c) :
    lowerFrom before s = s := by
  induction s generalizing before with
  | nil => rfl
  | cons first rest ih =>
    have hfirst := hsettled first List.mem_cons_self
    have hsigma : first ≠ 'Σ' := by
      rintro rfl
      exact absurd hfirst (by decide)
    rw [lowerFrom, if_neg (by simpa using hsigma), hfirst.mapCase,
      ih fun c hmem => hsettled c (List.mem_cons_of_mem _ hmem), List.singleton_append]

/-- A text in lower case stays as it is. -/
theorem lower_lower (text : String) : lower (lower text) = lower text := by
  rw [lower, lower, String.toList_ofList,
    lowerFrom_of_isSettled fun c => isSettled_of_mem_lowerFrom]

set_option maxRecDepth 2000 in
/-- No character has an upper-case form that has another one. -/
theorem settles_upper : Settles upperExpansions upperShifts :=
  ⟨by decide, by decide⟩

/-- A text in upper case stays as it is. -/
theorem upper_upper (text : String) : upper (upper text) = upper text := by
  rw [upper, upper, String.toList_ofList, flatMap_of_isSettled]
  intro c hmem
  obtain ⟨origin, -, hform⟩ := List.mem_flatMap.mp hmem
  exact settles_upper.isSettled_of_mem_mapCase hform

end Checklist.Text
