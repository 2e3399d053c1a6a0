import Checklist.Numeral
import Mathlib.Data.List.Basic
import Mathlib.Data.List.Induction

namespace Checklist

theorem Text.trimEnds_of_forall {p : Char → Bool} {s : List Char} (hfree : ∀ c ∈ s, p c = false) :
    trimEnds p s = s := by
  have hkept {t : List Char} (ht : ∀ c ∈ t, p c = false) : t.dropWhile p = t := by
    cases t with
    | nil => rfl
    | cons c rest => rw [List.dropWhile_cons, ht c List.mem_cons_self, if_neg (by decide)]
  rw [trimEnds, hkept hfree, hkept fun c hc => hfree c (List.mem_reverse.mp hc),
    List.reverse_reverse]

namespace Numeral

variable {c : Char} {s : List Char}

/-- The ASCII digits are between the characters before zero and after nine. -/
theorem toNat_of_isDigit (hdigit : c.isDigit = true) : 0x30 ≤ c.toNat ∧ c.toNat ≤ 0x39 := by
  simpa [Char.isDigit, Char.le_def, UInt32.le_iff_toNat_le] using hdigit

theorem decimalValue?_of_isDigit (hdigit : c.isDigit = true) :
    Text.decimalValue? c = some (c.toNat - '0'.toNat) := by
  obtain ⟨hzero, hnine⟩ := toNat_of_isDigit hdigit
  have hfind : Text.decimalZeros.find? (fun start => start ≤ c.toNat && c.toNat < start + 10) =
      some 0x30 := by
    apply List.find?_cons_of_pos
    simp only [Bool.and_eq_true, decide_eq_true_eq]
    omega
  rw [Text.decimalValue?, hfind]
  rfl

theorem isMargin_of_isDigit (hdigit : c.isDigit = true) : isMargin c = false := by
  obtain ⟨hzero, hnine⟩ := toNat_of_isDigit hdigit
  have hblank : Text.isBlank c = false := by
    simp only [Text.isBlank, Bool.or_eq_false_iff, Bool.and_eq_false_iff, decide_eq_false_iff_not,
      beq_eq_false_iff_ne]
    omega
  rw [isMargin, hblank, Bool.false_and]

theorem mapM_decimalValue? (hdigits : ∀ c ∈ s, c.isDigit = true) :
    s.mapM Text.decimalValue? = some (s.map fun c => c.toNat - '0'.toNat) := by
  induction s with
  | nil => rfl
  | cons c rest ih =>
    rw [List.mapM_cons, decimalValue?_of_isDigit (hdigits c List.mem_cons_self),
      ih fun other hother => hdigits other (List.mem_cons_of_mem _ hother)]
    rfl

/-- ASCII digits that are not too many are read for what they stand for. -/
theorem parse?_of_isDigit (hdigits : ∀ c ∈ s, c.isDigit = true) (hne : s ≠ [])
    (hlength : s.length ≤ maxDigits) : parse? (String.ofList s) = some (value s : Int) := by
  have htrim : Text.trimEnds isMargin s = s :=
    Text.trimEnds_of_forall fun c hc => isMargin_of_isDigit (hdigits c hc)
  have hsign : splitSign s = (false, s) := by
    obtain ⟨first, rest, rfl⟩ := List.exists_cons_of_ne_nil hne
    have hfirst := hdigits first List.mem_cons_self
    unfold splitSign
    split
    · next heq =>
      rw [(List.cons.inj heq).1] at hfirst
      cases hfirst
    · next heq =>
      rw [(List.cons.inj heq).1] at hfirst
      cases hfirst
    · rfl
  have hscore : '_' ∉ s := fun hmem => by cases hdigits '_' hmem
  have hvalues : digitValues? s = some (s.map fun c => c.toNat - '0'.toNat) := by
    simp [digitValues?, Text.pieces_of_not_mem hscore, hne, mapM_decimalValue? hdigits]
  have hcount : (s.map fun c => c.toNat - '0'.toNat).length ≤ maxDigits := by
    rwa [List.length_map]
  have hguard : (guard ((s.map fun c => c.toNat - '0'.toNat).length ≤ maxDigits) : Option Unit) =
      some () := if_pos hcount
  rw [parse?, String.toList_ofList, htrim, hsign]
  dsimp only
  rw [hvalues, Option.bind_eq_bind, Option.bind_some, hguard, value, Nat.ofDigitChars,
    List.foldl_map]
  rfl

theorem digit_lt_ten (hdigit : c.isDigit = true) : c.toNat - '0'.toNat < 10 := by
  obtain ⟨hzero, hnine⟩ := toNat_of_isDigit hdigit
  have hbase : '0'.toNat = 0x30 := rfl
  omega

theorem toDigits_of_isDigit (hdigit : c.isDigit = true) :
    Nat.toDigits 10 (c.toNat - '0'.toNat) = [c] := by
  obtain ⟨hzero, hnine⟩ := toNat_of_isDigit hdigit
  have hlt := digit_lt_ten hdigit
  have hchar : (Nat.digitChar (c.toNat - '0'.toNat)).toNat = c.toNat := by
    have hbase : '0'.toNat = 0x30 := rfl
    rw [Nat.toNat_digitChar_of_lt_ten hlt]
    omega
  rw [Nat.toDigits_of_lt_base hlt, Char.toNat_inj.mp hchar]

theorem value_concat (front : List Char) (c : Char) :
    value (front ++ [c]) = 10 * value front + (c.toNat - '0'.toNat) := by
  rw [value, Nat.ofDigitChars_append, Nat.ofDigitChars_cons, Nat.ofDigitChars_nil, value]

/-- Digits of which the first is not zero are the decimal of their value. That it is positive is
    what a further digit needs. -/
theorem toDigits_value_of_head?_ne (hdigits : ∀ c ∈ s, c.isDigit = true) (hne : s ≠ [])
    (hhead : s.head? ≠ some '0') : 0 < value s ∧ Nat.toDigits 10 (value s) = s := by
  induction s using List.reverseRecOn with
  | nil => exact absurd rfl hne
  | append_singleton front c ih =>
    have hc : c.isDigit = true := hdigits c (by simp)
    rw [value_concat]
    rcases eq_or_ne front [] with rfl | hfront
    · obtain ⟨hzero, hnine⟩ := toNat_of_isDigit hc
      have hcne : c.toNat ≠ '0'.toNat := by
        intro heq
        rw [Char.toNat_inj.mp heq] at hhead
        exact hhead rfl
      have hbase : '0'.toNat = 0x30 := rfl
      have hnil : value [] = 0 := Nat.ofDigitChars_nil
      rw [hnil, Nat.mul_zero, Nat.zero_add]
      exact ⟨by omega, toDigits_of_isDigit hc⟩
    · have hfrontDigits : ∀ other ∈ front, other.isDigit = true := fun other hother =>
        hdigits other (List.mem_append_left _ hother)
      rw [List.head?_append_of_ne_nil _ hfront] at hhead
      obtain ⟨hpos, hfrontEq⟩ := ih hfrontDigits hfront hhead
      refine ⟨by omega, ?_⟩
      rw [← Nat.toDigits_append_toDigits (by decide) hpos (digit_lt_ten hc), hfrontEq,
        toDigits_of_isDigit hc]

theorem head?_toDigits_ne {n : Nat} (hpos : 0 < n) : (Nat.toDigits 10 n).head? ≠ some '0' := by
  induction n using Nat.strongRecOn with
  | ind n ih =>
    by_cases hlt : n < 10
    · rw [Nat.toDigits_of_lt_base hlt]
      simpa [Nat.digitChar_eq_zero] using Nat.ne_of_gt hpos
    · rw [Nat.toDigits_of_base_le (by decide) (by omega),
        List.head?_append_of_ne_nil _ Nat.toDigits_ne_nil]
      exact ih (n / 10) (by omega) (by omega)

/-- Digits are the decimal of their value unless there is a superfluous zero in front. -/
theorem toDigits_value_eq_iff (hdigits : ∀ c ∈ s, c.isDigit = true) (hne : s ≠ []) :
    Nat.toDigits 10 (value s) = s ↔ (s.head? = some '0' → s = ['0']) := by
  constructor
  · intro heq hhead
    rcases Nat.eq_zero_or_pos (value s) with hzero | hpos
    · rw [← heq, hzero, Nat.toDigits_zero]
    · rw [← heq] at hhead
      exact absurd hhead (head?_toDigits_ne hpos)
  · intro hcanonical
    by_cases hhead : s.head? = some '0'
    · rw [hcanonical hhead]
      rfl
    · exact (toDigits_value_of_head?_ne hdigits hne hhead).2

theorem parse?_toString {n : Nat} (hlength : (toString n).length ≤ maxDigits) :
    parse? (toString n) = some (n : Int) := by
  have hdigits : ∀ c ∈ Nat.toDigits 10 n, c.isDigit = true := fun c hc =>
    Nat.isDigit_of_mem_toDigits (by decide) (by decide) hc
  have htext : toString n = String.ofList (Nat.toDigits 10 n) := rfl
  rw [htext, String.length_ofList] at hlength
  rw [htext, parse?_of_isDigit hdigits (by simp) hlength, value, Nat.ofDigitChars_ten_toDigits]

end Numeral

end Checklist
