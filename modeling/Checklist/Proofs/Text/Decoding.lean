import Checklist.Proofs.Text.Encoding

namespace Checklist.Text.Utf8

/-- A character that was opened is completed by bytes within its bounds, or not at all. -/
private theorem scanFrom_some_inv {unfinished : Unfinished} {bytes : List UInt8} {c : Char}
    {out : List (Option Char)} (hscan : scanFrom (some unfinished) bytes = some c :: out) :
    ∃ byte rest, bytes = byte :: rest ∧ unfinished.low ≤ byte.toNat ∧
      byte.toNat ≤ unfinished.high ∧
      (unfinished.missing ≤ 1 →
        c = Char.ofNat (unfinished.value * 0x40 + (byte.toNat - 0x80)) ∧ scanFrom none rest = out) ∧
      (1 < unfinished.missing →
        scanFrom (some ⟨unfinished.missing - 1, 0x80, 0xBF,
          unfinished.value * 0x40 + (byte.toNat - 0x80)⟩) rest = some c :: out) := by
  cases bytes with
  | nil => simp [scanFrom] at hscan
  | cons byte rest =>
    rw [scanFrom] at hscan
    by_cases hbounds : unfinished.low ≤ byte.toNat ∧ byte.toNat ≤ unfinished.high
    · rw [if_pos hbounds] at hscan
      refine ⟨byte, rest, rfl, hbounds.1, hbounds.2, ?_, ?_⟩
      · intro hlast
        rw [if_pos hlast] at hscan
        simp only [List.cons.injEq, Option.some.injEq] at hscan
        exact ⟨hscan.1.symm, hscan.2⟩
      · intro hmore
        rwa [if_neg (Nat.not_le.mpr hmore)] at hscan
    · rw [if_neg hbounds] at hscan
      simp at hscan

private theorem eq_toUInt8 (byte : UInt8) {n : Nat} (hvalue : byte.toNat = n) :
    byte = n.toUInt8 := by
  simp [← hvalue]

private theorem toNat_charOfNat {n : Nat} (hvalid : n.isValidChar) : (Char.ofNat n).toNat = n := by
  rw [Char.ofNat, dif_pos hvalid]
  rfl

private theorem scanFrom_two_inv {lead : UInt8} {bytes : List UInt8} {c : Char}
    {out : List (Option Char)} (hlow : 0xC2 ≤ lead.toNat) (hhigh : lead.toNat < 0xE0)
    (hscan : scanFrom (some ⟨1, 0x80, 0xBF, lead.toNat - 0xC0⟩) bytes = some c :: out) :
    ∃ rest, lead :: bytes = encodeChar c ++ rest ∧ scanFrom none rest = out := by
  obtain ⟨last, rest, rfl, hlo, hhi, hlast, -⟩ := scanFrom_some_inv hscan
  dsimp only at hlo hhi hlast
  obtain ⟨hc, hrest⟩ := hlast (by omega)
  have hvalue : c.toNat = (lead.toNat - 0xC0) * 0x40 + (last.toNat - 0x80) := by
    rw [hc, toNat_charOfNat (by left; omega)]
  refine ⟨rest, ?_, hrest⟩
  simp only [encodeChar]
  rw [if_neg (by omega), if_pos (by omega),
    ← eq_toUInt8 lead (by omega), ← eq_toUInt8 last (by omega)]
  rfl

private theorem scanFrom_three_inv {lead : UInt8} {bytes : List UInt8} {c : Char}
    {out : List (Option Char)} (hlow : 0xE0 ≤ lead.toNat) (hhigh : lead.toNat < 0xF0)
    (hscan : scanFrom (some ⟨2, if lead.toNat = 0xE0 then 0xA0 else 0x80,
      if lead.toNat = 0xED then 0x9F else 0xBF, lead.toNat - 0xE0⟩) bytes = some c :: out) :
    ∃ rest, lead :: bytes = encodeChar c ++ rest ∧ scanFrom none rest = out := by
  obtain ⟨middle, rest, rfl, hlo, hhi, -, hmore⟩ := scanFrom_some_inv hscan
  dsimp only at hlo hhi hmore
  obtain ⟨last, rest, rfl, hlo', hhi', hlast, -⟩ := scanFrom_some_inv (hmore (by omega))
  dsimp only at hlo' hhi' hlast
  obtain ⟨hc, hrest⟩ := hlast (by omega)
  have hbounds : 0x80 ≤ middle.toNat ∧ middle.toNat ≤ 0xBF ∧
      (lead.toNat = 0xE0 → 0xA0 ≤ middle.toNat) ∧ (lead.toNat = 0xED → middle.toNat ≤ 0x9F) := by
    split at hlo <;> split at hhi <;> omega
  -- The bounds of the middle byte keep the value off the shorter forms and the surrogates.
  have hvalue : c.toNat = ((lead.toNat - 0xE0) * 0x40 + (middle.toNat - 0x80)) * 0x40 +
      (last.toNat - 0x80) := by
    rw [hc, toNat_charOfNat]
    simp only [Nat.isValidChar]
    omega
  refine ⟨rest, ?_, hrest⟩
  simp only [encodeChar]
  rw [if_neg (by omega), if_neg (by omega), if_pos (by omega), ← eq_toUInt8 lead (by omega),
    ← eq_toUInt8 middle (by omega), ← eq_toUInt8 last (by omega)]
  rfl

private theorem scanFrom_four_inv {lead : UInt8} {bytes : List UInt8} {c : Char}
    {out : List (Option Char)} (hlow : 0xF0 ≤ lead.toNat) (hhigh : lead.toNat < 0xF5)
    (hscan : scanFrom (some ⟨3, if lead.toNat = 0xF0 then 0x90 else 0x80,
      if lead.toNat = 0xF4 then 0x8F else 0xBF, lead.toNat - 0xF0⟩) bytes = some c :: out) :
    ∃ rest, lead :: bytes = encodeChar c ++ rest ∧ scanFrom none rest = out := by
  obtain ⟨second, rest, rfl, hlo, hhi, -, hmore⟩ := scanFrom_some_inv hscan
  dsimp only at hlo hhi hmore
  obtain ⟨third, rest, rfl, hlo', hhi', -, hmore'⟩ := scanFrom_some_inv (hmore (by omega))
  dsimp only at hlo' hhi' hmore'
  obtain ⟨last, rest, rfl, hlo'', hhi'', hlast, -⟩ := scanFrom_some_inv (hmore' (by omega))
  dsimp only at hlo'' hhi'' hlast
  obtain ⟨hc, hrest⟩ := hlast (by omega)
  have hbounds : 0x80 ≤ second.toNat ∧ second.toNat ≤ 0xBF ∧
      (lead.toNat = 0xF0 → 0x90 ≤ second.toNat) ∧ (lead.toNat = 0xF4 → second.toNat ≤ 0x8F) := by
    split at hlo <;> split at hhi <;> omega
  have hvalue : c.toNat = (((lead.toNat - 0xF0) * 0x40 + (second.toNat - 0x80)) * 0x40 +
      (third.toNat - 0x80)) * 0x40 + (last.toNat - 0x80) := by
    rw [hc, toNat_charOfNat]
    simp only [Nat.isValidChar]
    omega
  refine ⟨rest, ?_, hrest⟩
  simp only [encodeChar]
  rw [if_neg (by omega), if_neg (by omega), if_neg (by omega), ← eq_toUInt8 lead (by omega),
    ← eq_toUInt8 second (by omega), ← eq_toUInt8 third (by omega), ← eq_toUInt8 last (by omega)]
  rfl

/-- What is read as a character are the bytes of that character. Overlong forms, surrogates and
    values past the last code point are not read as characters. -/
theorem scanFrom_none_inv {bytes : List UInt8} {c : Char} {out : List (Option Char)}
    (hscan : scanFrom none bytes = some c :: out) :
    ∃ rest, bytes = encodeChar c ++ rest ∧ scanFrom none rest = out := by
  cases bytes with
  | nil => simp [scanFrom] at hscan
  | cons lead rest =>
    rw [scanFrom] at hscan
    simp only [Lead.ofByte] at hscan
    by_cases hone : lead.toNat < 0x80
    · simp only [if_pos hone, List.cons.injEq, Option.some.injEq] at hscan
      obtain ⟨rfl, hrest⟩ := hscan
      have hvalue : (Char.ofNat lead.toNat).toNat = lead.toNat :=
        toNat_charOfNat (by left; omega)
      exact ⟨rest, by simp [encodeChar, hvalue, hone], hrest⟩
    · rw [if_neg hone] at hscan
      by_cases hlow : lead.toNat < 0xC2
      · simp [if_pos hlow] at hscan
      · rw [if_neg hlow] at hscan
        by_cases htwo : lead.toNat < 0xE0
        · rw [if_pos htwo] at hscan
          exact scanFrom_two_inv (by omega) htwo hscan
        · rw [if_neg htwo] at hscan
          by_cases hthree : lead.toNat < 0xF0
          · rw [if_pos hthree] at hscan
            exact scanFrom_three_inv (by omega) hthree hscan
          · rw [if_neg hthree] at hscan
            by_cases hfour : lead.toNat < 0xF5
            · rw [if_pos hfour] at hscan
              exact scanFrom_four_inv (by omega) hfour hscan
            · simp [if_neg hfour] at hscan

/-- Bytes that are read without an invalid stretch are the encoding of what is read. -/
theorem eq_encodeChars_of_scanFrom {s : List Char} {bytes : List UInt8}
    (hscan : scanFrom none bytes = s.map some) : bytes = encodeChars s := by
  induction s generalizing bytes with
  | nil =>
    cases bytes with
    | nil => rfl
    | cons lead rest =>
      have hne : scanFrom none (lead :: rest) ≠ [] := by
        -- An unfinished character is at least reported as invalid.
        have hopen (u : Unfinished) (l : List UInt8) : scanFrom (some u) l ≠ [] := by
          induction l generalizing u with
          | nil => simp [scanFrom]
          | cons byte l ih =>
            rw [scanFrom]
            split
            · split
              · simp
              · exact ih _
            · simp
        rw [scanFrom]
        split
        · simp
        · exact hopen _ _
        · simp
      exact absurd hscan hne
  | cons c rest ih =>
    obtain ⟨after, rfl, hafter⟩ := scanFrom_none_inv (by simpa using hscan)
    rw [ih hafter, encodeChars_cons]

private theorem eq_map_some_of_mapM_id {α : Type} {items : List (Option α)} {found : List α}
    (hall : items.mapM id = some found) : items = found.map some := by
  induction items generalizing found with
  | nil => simp_all
  | cons item rest ih =>
    cases item with
    | none => simp at hall
    | some a =>
      simp only [List.mapM_cons, id, Option.bind_eq_bind, Option.bind_some,
        Option.bind_eq_some_iff, Option.pure_def, Option.some.injEq] at hall
      obtain ⟨others, hothers, rfl⟩ := hall
      rw [ih hothers, List.map_cons]

/-- Decoding succeeds on encoded texts only. -/
theorem decode?_eq_some_iff {bytes : List UInt8} {text : String} :
    decode? bytes = some text ↔ bytes = encode text := by
  constructor
  · intro hdecode
    obtain ⟨s, hs, rfl⟩ := Option.map_eq_some_iff.mp hdecode
    rw [encode_ofString, String.toList_ofList]
    exact eq_encodeChars_of_scanFrom (eq_map_some_of_mapM_id hs)
  · rintro rfl
    exact decode?_encode text

/-- Only a carriage return ends in the byte of one. -/
theorem eq_concat_of_encodeChars {raw : List UInt8} {s : List Char}
    (hraw : raw ++ [0x0D] = encodeChars s) :
    ∃ front, s = front ++ ['\r'] ∧ raw = encodeChars front := by
  rcases List.eq_nil_or_concat s with rfl | ⟨front, c, rfl⟩
  · simp [encodeChars] at hraw
  · rw [List.concat_eq_append] at hraw ⊢
    have hsingle : encodeChars [c] = encodeChar c := by simp [encodeChars]
    have hlast : 0x0D ∈ encodeChars [c] := by
      have hsome := List.getLast?_isSome.mpr (encodeChar_ne_nil c)
      have h := congrArg List.getLast? hraw
      rw [encodeChars_append, hsingle, List.getLast?_concat, List.getLast?_append,
        Option.or_of_isSome hsome] at h
      exact hsingle ▸ List.mem_of_getLast? h.symm
    obtain ⟨other, hother, hvalue⟩ := mem_encodeChars_of_ascii (by decide) hlast
    obtain rfl := List.mem_singleton.mp hother
    obtain rfl : other = '\r' := Char.toNat_inj.mp hvalue
    have hreturn : encodeChars ['\r'] = [0x0D] := by decide
    rw [encodeChars_append, hreturn, List.append_left_inj] at hraw
    exact ⟨front, rfl, hraw⟩

/-- A carriage return behind bytes leaves them as valid as they are. -/
theorem decode?_concat (raw : List UInt8) :
    decode? (raw ++ [0x0D]) = (decode? raw).map (· ++ "\r") := by
  cases hdecode : decode? raw with
  | some text =>
    obtain rfl := decode?_eq_some_iff.mp hdecode
    rw [← encode_carriageReturn, ← encode_append, ← ofString_append, decode?_encode]
    rfl
  | none =>
    rw [Option.map_none, ← Option.not_isSome_iff_eq_none, Option.isSome_iff_exists]
    rintro ⟨text, htext⟩
    obtain ⟨front, -, rfl⟩ := eq_concat_of_encodeChars (decode?_eq_some_iff.mp htext)
    have hfront := decode?_encode (String.ofList front)
    rw [encode_ofString, String.toList_ofList, hdecode] at hfront
    cases hfront

end Checklist.Text.Utf8
