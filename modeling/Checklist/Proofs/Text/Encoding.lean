import Checklist.Proofs.Text.Pieces
import Checklist.Proofs.Text.Raw
import Checklist.Text.Utf8

namespace Checklist.Text

namespace Utf8

private theorem toNat_toUInt8 {n : Nat} (hsmall : n < 0x100) : n.toUInt8.toNat = n := by
  simp only [Nat.toUInt8_eq]
  exact UInt8.toNat_ofNat_of_lt' hsmall

private theorem scanFrom_last {unfinished : Unfinished} {tail : Nat} {rest : List UInt8}
    (htail : tail < 0x40) (hmissing : unfinished.missing = 1)
    (hlow : unfinished.low ≤ 0x80 + tail) (hhigh : 0x80 + tail ≤ unfinished.high) :
    scanFrom (some unfinished) ((0x80 + tail).toUInt8 :: rest) =
      some (Char.ofNat (unfinished.value * 0x40 + tail)) :: scanFrom none rest := by
  have hbyte : (0x80 + tail).toUInt8.toNat = 0x80 + tail := toNat_toUInt8 (by omega)
  rw [scanFrom, hbyte, if_pos ⟨hlow, hhigh⟩, if_pos (by omega), Nat.add_sub_cancel_left]

/-- A continuation byte after which more are to come. Only the first of them is bounded by what
    the lead byte says. -/
private theorem scanFrom_more {unfinished : Unfinished} {tail : Nat} {rest : List UInt8}
    (htail : tail < 0x40) (hmissing : 1 < unfinished.missing)
    (hlow : unfinished.low ≤ 0x80 + tail) (hhigh : 0x80 + tail ≤ unfinished.high) :
    scanFrom (some unfinished) ((0x80 + tail).toUInt8 :: rest) =
      scanFrom (some ⟨unfinished.missing - 1, 0x80, 0xBF, unfinished.value * 0x40 + tail⟩)
        rest := by
  have hbyte : (0x80 + tail).toUInt8.toNat = 0x80 + tail := toNat_toUInt8 (by omega)
  rw [scanFrom, hbyte, if_pos ⟨hlow, hhigh⟩, if_neg (by omega), Nat.add_sub_cancel_left]

private theorem scanFrom_opens {lead : Nat} {unfinished : Unfinished} {rest : List UInt8}
    (hopens : Lead.ofByte lead.toUInt8 = .opens unfinished) :
    scanFrom none (lead.toUInt8 :: rest) = scanFrom (some unfinished) rest := by
  rw [scanFrom, hopens]

private theorem scanFrom_two {n : Nat} (rest : List UInt8) (hlow : 0x80 ≤ n) (hhigh : n < 0x800) :
    scanFrom none ((0xC0 + n / 0x40).toUInt8 :: (0x80 + n % 0x40).toUInt8 :: rest) =
      some (Char.ofNat n) :: scanFrom none rest := by
  have hlead : Lead.ofByte (0xC0 + n / 0x40).toUInt8 = .opens ⟨1, 0x80, 0xBF, n / 0x40⟩ := by
    simp only [Lead.ofByte, toNat_toUInt8 (show 0xC0 + n / 0x40 < 0x100 by omega)]
    rw [if_neg (by omega), if_neg (by omega), if_pos (by omega), Nat.add_sub_cancel_left]
  rw [scanFrom_opens hlead, scanFrom_last (by omega) rfl (by simp) (by simp; omega)]
  simp only [Nat.div_add_mod']

private theorem scanFrom_three {n : Nat} (rest : List UInt8) (hlow : 0x800 ≤ n)
    (hhigh : n < 0x10000) (hvalid : n < 0xD800 ∨ 0xDFFF < n) :
    scanFrom none ((0xE0 + n / 0x1000).toUInt8 :: (0x80 + n / 0x40 % 0x40).toUInt8 ::
      (0x80 + n % 0x40).toUInt8 :: rest) = some (Char.ofNat n) :: scanFrom none rest := by
  have hlead : Lead.ofByte (0xE0 + n / 0x1000).toUInt8 =
      .opens ⟨2, if 0xE0 + n / 0x1000 = 0xE0 then 0xA0 else 0x80,
        if 0xE0 + n / 0x1000 = 0xED then 0x9F else 0xBF, n / 0x1000⟩ := by
    simp only [Lead.ofByte, toNat_toUInt8 (show 0xE0 + n / 0x1000 < 0x100 by omega)]
    rw [if_neg (by omega), if_neg (by omega), if_neg (by omega), if_pos (by omega),
      Nat.add_sub_cancel_left]
  have hvalue : (n / 0x1000 * 0x40 + n / 0x40 % 0x40) * 0x40 + n % 0x40 = n := by omega
  rw [scanFrom_opens hlead,
    scanFrom_more (by omega) (by simp) (by dsimp only; split <;> omega)
      (by dsimp only; split <;> omega),
    scanFrom_last (by omega) rfl (by simp) (by simp; omega)]
  simp only [hvalue]

private theorem scanFrom_four {n : Nat} (rest : List UInt8) (hlow : 0x10000 ≤ n)
    (hhigh : n < 0x110000) :
    scanFrom none ((0xF0 + n / 0x40000).toUInt8 :: (0x80 + n / 0x1000 % 0x40).toUInt8 ::
      (0x80 + n / 0x40 % 0x40).toUInt8 :: (0x80 + n % 0x40).toUInt8 :: rest) =
        some (Char.ofNat n) :: scanFrom none rest := by
  have hlead : Lead.ofByte (0xF0 + n / 0x40000).toUInt8 =
      .opens ⟨3, if 0xF0 + n / 0x40000 = 0xF0 then 0x90 else 0x80,
        if 0xF0 + n / 0x40000 = 0xF4 then 0x8F else 0xBF, n / 0x40000⟩ := by
    simp only [Lead.ofByte, toNat_toUInt8 (show 0xF0 + n / 0x40000 < 0x100 by omega)]
    rw [if_neg (by omega), if_neg (by omega), if_neg (by omega), if_neg (by omega),
      if_pos (by omega), Nat.add_sub_cancel_left]
  have hvalue : ((n / 0x40000 * 0x40 + n / 0x1000 % 0x40) * 0x40 + n / 0x40 % 0x40) * 0x40 +
      n % 0x40 = n := by omega
  rw [scanFrom_opens hlead,
    scanFrom_more (by omega) (by simp) (by dsimp only; split <;> omega)
      (by dsimp only; split <;> omega),
    scanFrom_more (by omega) (by simp) (by simp) (by simp; omega),
    scanFrom_last (by omega) rfl (by simp) (by simp; omega)]
  simp only [hvalue]

/-- The bytes of a character are read as that character, whatever follows them. -/
theorem scanFrom_encodeChar (c : Char) (rest : List UInt8) :
    scanFrom none (encodeChar c ++ rest) = some c :: scanFrom none rest := by
  have hvalid : c.toNat < 0xD800 ∨ 0xDFFF < c.toNat ∧ c.toNat < 0x110000 := c.valid
  have hc : Char.ofNat c.toNat = c := Char.ofNat_toNat c
  simp only [encodeChar]
  split
  · next hone =>
    have hbyte : c.toNat.toUInt8.toNat = c.toNat := toNat_toUInt8 (by omega)
    have hlead : Lead.ofByte c.toNat.toUInt8 = .whole c := by
      simp only [Lead.ofByte, hbyte]
      rw [if_pos hone, hc]
    rw [List.singleton_append, scanFrom, hlead]
  · next hone =>
    split
    · next htwo => exact (scanFrom_two rest (by omega) htwo).trans (by rw [hc])
    · next htwo =>
      split
      · next hthree =>
        exact (scanFrom_three rest (by omega) hthree (by omega)).trans (by rw [hc])
      · next hthree => exact (scanFrom_four rest (by omega) (by omega)).trans (by rw [hc])

theorem encodeChar_ne_nil (c : Char) : encodeChar c ≠ [] := by
  simp only [encodeChar]
  split
  · simp
  · split
    · simp
    · split <;> simp

@[simp] theorem encodeChars_cons (c : Char) (s : List Char) :
    encodeChars (c :: s) = encodeChar c ++ encodeChars s := by
  simp [encodeChars]

@[simp] theorem encodeChars_append (s t : List Char) :
    encodeChars (s ++ t) = encodeChars s ++ encodeChars t := by
  simp [encodeChars]

theorem encode_append (front back : RawText) :
    encode (front ++ back) = encode front ++ encode back := by
  simp [encode]

theorem encode_ofString (text : String) : encode text = encodeChars text.toList := by
  rw [encode, characters_ofString]

theorem encode_lineFeed : encode "\n" = [0x0A] := by decide

theorem encode_carriageReturn : encode "\r" = [0x0D] := by decide

/-- Scanning what was encoded gives the characters back, none of them invalid. -/
theorem scan_encodeChars (s : List Char) : scan (encodeChars s) = s.map some := by
  induction s with
  | nil => rfl
  | cons c rest ih =>
    rw [scan] at ih
    rw [scan, encodeChars_cons, scanFrom_encodeChar, ih, List.map_cons]

theorem decodeChars?_encodeChars (s : List Char) : decodeChars? (encodeChars s) = some s := by
  rw [decodeChars?, scan_encodeChars]
  induction s with
  | nil => rfl
  | cons c rest ih => simp [List.mapM_cons, ih]

theorem decode?_encode (text : String) : decode? (encode text) = some text := by
  rw [decode?, encode_ofString, decodeChars?_encodeChars, Option.map_some, String.ofList_toList]

/-- Bytes without an invalid stretch are shown as the text they are. -/
theorem decodeLossy_encode (text : String) : decodeLossy (encode text) = text := by
  have hshow : ((·.getD '\ufffd') : Option Char → Char) ∘ some = id := rfl
  rw [decodeLossy, encode_ofString, scan_encodeChars, List.map_map, hshow, List.map_id,
    String.ofList_toList]

/-- The bytes of a character outside ASCII are all above ASCII. -/
theorem le_of_mem_encodeChar {c : Char} (hwide : 0x80 ≤ c.toNat) {byte : UInt8}
    (hmem : byte ∈ encodeChar c) : 0x80 ≤ byte.toNat := by
  have hvalid : c.toNat < 0xD800 ∨ 0xDFFF < c.toNat ∧ c.toNat < 0x110000 := c.valid
  simp only [encodeChar, if_neg (Nat.not_lt.mpr hwide)] at hmem
  split at hmem
  · simp only [List.mem_cons, List.not_mem_nil, or_false] at hmem
    rcases hmem with rfl | rfl <;> rw [toNat_toUInt8 (by omega)] <;> omega
  · split at hmem
    · simp only [List.mem_cons, List.not_mem_nil, or_false] at hmem
      rcases hmem with rfl | rfl | rfl <;> rw [toNat_toUInt8 (by omega)] <;> omega
    · simp only [List.mem_cons, List.not_mem_nil, or_false] at hmem
      rcases hmem with rfl | rfl | rfl | rfl <;> rw [toNat_toUInt8 (by omega)] <;> omega

/-- An ASCII byte stands in an encoded text only where its character stands in the text. -/
theorem mem_encodeChars_of_ascii {s : List Char} {byte : UInt8} (hascii : byte.toNat < 0x80)
    (hmem : byte ∈ encodeChars s) : ∃ c ∈ s, c.toNat = byte.toNat := by
  obtain ⟨c, hc, hbyte⟩ := List.mem_flatMap.mp hmem
  refine ⟨c, hc, ?_⟩
  by_cases hwide : 0x80 ≤ c.toNat
  · have hle := le_of_mem_encodeChar hwide hbyte
    omega
  · simp only [encodeChar, if_pos (Nat.not_le.mp hwide), List.mem_singleton] at hbyte
    rw [hbyte, toNat_toUInt8 (by omega)]

theorem mem_encodeChars_of_mem {s : List Char} {c : Char} (hascii : c.toNat < 0x80)
    (hmem : c ∈ s) : c.toNat.toUInt8 ∈ encodeChars s := by
  refine List.mem_flatMap.mpr ⟨c, hmem, ?_⟩
  simp [encodeChar, hascii]

/-- A text without line feeds is encoded without line feeds. -/
theorem lineFeed_not_mem_encodeChars {s : List Char} (hfree : '\n' ∉ s) :
    0x0A ∉ encodeChars s := by
  intro hmem
  obtain ⟨c, hc, hvalue⟩ := mem_encodeChars_of_ascii (by decide) hmem
  have heq : c = '\n' := by
    rw [← Char.ofNat_toNat c, hvalue]
    rfl
  exact hfree (heq ▸ hc)

theorem lineFeed_not_mem_of_encodeChars {s : List Char} (hfree : 0x0A ∉ encodeChars s) :
    '\n' ∉ s :=
  fun hmem => hfree (mem_encodeChars_of_mem (c := '\n') (by decide) hmem)

/-- The lines of an encoded text are the encoded lines of the text. -/
theorem pieces_encodeChars (s : List Char) :
    pieces 0x0A (encodeChars s) = (pieces '\n' s).map encodeChars := by
  induction s with
  | nil => rfl
  | cons c rest ih =>
    obtain ⟨first, others, hrest⟩ := List.exists_cons_of_ne_nil (pieces_ne_nil '\n' rest)
    by_cases hc : c = '\n'
    · have hfeed : encodeChar '\n' = [0x0A] := by decide
      rw [hc, encodeChars_cons, hfeed, List.singleton_append, pieces, if_pos rfl, pieces,
        if_pos rfl, ih]
      rfl
    · have hfree : 0x0A ∉ encodeChar c := by
        have h := lineFeed_not_mem_encodeChars (s := [c]) (by simpa [eq_comm] using hc)
        simpa [encodeChars] using h
      rw [encodeChars_cons, pieces_append_of_not_mem hfree, ih, hrest, pieces, if_neg hc, hrest]
      simp

theorem lineFeed_not_mem_encode {text : RawText} (hfree : .char '\n' ∉ text) :
    0x0A ∉ encode text :=
  lineFeed_not_mem_encodeChars (mt mem_characters.mp hfree)

theorem lineFeed_not_mem_of_encode {text : RawText} (hfree : 0x0A ∉ encode text) :
    .char '\n' ∉ text :=
  mt mem_characters.mpr (lineFeed_not_mem_of_encodeChars hfree)

theorem pieces_encode (text : RawText) :
    pieces 0x0A (encode text) = (pieces (.char '\n') text).map encode := by
  rw [encode, pieces_encodeChars, pieces_characters, List.map_map]
  rfl

end Utf8

end Checklist.Text
