import Checklist.Text.Pieces
import Checklist.Text.Raw

namespace Checklist.Text

variable {text front back : RawText} {c : Char}

theorem Point.char?_eq_some_iff {point : Point} : point.char? = some c ↔ point = .char c := by
  cases point <;> simp [char?]

theorem ofChars_inj {s t : List Char} : ofChars s = ofChars t ↔ s = t := by
  constructor
  · intro heq
    rw [← characters_ofChars s, heq, characters_ofChars]
  · rintro rfl
    rfl

theorem ofString_inj {s t : String} : ofString s = ofString t ↔ s = t := by
  rw [ofString, ofString, ofChars_inj, String.toList_inj]

theorem mem_ofChars {s : List Char} : .char c ∈ ofChars s ↔ c ∈ s := by
  simp [ofChars]

theorem mem_ofString {s : String} : .char c ∈ ofString s ↔ c ∈ s.toList :=
  mem_ofChars

theorem mem_characters : c ∈ characters text ↔ .char c ∈ text := by
  simp [characters, Point.char?_eq_some_iff]

@[simp] theorem characters_append (front back : RawText) :
    characters (front ++ back) = characters front ++ characters back :=
  List.filterMap_append

@[simp] theorem characters_ofString (text : String) :
    characters (ofString text) = text.toList :=
  characters_ofChars _

@[simp] theorem isEncodable_append (front back : RawText) :
    isEncodable (front ++ back) = (isEncodable front && isEncodable back) :=
  List.all_append

@[simp] theorem isEncodable_ofString (text : String) : isEncodable (ofString text) = true :=
  isEncodable_ofChars _

/-- The characters of the lines of a text are the lines of its characters. -/
theorem pieces_characters (text : RawText) :
    pieces '\n' (characters text) = (pieces (.char '\n') text).map characters := by
  induction text with
  | nil => rfl
  | cons point rest ih =>
    obtain ⟨first, others, hrest⟩ := List.exists_cons_of_ne_nil (pieces_ne_nil (.char '\n') rest)
    rw [hrest] at ih
    cases point with
    | surrogate above =>
      have hpoint : Point.surrogate above ≠ .char '\n' := nofun
      have hdropped : characters (.surrogate above :: rest) = characters rest := rfl
      rw [hdropped, ih, pieces, if_neg hpoint, hrest]
      rfl
    | char c =>
      have hkept : characters (.char c :: rest) = c :: characters rest := rfl
      rw [hkept, pieces, pieces, ih, hrest]
      by_cases hc : c = '\n'
      · rw [if_pos hc, if_pos (by rw [hc])]
        rfl
      · rw [if_neg hc, if_neg (by simpa using hc)]
        rfl

/-- A text that can be encoded is nothing but its characters. -/
theorem ofChars_characters (hencodable : isEncodable text = true) :
    ofChars (characters text) = text := by
  induction text with
  | nil => rfl
  | cons point rest ih =>
    rw [isEncodable, List.all_cons, Bool.and_eq_true] at hencodable
    cases point with
    | char c => exact congrArg (Point.char c :: ·) (ih hencodable.2)
    | surrogate above => cases hencodable.1

theorem isEncodable_of_subset (hsubset : front ⊆ text) (hencodable : isEncodable text = true) :
    isEncodable front = true :=
  List.all_eq_true.mpr fun _ hmem => List.all_eq_true.mp hencodable _ (hsubset hmem)

theorem ofString_characters (hencodable : isEncodable text = true) :
    ofString (String.ofList (characters text)) = text := by
  rw [ofString, String.toList_ofList, ofChars_characters hencodable]

theorem isEncodable_iff : isEncodable text = true ↔ ∃ s : String, text = s := by
  constructor
  · intro hencodable
    exact ⟨_, (ofString_characters hencodable).symm⟩
  · rintro ⟨s, rfl⟩
    exact isEncodable_ofString s

theorem string?_eq_some_iff {s : String} : string? text = some s ↔ text = s := by
  constructor
  · intro hstring
    unfold string? at hstring
    split at hstring
    · next hencodable =>
      obtain rfl := Option.some.inj hstring
      exact (ofString_characters hencodable).symm
    · cases hstring
  · rintro rfl
    simp [string?]

@[simp] theorem string?_ofString (text : String) : string? text = some text :=
  string?_eq_some_iff.mpr rfl

end Checklist.Text
