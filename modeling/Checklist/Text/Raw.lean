namespace Checklist.Text

/-- What a text is made of. Half of a pair that stands for a character can stand alone, and then it
    is no character. -/
inductive Point where
  | char (c : Char)
  /-- A lone surrogate, by what it is above U+D800. -/
  | surrogate (above : Fin 0x800)
  deriving Repr, DecidableEq

/-- A text as it was given. A word of the command line can hold anything, while what is read from a
    file has characters only. -/
abbrev RawText := List Point

def ofChars (s : List Char) : RawText :=
  s.map .char

def ofString (text : String) : RawText :=
  ofChars text.toList

instance : Coe String RawText := ⟨ofString⟩

def Point.char? : Point → Option Char
  | .char c => some c
  | .surrogate _ => none

def Point.code : Point → Nat
  | .char c => c.toNat
  | .surrogate above => 0xD800 + above

/-- The characters of a text, without its lone surrogates. -/
def characters (text : RawText) : List Char :=
  text.filterMap Point.char?

/-- Whether a text consists of characters. Only then it has an encoding. -/
def isEncodable (text : RawText) : Bool :=
  text.all (·.char?.isSome)

/-- The text as a string, if it consists of characters. -/
def string? (text : RawText) : Option String :=
  if isEncodable text then some (String.ofList (characters text)) else none

/-- Words with single spaces between them. -/
def spaced (words : List RawText) : RawText :=
  (ofString " ").intercalate words

@[simp] theorem ofChars_nil : ofChars [] = [] := rfl

@[simp] theorem ofChars_cons (c : Char) (s : List Char) :
    ofChars (c :: s) = .char c :: ofChars s := rfl

@[simp] theorem ofChars_append (s t : List Char) : ofChars (s ++ t) = ofChars s ++ ofChars t :=
  List.map_append

@[simp] theorem ofString_append (front back : String) :
    ofString (front ++ back) = ofString front ++ ofString back := by
  simp [ofString]

@[simp] theorem characters_ofChars (s : List Char) : characters (ofChars s) = s := by
  simp [characters, ofChars, List.filterMap_map, Function.comp_def, Point.char?]

@[simp] theorem isEncodable_ofChars (s : List Char) : isEncodable (ofChars s) = true := by
  simp [isEncodable, ofChars, Point.char?]

end Checklist.Text
