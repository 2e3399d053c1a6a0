import Checklist.Text.Character
import Checklist.Text.WordCharacter

namespace Checklist.Text.Wrap

/-- The characters between which a run of dashes is a dash, and not part of a word. -/
def isDashNeighbour (c : Char) : Bool :=
  isWordCharacter c || ['!', '"', '\'', '&', '.', ',', '?'].contains c

/-- Whether a run of at least two dashes comes next, and then a word. -/
def startsDash (s : List Char) : Bool :=
  match s with
  | '-' :: '-' :: rest => ((rest.dropWhile (· == '-')).head?.map isWordCharacter).getD false
  | _ => false

/-- Whether two letters come next, with or without a hyphen between them. -/
def startsTwoLetters : List Char → Bool
  | first :: '-' :: second :: _ => isWordLetter first && isWordLetter second
  | first :: second :: _ => isWordLetter first && isWordLetter second
  | _ => false

/-- Whether a hyphen behind these characters, which are given nearest first, may end a line: two
    letters must stand there, with or without a hyphen between them. -/
def endsForHyphen : List Char → Bool
  | last :: '-' :: first :: _ => isWordLetter last && isWordLetter first
  | last :: other :: _ => isWordLetter last && isWordLetter other
  | _ => false

/-- The rest of a word, and what follows it. A word ends at a space, behind a hyphen between
    letters, and before a dash. The characters before it are given nearest first. -/
def takeWord (before : List Char) : List Char → List Char × List Char
  | [] => ([], [])
  | c :: rest =>
    match rest with
    | [] => ([c], [])
    | ' ' :: _ => ([c], rest)
    | '-' :: after =>
      if endsForHyphen (c :: before) && startsTwoLetters after then ([c, '-'], after)
      else if isDashNeighbour c && startsDash rest then ([c], rest)
      else
        let (word, left) := takeWord (c :: before) rest
        (c :: word, left)
    | _ =>
      let (word, left) := takeWord (c :: before) rest
      (c :: word, left)

/-- The next stretch that no line may break: a run of spaces, a dash, or a word. -/
def takeChunk (before s : List Char) : List Char × List Char :=
  if s.head? = some ' ' then (s.takeWhile (· == ' '), s.dropWhile (· == ' '))
  else if (before.head?.map isDashNeighbour).getD false && startsDash s then
    (s.takeWhile (· == '-'), s.dropWhile (· == '-'))
  else takeWord before s

/-- The stretches of a text, of which there are no more than characters. -/
def chunksFrom : Nat → List Char → List Char → List (List Char)
  | 0, _, _ => []
  | _, _, [] => []
  | fuel + 1, before, s =>
    let (chunk, rest) := takeChunk before s
    chunk :: chunksFrom fuel (chunk.reverse ++ before) rest

/-- The stretches that still fit, the room they leave, and the others. -/
def takeFitting : Nat → List (List Char) → List (List Char) × Nat × List (List Char)
  | room, [] => ([], room, [])
  | room, chunk :: rest =>
    if chunk.length ≤ room then
      let (line, left, others) := takeFitting (room - chunk.length) rest
      (chunk :: line, left, others)
    else ([], room, chunk :: rest)

/-- Where a stretch that is longer than a line is cut: behind the last hyphen that leaves something
    other than hyphens before it, or else where the room ends. -/
def cutAt (room : Nat) (chunk : List Char) : Nat :=
  let tail := (chunk.take room).reverse.dropWhile (· != '-')
  match tail with
  | _ :: before => if before.any (· != '-') then before.length + 1 else room
  | [] => room

/-- The line without a blank stretch at its end. -/
def dropBlankEnd (line : List (List Char)) : List (List Char) :=
  match line.getLast? with
  | some chunk => if chunk.all isBlank then line.dropLast else line
  | none => line

/-- The first line of some stretches, and the stretches left for other lines. -/
def takeLine (width : Nat) (chunks : List (List Char)) : List (List Char) × List (List Char) :=
  match takeFitting width chunks with
  | (line, room, chunk :: rest) =>
    if width < chunk.length then
      let cut := cutAt room chunk
      (dropBlankEnd (line ++ [chunk.take cut]), chunk.drop cut :: rest)
    else (dropBlankEnd line, chunk :: rest)
  | (line, _, []) => (dropBlankEnd line, [])

/-- The lines of some stretches. No line but the first starts with a blank stretch. -/
def linesFrom (width : Nat) : Nat → Bool → List (List Char) → List (List Char)
  | 0, _, _ => []
  | _, _, [] => []
  | fuel + 1, started, chunk :: rest =>
    let chunks := if started && chunk.all isBlank then rest else chunk :: rest
    let (line, others) := takeLine width chunks
    if line.isEmpty then linesFrom width fuel started others
    else line.flatten :: linesFrom width fuel true others

/-- The characters with each run of ASCII blanks made into one space. The flag tells that a space
    came just before. -/
def squeeze : Bool → List Char → List Char
  | _, [] => []
  | afterSpace, c :: rest =>
    if c == ' ' || (0x09 ≤ c.toNat && c.toNat ≤ 0x0D) then
      if afterSpace then squeeze true rest else ' ' :: squeeze true rest
    else c :: squeeze false rest

/-- A text in lines of a width. Lines break at spaces, behind hyphens and at dashes, and inside
    words only if they are longer than a line. -/
def lines (width : Nat) (text : String) : List String :=
  let s := trimEnds isBlank (squeeze false text.toList)
  let chunks := chunksFrom s.length [] s
  (linesFrom width (2 * s.length + 1) false chunks).map String.ofList

end Checklist.Text.Wrap
