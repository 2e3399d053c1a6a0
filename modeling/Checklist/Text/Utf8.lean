import Checklist.Text.Raw

namespace Checklist.Text.Utf8

/-- The bytes of one character: one below U+0080, two below U+0800, three in the rest of the
    basic plane, four beyond it. -/
def encodeChar (c : Char) : List UInt8 :=
  let n := c.toNat
  if n < 0x80 then [n.toUInt8]
  else if n < 0x800 then [(0xC0 + n / 0x40).toUInt8, (0x80 + n % 0x40).toUInt8]
  else if n < 0x10000 then
    [(0xE0 + n / 0x1000).toUInt8, (0x80 + n / 0x40 % 0x40).toUInt8, (0x80 + n % 0x40).toUInt8]
  else
    [(0xF0 + n / 0x40000).toUInt8, (0x80 + n / 0x1000 % 0x40).toUInt8,
      (0x80 + n / 0x40 % 0x40).toUInt8, (0x80 + n % 0x40).toUInt8]

def encodeChars (s : List Char) : List UInt8 :=
  s.flatMap encodeChar

/-- The bytes of the characters of a text. A lone surrogate has none. -/
def encode (text : RawText) : List UInt8 :=
  encodeChars (characters text)

/-- A character of which some bytes are still to come: how many, the bounds of the next one, and
    the value of the bytes so far. The bounds of a second byte exclude overlong forms, surrogates
    and values past the last code point. -/
structure Unfinished where
  missing : Nat
  low : Nat
  high : Nat
  value : Nat
  deriving Repr, DecidableEq

/-- What a byte does between two characters. -/
inductive Lead where
  | whole (c : Char)
  | opens (unfinished : Unfinished)
  | invalid
  deriving Repr, DecidableEq

def Lead.ofByte (byte : UInt8) : Lead :=
  let n := byte.toNat
  if n < 0x80 then .whole (Char.ofNat n)
  else if n < 0xC2 then .invalid
  else if n < 0xE0 then .opens ⟨1, 0x80, 0xBF, n - 0xC0⟩
  else if n < 0xF0 then
    .opens ⟨2, if n = 0xE0 then 0xA0 else 0x80, if n = 0xED then 0x9F else 0xBF, n - 0xE0⟩
  else if n < 0xF5 then
    .opens ⟨3, if n = 0xF0 then 0x90 else 0x80, if n = 0xF4 then 0x8F else 0xBF, n - 0xF0⟩
  else .invalid

/-- Reads one character after another. Each longest stretch of bytes that starts a character and
    does not complete it, and each byte that starts none, is read as `none`. -/
def scanFrom : Option Unfinished → List UInt8 → List (Option Char)
  | none, [] => []
  | some _, [] => [none]
  | none, byte :: rest =>
    match Lead.ofByte byte with
    | .whole c => some c :: scanFrom none rest
    | .opens u => scanFrom (some u) rest
    | .invalid => none :: scanFrom none rest
  | some u, byte :: rest =>
    if u.low ≤ byte.toNat ∧ byte.toNat ≤ u.high then
      if u.missing ≤ 1 then
        some (Char.ofNat (u.value * 0x40 + (byte.toNat - 0x80))) :: scanFrom none rest
      else
        scanFrom (some ⟨u.missing - 1, 0x80, 0xBF, u.value * 0x40 + (byte.toNat - 0x80)⟩) rest
    else
      none ::
        match Lead.ofByte byte with
        | .whole c => some c :: scanFrom none rest
        | .opens v => scanFrom (some v) rest
        | .invalid => none :: scanFrom none rest

/-- The characters of a sequence of bytes, and `none` for each invalid stretch. -/
def scan (bytes : List UInt8) : List (Option Char) :=
  scanFrom none bytes

/-- The characters of a sequence of bytes, if all of it is valid. -/
def decodeChars? (bytes : List UInt8) : Option (List Char) :=
  (scan bytes).mapM id

def decode? (bytes : List UInt8) : Option String :=
  (decodeChars? bytes).map String.ofList

/-- The text of a sequence of bytes, with U+FFFD for each invalid stretch. -/
def decodeLossy (bytes : List UInt8) : String :=
  String.ofList ((scan bytes).map (·.getD '\ufffd'))

end Checklist.Text.Utf8
