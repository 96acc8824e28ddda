/-
  CardStore.Text.Utf8
  ───────────────────
  **TEXT AS BYTES.**

  `encode` writes text as UTF-8.  `decode` reads any bytes, one byte at a
  time, and yields a character or a mark for each malformed run, a run being
  the longest beginning of a character that stands there, or one byte.  Bytes
  are text when no run is malformed (`text?`); otherwise `lossyText` shows the
  replacement character for each malformed run.

  The decoder owes continuation bytes, and the next one has a least and a
  greatest value; after that one every continuation byte is 80 to BF.
-/

namespace CardStore.Text.Utf8

/-! ## §1. Writing. -/

/-- The byte of a number below 256. -/
def byte (n : Nat) : UInt8 := UInt8.ofNat n

/-- The bytes of a character. -/
def encodeChar (c : Char) : List UInt8 :=
  let n := c.toNat
  if n < 0x80 then [byte n]
  else if n < 0x800 then [byte (0xC0 + n / 64), byte (0x80 + n % 64)]
  else if n < 0x10000 then
    [byte (0xE0 + n / 4096), byte (0x80 + n / 64 % 64), byte (0x80 + n % 64)]
  else
    [byte (0xF0 + n / 262144), byte (0x80 + n / 4096 % 64), byte (0x80 + n / 64 % 64),
      byte (0x80 + n % 64)]

/-- The bytes of a text. -/
def encode (s : String) : List UInt8 := s.toList.flatMap encodeChar

/-- The number of bytes of a character. -/
def charSize (c : Char) : Nat := (encodeChar c).length

/-! ## §2. Reading. -/

/-- The rest of a character that has begun. -/
structure Pending where
  /-- Continuation bytes after the next one. -/
  owed : Nat
  /-- The least and the greatest value of the next byte. -/
  low : Nat
  high : Nat
  /-- The bits read so far. -/
  value : Nat
  deriving DecidableEq, Repr

/-- What a byte is at the beginning of a character. -/
inductive Begin where
  | char (c : Char)
  | pending (p : Pending)
  | malformed

def begin (b : Nat) : Begin :=
  if b < 0x80 then .char (Char.ofNat b)
  else if b < 0xC2 then .malformed
  else if b < 0xE0 then .pending ⟨0, 0x80, 0xBF, b - 0xC0⟩
  else if b < 0xF0 then
    .pending ⟨1, if b = 0xE0 then 0xA0 else 0x80, if b = 0xED then 0x9F else 0xBF, b - 0xE0⟩
  else if b < 0xF5 then
    .pending ⟨2, if b = 0xF0 then 0x90 else 0x80, if b = 0xF4 then 0x8F else 0xBF, b - 0xF0⟩
  else .malformed

/-- Read on: a character for each well-formed one, `none` for each malformed run. -/
def decodeFrom : Option Pending → List UInt8 → List (Option Char)
  | none, [] => []
  | some _, [] => [none]
  | none, b :: bs => match begin b.toNat with
    | .char c => some c :: decodeFrom none bs
    | .pending p => decodeFrom (some p) bs
    | .malformed => none :: decodeFrom none bs
  | some p, b :: bs =>
    let n := b.toNat
    if p.low ≤ n ∧ n ≤ p.high then
      let value := p.value * 64 + (n - 0x80)
      if p.owed = 0 then some (Char.ofNat value) :: decodeFrom none bs
      else decodeFrom (some ⟨p.owed - 1, 0x80, 0xBF, value⟩) bs
    else
      none :: match begin n with
        | .char c => some c :: decodeFrom none bs
        | .pending q => decodeFrom (some q) bs
        | .malformed => none :: decodeFrom none bs

/-- The characters and malformed runs of a list of bytes. -/
def decode (bs : List UInt8) : List (Option Char) := decodeFrom none bs

/-- The text that the bytes encode, if no part is malformed. -/
def text? (bs : List UInt8) : Option String :=
  ((decode bs).mapM id).map String.ofList

/-- Every malformed run shown as the replacement character. -/
def lossyText (bs : List UInt8) : String :=
  String.ofList ((decode bs).map (·.getD '\uFFFD'))

end CardStore.Text.Utf8
