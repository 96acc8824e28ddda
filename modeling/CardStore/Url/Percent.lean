/-
  CardStore.Url.Percent
  ─────────────────────
  **PERCENT-ENCODING.**

  A character that may not stand in a part of a URL is written as its UTF-8
  bytes, each one a percent sign and two capital hexadecimal digits.  Which
  characters these are depends on the part; characters beyond ASCII and
  controls may stand in none.  Percent signs in the text stay as they are, so
  text that is encoded already is not encoded twice.

  Main statement:
    * `encode_eq_self` — text without such characters stays as it is.
-/
import CardStore.Text.Digits
import CardStore.Text.Utf8

namespace CardStore.Url

/-! ## §1. The sets of characters. -/

/-- Controls and everything beyond ASCII. -/
def isControl (c : Char) : Bool := c.toNat < 0x20 || 0x7E < c.toNat

def inQuery (c : Char) : Bool := isControl c || " \"#<>".toList.contains c

/-- In the query of a special scheme. -/
def inSpecialQuery (c : Char) : Bool := inQuery c || c == '\''

def inFragment (c : Char) : Bool := isControl c || " \"<>\x60".toList.contains c

def inPath (c : Char) : Bool := inFragment c || "#?\x7b\x7d".toList.contains c

/-- In a user name or password. -/
def inUserInfo (c : Char) : Bool := inPath c || "/:;=@[\\]^|".toList.contains c

/-! ## §2. Writing. -/

/-- A capital hexadecimal digit. -/
def hexDigit (d : Nat) : Char := if d < 10 then Text.digitChar d else Char.ofNat (55 + d)

/-- A byte as a percent sign and two digits. -/
def encodeByte (b : UInt8) : List Char := ['%', hexDigit (b.toNat / 16), hexDigit (b.toNat % 16)]

/-- Encode the characters of a set. -/
def encode (isEncoded : Char → Bool) (cs : List Char) : List Char :=
  cs.flatMap fun c => if isEncoded c then (Text.Utf8.encodeChar c).flatMap encodeByte else [c]

theorem encode_append (isEncoded : Char → Bool) (cs ds : List Char) :
    encode isEncoded (cs ++ ds) = encode isEncoded cs ++ encode isEncoded ds :=
  List.flatMap_append

theorem encode_eq_self (isEncoded : Char → Bool) (cs : List Char)
    (h : ∀ c ∈ cs, isEncoded c = false) : encode isEncoded cs = cs := by
  induction cs with
  | nil => rfl
  | cons c cs ih =>
    have hc := h c (by simp)
    have hcs := ih fun d hd => h d (by simp [hd])
    rw [encode] at hcs ⊢
    rw [List.flatMap_cons, hcs]
    simp [hc]

/-! ## §3. Reading. -/

/-- The bytes of a text: a percent sign with two digits behind it is one byte. -/
def decode : List Char → List UInt8
  | [] => []
  | '%' :: a :: b :: cs =>
    match Text.hexValue? a, Text.hexValue? b with
    | some x, some y => Text.Utf8.byte (16 * x + y) :: decode cs
    | _, _ => Text.Utf8.byte 37 :: decode (a :: b :: cs)
  | c :: cs => Text.Utf8.encodeChar c ++ decode cs

/-- The text that is encoded, malformed bytes shown as replacement characters. -/
def decodedText (cs : List Char) : String := Text.Utf8.lossyText (decode cs)

end CardStore.Url
