/-
  CardStore.Text.Digits
  ─────────────────────
  **INTEGERS AS DIGITS.**

  Decimal text of natural numbers and integers, with or without a fixed width,
  and words and bytes as hexadecimal digits, the leading digit first, whose
  readers take digits of either case.

  Main statements:
    * `le_length_paddedDigits` — padded digits have at least the asked width.
    * `Hex.bytes?_byteChars` — bytes are read back from their digits.
-/
import CardStore.Number.Power

namespace CardStore.Text

/-- The character of a decimal digit. -/
def digitChar (d : Nat) : Char := Char.ofNat (48 + d)

/-- Decimal digits as characters, the leading one first. -/
def digitChars (n : Nat) : List Char :=
  if n < 10 then [digitChar n] else digitChars (n / 10) ++ [digitChar (n % 10)]
termination_by n
decreasing_by omega

/-- The decimal text of a natural number. -/
def ofNat (n : Nat) : String := String.ofList (digitChars n)

/-- The decimal text of an integer. -/
def ofInt (n : Int) : String := if n < 0 then "-" ++ ofNat n.natAbs else ofNat n.natAbs

/-- Digits with zeros in front up to a width. -/
def paddedDigits (width n : Nat) : List Char :=
  let ds := digitChars n
  List.replicate (width - ds.length) '0' ++ ds

theorem le_length_paddedDigits (width n : Nat) : width ≤ (paddedDigits width n).length := by
  simp only [paddedDigits, List.length_append, List.length_replicate]
  omega

/-- The decimal text of a natural number with zeros in front up to a width. -/
def padded (width n : Nat) : String := String.ofList (paddedDigits width n)

/-- A lower-case hexadecimal digit. -/
def hexChar (d : Nat) : Char := if d < 10 then digitChar d else Char.ofNat (87 + d)

/-- The value of a hexadecimal digit of either case. -/
def hexValue? (c : Char) : Option Nat :=
  if '0' ≤ c ∧ c ≤ '9' then some (c.toNat - 48)
  else if 'a' ≤ c ∧ c ≤ 'f' then some (c.toNat - 87)
  else if 'A' ≤ c ∧ c ≤ 'F' then some (c.toNat - 55)
  else none

/-- The lowest `width` hexadecimal digits of a number, lower case. -/
def hexDigits (width n : Nat) : List Char :=
  (List.range width).reverse.map fun i => hexChar (n / 16 ^ i % 16)

namespace Hex

/-- The number that hexadecimal digits denote. -/
def number? (cs : List Char) : Option Nat :=
  cs.foldlM (fun n c => (hexValue? c).map fun d => 16 * n + d) 0

/-- A word as so many digits. -/
def wordText (width n : Nat) : String := String.ofList (hexDigits width n)

/-- Two digits for each byte. -/
def byteChars : List UInt8 → List Char
  | [] => []
  | b :: bs => hexChar (b.toNat / 16) :: hexChar (b.toNat % 16) :: byteChars bs

/-- The digits of bytes as a text. -/
def bytesText (bs : List UInt8) : String := String.ofList (byteChars bs)

/-- The bytes of pairs of digits. -/
def bytes? : List Char → Option (List UInt8)
  | [] => some []
  | [_] => none
  | a :: b :: cs => do
    let high ← hexValue? a
    let low ← hexValue? b
    let bs ← bytes? cs
    return .ofNat (16 * high + low) :: bs

theorem hexValue?_hexChar (d : Nat) (h : d < 16) : hexValue? (hexChar d) = some d := by
  rcases d with _ | _ | _ | _ | _ | _ | _ | _ | _ | _ | _ | _ | _ | _ | _ | _ | d
  all_goals first | rfl | omega

/-- Bytes are read back from their digits. -/
theorem bytes?_byteChars (bs : List UInt8) : bytes? (byteChars bs) = some bs := by
  induction bs with
  | nil => rfl
  | cons b bs ih =>
    have hb : b.toNat < 256 := b.toNat_lt
    have whole : UInt8.ofNat (16 * (b.toNat / 16) + b.toNat % 16) = b := by
      rw [Nat.div_add_mod, UInt8.ofNat_toNat]
    simp only [byteChars, bytes?, hexValue?_hexChar (b.toNat / 16) (by omega),
      hexValue?_hexChar (b.toNat % 16) (by omega), ih, whole, Option.bind_eq_bind, Option.bind_some,
      Option.pure_def]

end Hex

end CardStore.Text
