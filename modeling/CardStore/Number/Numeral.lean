/-
  CardStore.Number.Numeral
  ────────────────────────
  **READING NUMBERS FROM TEXT.**

  Three readers.  `Double.ofText?` reads a whole text as a binary64 number and
  rounds its exact value once; `readInt64?` reads a whole text as a 64-bit
  integer; `Numeral.toDouble?` rounds the parts of a JSON numeral in two steps
  (the digits first, then the power of ten), which is not always the nearest
  number.

      Double.ofText?   sign? (digits ('.' digits?)? | '.' digits) (e sign? digits)?
                       sign? (inf | infinity | nan), letters of either case
      readInt64?       sign? digits, within range
-/
import CardStore.Number.Double

namespace CardStore

/-! ## §1. Digits. -/

/-- The value of a decimal digit. -/
def digitValue (c : Char) : Nat := c.toNat - 48

/-- The number that a list of digit characters denotes, after the digits `start`. -/
def digitsValue (start : Nat) (cs : List Char) : Nat :=
  cs.foldl (fun n c => 10 * n + digitValue c) start

/-- The digits at the front, and the rest. -/
def spanDigits (cs : List Char) : List Char × List Char :=
  (cs.takeWhile Char.isDigit, cs.dropWhile Char.isDigit)

theorem spanDigits_append (cs : List Char) : (spanDigits cs).1 ++ (spanDigits cs).2 = cs := by
  simp [spanDigits]

/-- A sign at the front, and the rest. -/
def spanSign : List Char → Bool × List Char
  | '+' :: cs => (false, cs)
  | '-' :: cs => (true, cs)
  | cs => (false, cs)

/-! ## §2. 64-bit integers. -/

/-- A whole text as a 64-bit integer: an optional sign and digits, within range. -/
def readInt64? (s : String) : Option Int64 :=
  let (negative, cs) := spanSign s.toList
  if cs.isEmpty || !cs.all Char.isDigit then none
  else
    let n : Int := if negative then -(digitsValue 0 cs : Int) else digitsValue 0 cs
    if -2 ^ 63 ≤ n ∧ n < 2 ^ 63 then some (Int64.ofInt n) else none

/-! ## §3. Binary64 numbers, rounded once. -/

/-- The number nearest to `±n · 10^e`.  Exponents far out of range are settled without
writing the power out. -/
def Double.ofScientificDigits (negative : Bool) (n : Nat) (e : Int) : Double :=
  if n = 0 then .zero negative
  else
    -- bounds of the decimal exponent, with log10 2 between 0.30102 and 0.30103
    let atLeast : Int := n.log2 * 30102 / 100000 + e
    let below : Int := (n.log2 + 1) * 30103 / 100000 + 1 + e
    if 309 < atLeast then .infinity negative
    else if below < -325 then .zero negative
    else if 0 ≤ e then .ofRatio negative (n * 10 ^ e.toNat) 1
    else .ofRatio negative n (10 ^ (-e).toNat)

/-- The exponent part of a number, which must be the whole of what is left. -/
def readExponent? : List Char → Option Int
  | [] => some 0
  | c :: cs =>
    if c = 'e' ∨ c = 'E' then
      let (negative, ds) := spanSign cs
      if ds.isEmpty || !ds.all Char.isDigit then none
      else some (if negative then -(digitsValue 0 ds : Int) else digitsValue 0 ds)
    else none

/-- An unsigned decimal number with point and exponent. -/
def Double.readUnsigned? (negative : Bool) (cs : List Char) : Option Double :=
  let (whole, rest) := spanDigits cs
  let (places, rest) := match rest with
    | '.' :: r => spanDigits r
    | r => ([], r)
  if whole.isEmpty && places.isEmpty then none
  else
    (readExponent? rest).map fun e =>
      .ofScientificDigits negative (digitsValue (digitsValue 0 whole) places) (e - places.length)

/-- A whole text as a binary64 number, rounded to the nearest. -/
def Double.ofText? (s : String) : Option Double :=
  let (negative, cs) := spanSign s.toList
  let name := String.ofList (cs.map Char.toLower)
  if name = "inf" ∨ name = "infinity" then some (.infinity negative)
  else if name = "nan" then some .nan
  else Double.readUnsigned? negative cs

/-! ## §4. JSON numerals, rounded in two steps. -/

/-- A numeral that is not an integer literal within 64 bits: kept digits and a power of ten. -/
structure Numeral where
  negative : Bool
  /-- The leading digits, as many as fit into 64 bits. -/
  significand : Nat
  /-- The power of ten that the kept digits are scaled by. -/
  scale : Int
  deriving DecidableEq, Repr

namespace Numeral

/-- Keep another digit if the significand still fits into 64 bits. -/
def keep? (significand : Nat) (c : Char) : Option Nat :=
  let next := 10 * significand + digitValue c
  if next < 2 ^ 64 then some next else none

/-- Add the digits before the point; one that does not fit, and all after it, only scale. -/
def keepWhole (significand : Nat) : List Char → Nat × Nat
  | [] => (significand, 0)
  | c :: cs => match keep? significand c with
    | some next => keepWhole next cs
    | none => (significand, cs.length + 1)

/-- Add the digits after the point; one that does not fit, and all after it, are dropped. -/
def keepPlaces (significand : Nat) (places : Nat) : List Char → Nat × Nat
  | [] => (significand, places)
  | c :: cs => match keep? significand c with
    | some next => keepPlaces next (places + 1) cs
    | none => (significand, places)

/-- A numeral from the digits before the point, those after it, and the exponent. -/
def ofParts (negative : Bool) (whole places : List Char) (exponent : Int) : Numeral :=
  let (s, dropped) := keepWhole 0 whole
  let (s, kept) := keepPlaces s 0 places
  ⟨negative, s, dropped - kept + exponent⟩

/-- Powers of ten up to this one are exact enough to scale by in one step. -/
def largestPower : Nat := 308

def powerOfTen (n : Nat) : Double := .ofNat (10 ^ n)

/-- Scale a number that is not negative by a power of ten; `none` when it grows out of range. -/
def scaleBy? (x : Double) (e : Int) : Option Double :=
  if 0 ≤ e then
    if e ≤ largestPower then
      let y := x.mul (powerOfTen e.toNat)
      if y.isFinite then some y else none
    else if x.isZero then some x else none
  else if -(largestPower : Int) ≤ e then some (x.div (powerOfTen (-e).toNat))
  else if x.isZero then some x
  else
    -- the power is divided by in parts, each of which is in range
    let y := x.div (powerOfTen largestPower)
    if -(2 * largestPower : Int) ≤ e then
      some (y.div (powerOfTen (-(e + largestPower)).toNat))
    else some (.zero false)

/-- The number of a numeral; `none` when it is out of range. -/
def toDouble? (n : Numeral) : Option Double :=
  (scaleBy? (.ofNat n.significand) n.scale).map fun x => if n.negative then x.neg else x

end Numeral

end CardStore
