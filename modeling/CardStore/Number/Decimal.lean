/-
  CardStore.Number.Decimal
  ────────────────────────
  **SCALED DECIMALS.**

  A decimal is a sign, a coefficient of at most 96 bits and a scale of at most
  28 places, and denotes `± coefficient / 10^scale`.  The scale is kept, so
  `1.50` and `1.5` are written differently and are numerically equal.

  Main statements:
    * `numEq_comm`, `numEq_self` — numeric equality is symmetric and reflexive.
-/
import CardStore.Number.Numeral
import CardStore.Text.Digits

namespace CardStore

/-- A decimal number with its own number of places. -/
structure Decimal where
  negative : Bool
  coefficient : Fin (2 ^ 96)
  scale : Fin 29
  deriving DecidableEq, Repr

namespace Decimal

/-- The decimal of a sign, a coefficient and a scale within range; zero carries no sign. -/
def ofParts? (negative : Bool) (coefficient scale : Nat) : Option Decimal :=
  if hc : coefficient < 2 ^ 96 then
    if hs : scale < 29 then
      some ⟨negative && coefficient != 0, ⟨coefficient, hc⟩, ⟨scale, hs⟩⟩
    else none
  else none

/-- The coefficient with its sign. -/
def signed (d : Decimal) : Int :=
  if d.negative then -(d.coefficient.val : Int) else d.coefficient.val

def isZero (d : Decimal) : Bool := d.coefficient.val == 0

/-- Numeric equality, the scales aside. -/
def numEq (a b : Decimal) : Bool :=
  a.signed * 10 ^ b.scale.val == b.signed * 10 ^ a.scale.val

theorem numEq_comm (a b : Decimal) : numEq a b = numEq b a := BEq.comm

theorem numEq_self (a : Decimal) : numEq a a = true := by simp [numEq]

/-- The integer part, cut toward zero. -/
def truncate (d : Decimal) : Int :=
  let q : Nat := d.coefficient.val / 10 ^ d.scale.val
  if d.negative then -(q : Int) else q

/-- The integer part, if it is a 64-bit integer. -/
def toInt64? (d : Decimal) : Option Int64 :=
  let n := d.truncate
  if -2 ^ 63 ≤ n ∧ n < 2 ^ 63 then some (Int64.ofInt n) else none

/-- The number as binary64.  Integer part and fraction are rounded apart, and their sum is
rounded again to the decimal's own places. -/
def toDouble (d : Decimal) : Double :=
  let sign (x : Double) : Double := if d.negative then x.neg else x
  if d.scale.val = 0 then sign (.ofNat d.coefficient.val)
  else
    let unit := 10 ^ d.scale.val
    let whole := Double.ofNat (d.coefficient.val / unit)
    let part := (Double.ofNat (d.coefficient.val % unit)).div (.ofNat unit)
    if part.isZero then sign whole
    else
      let places := (Double.ofNat 10).powNat d.scale.val
      sign ((((whole.addMagnitudes part).mul places).round).div places)

/-- The text of a decimal, all its places written. -/
def toText (d : Decimal) : String :=
  let ds := Text.paddedDigits (d.scale.val + 1) d.coefficient.val
  let whole := ds.length - d.scale.val
  let point := if d.scale.val = 0 then "" else "." ++ String.ofList (ds.drop whole)
  (if d.negative then "-" else "") ++ String.ofList (ds.take whole) ++ point

/-- The decimal of a text: a sign, digits, and the places behind a point, all of them kept. -/
def ofText? (s : String) : Option Decimal :=
  let (negative, cs) := spanSign s.toList
  let (whole, rest) := spanDigits cs
  let places := rest.drop 1
  if places.all Char.isDigit then
    ofParts? negative (digitsValue (digitsValue 0 whole) places) places.length
  else none

end Decimal

end CardStore
