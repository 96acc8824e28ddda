/-
  CardStore.Number.Double
  ───────────────────────
  **BINARY64 NUMBERS AS BITS.**

  A column of type "double" holds a binary64 number.  The number is kept as
  its 64 bits, so that every fact about it is a fact of integer arithmetic:

      bits  =  sign · 2^63  +  exponent · 2^52  +  fraction

  A finite number denotes `significand · 2^power`.  Everything that produces
  a number goes through ONE rounding, `ofRatio`: the binary64 number nearest
  to a quotient of two natural numbers, a tie going to the even significand,
  a quotient too large becoming infinite.

  Main statements:
    * `numEq_comm` — numeric equality is symmetric.
    * `numEq_self` — it is reflexive except on the not-a-number values.
-/
import CardStore.Number.Power

namespace CardStore

/-- A binary64 number, held as its bits. -/
structure Double where
  bits : UInt64
  deriving DecidableEq, Repr, Inhabited

namespace Double

/-! ## §1. The fields of the encoding. -/

/-- Whether the sign bit is set. -/
def negative (x : Double) : Bool := 2 ^ 63 ≤ x.bits.toNat

/-- The eleven exponent bits. -/
def exponent (x : Double) : Nat := x.bits.toNat / 2 ^ 52 % 2 ^ 11

/-- The fifty-two fraction bits. -/
def fraction (x : Double) : Nat := x.bits.toNat % 2 ^ 52

/-- The largest exponent field marks the values that are not finite. -/
def isFinite (x : Double) : Bool := x.exponent != 2047

def isNaN (x : Double) : Bool := x.exponent == 2047 && x.fraction != 0

def isInfinite (x : Double) : Bool := x.exponent == 2047 && x.fraction == 0

/-- Zero of either sign. -/
def isZero (x : Double) : Bool := x.bits.toNat % 2 ^ 63 == 0

/-- The integer significand of a finite number, the leading bit included. -/
def significand (x : Double) : Nat :=
  if x.exponent = 0 then x.fraction else 2 ^ 52 + x.fraction

/-- The power of two that scales the significand of a finite number. -/
def power (x : Double) : Int :=
  if x.exponent = 0 then -1074 else (x.exponent : Int) - 1075

/-! ## §2. Constants. -/

/-- The value with the given sign and magnitude bits. -/
def ofParts (negative : Bool) (magnitude : Nat) : Double :=
  ⟨UInt64.ofNat (magnitude + if negative then 2 ^ 63 else 0)⟩

def zero (negative : Bool) : Double := ofParts negative 0

/-- The magnitude bits of infinity; every finite magnitude is below. -/
def infinityBits : Nat := 2047 * 2 ^ 52

def infinity (negative : Bool) : Double := ofParts negative infinityBits

/-- The quiet not-a-number value. -/
def nan : Double := ofParts false (infinityBits + 2 ^ 51)

/-- The same number with the sign turned. -/
def neg (x : Double) : Double := ofParts (!x.negative) (x.bits.toNat % 2 ^ 63)

/-! ## §3. Rounding a quotient. -/

/-- The quotient rounded to the nearest natural number, a half to the even one. -/
def roundHalfEven (num den : Nat) : Nat :=
  let q := num / den
  let r := num % den
  if den < 2 * r ∨ (2 * r = den ∧ q % 2 = 1) then q + 1 else q

/-- Scale a quotient by a power of two, exactly. -/
def scaleRatio (num den : Nat) (k : Int) : Nat × Nat :=
  if 0 ≤ k then (num * 2 ^ k.toNat, den) else (num, den * 2 ^ (-k).toNat)

/-- The exponent `k` with `2^k ≤ num/den < 2^(k+1)`, for positive `num` and `den`. -/
def floorLog2 (num den : Nat) : Int :=
  let guess : Int := (num.log2 : Int) - den.log2
  let (n, d) := scaleRatio num den (-guess)
  if n < d then guess - 1 else guess

/-- The magnitude bits of the number nearest to `num/den`. -/
def magnitudeOfRatio (num den : Nat) : Nat :=
  if num = 0 then 0
  else
    -- below the normal numbers the last place stays where it is
    let power : Int := max (floorLog2 num den - 52) (-1074)
    let (n, d) := scaleRatio num den (-power)
    -- the leading bit of the significand carries into the exponent, also when rounding reaches it
    min ((power + 1074).toNat * 2 ^ 52 + roundHalfEven n d) infinityBits

/-- The number nearest to `±num/den`, for positive `den`. -/
def ofRatio (negative : Bool) (num den : Nat) : Double :=
  ofParts negative (magnitudeOfRatio num den)

def ofNat (n : Nat) : Double := ofRatio false n 1

def ofInt (n : Int) : Double := ofRatio (n < 0) n.natAbs 1

/-- The magnitude of a finite number as an exact quotient. -/
def toRatio (x : Double) : Nat × Nat := scaleRatio x.significand 1 x.power

/-- The numerator and denominator of a finite number with its sign. -/
def toSignedRatio (x : Double) : Int × Nat :=
  let (n, d) := x.toRatio
  (if x.negative then -(n : Int) else n, d)

/-! ## §4. Arithmetic, each result rounded once. -/

def mul (x y : Double) : Double :=
  let sign := x.negative != y.negative
  if x.isNaN || y.isNaN then nan
  else if !x.isFinite || !y.isFinite then
    if x.isZero || y.isZero then nan else infinity sign
  else ofRatio sign (x.toRatio.1 * y.toRatio.1) (x.toRatio.2 * y.toRatio.2)

def div (x y : Double) : Double :=
  let sign := x.negative != y.negative
  if x.isNaN || y.isNaN then nan
  else if !x.isFinite then if y.isFinite then infinity sign else nan
  else if !y.isFinite then zero sign
  else if y.isZero then if x.isZero then nan else infinity sign
  else ofRatio sign (x.toRatio.1 * y.toRatio.2) (x.toRatio.2 * y.toRatio.1)

/-- The sum of two finite numbers that are not negative. -/
def addMagnitudes (x y : Double) : Double :=
  let (n, d) := x.toRatio
  let (n', d') := y.toRatio
  ofRatio false (n * d' + n' * d) (d * d')

/-- A finite number rounded to an integer, a half away from zero. -/
def round (x : Double) : Double :=
  let (n, d) := x.toRatio
  ofRatio x.negative ((2 * n + d) / (2 * d)) 1

/-- `base ^ n` by squaring, each product rounded. -/
def powNat (base : Double) (n : Nat) : Double :=
  go base n (ofNat 1)
where
  go (square : Double) (n : Nat) (result : Double) : Double :=
    let result := if n % 2 = 1 then result.mul square else result
    if h : n / 2 = 0 then result else go (square.mul square) (n / 2) result
  termination_by n
  decreasing_by omega

/-! ## §5. Conversions to integers. -/

/-- The integer part of a finite number, cut toward zero. -/
def truncate (x : Double) : Int :=
  let (n, d) := x.toRatio
  let q : Nat := n / d
  if x.negative then -(q : Int) else q

/-- The integer part, held within the range of 64-bit integers. -/
def toInt64Clamp (x : Double) : Int64 :=
  Int64.ofInt (min (max x.truncate (-2 ^ 63)) (2 ^ 63 - 1))

/-! ## §6. Numeric equality. -/

/-- Numeric equality: both zeros are equal, and a not-a-number value equals nothing. -/
def numEq (x y : Double) : Bool :=
  !x.isNaN && !y.isNaN && (x.bits == y.bits || (x.isZero && y.isZero))

theorem numEq_comm (x y : Double) : numEq x y = numEq y x := by
  rw [numEq, numEq, BEq.comm (a := x.bits), Bool.and_comm (!x.isNaN), Bool.and_comm x.isZero]

theorem numEq_self (x : Double) : numEq x x = !x.isNaN := by
  cases h : x.isNaN <;> simp [numEq, h]

/-! ## §7. The narrower format that widens exactly. -/

/-- The binary64 number equal to a binary32 number given by its bits. -/
def ofSingleBits (bits : UInt32) : Double :=
  let b : Nat := bits.toNat
  let sign : Bool := 2 ^ 31 ≤ b
  let e : Nat := b / 2 ^ 23 % 2 ^ 8
  let f : Nat := b % 2 ^ 23
  if e = 255 then if f = 0 then infinity sign else nan
  else
    let (n, d) :=
      if e = 0 then scaleRatio f 1 (-149) else scaleRatio (2 ^ 23 + f) 1 ((e : Int) - 150)
    ofRatio sign n d

end Double

end CardStore
