/-
  CardStore.Number.Shortest
  ─────────────────────────
  **THE FEWEST DIGITS THAT READ BACK.**

  A finite binary64 number owns the interval of reals that round to it.  Its
  shortest decimal has the least number of digits for which some decimal of
  that many digits lies in the interval; of two such decimals the nearer one
  is taken.  A `Layout` then says how digits and exponent are written out.

      digits     1.5e-7  =  ⟨[1, 5], -6⟩        0.d₁d₂… · 10^point
      plain      0.00000015
      compact    1.5e-7

  The search tests, for 1 to 17 digits, the two neighbours of the number on
  the decimal grid with that many digits, in exact integer arithmetic.
-/
import CardStore.Number.Double

namespace CardStore

/-- Decimal digits with the place of the point: `0.d₁d₂… · 10^point`. -/
structure Digits where
  digits : List Nat
  point : Int
  deriving DecidableEq, Repr

/-- Which of two equally near decimals is taken. -/
inductive Tie where
  | even
  | up
  deriving DecidableEq, Repr

namespace Digits

/-! ## §1. The decimal digits of a natural number. -/

/-- Decimal digits, the leading one first; zero has the one digit 0. -/
def ofNat (n : Nat) : List Nat :=
  if n < 10 then [n] else ofNat (n / 10) ++ [n % 10]
termination_by n
decreasing_by omega

/-- The number of decimal digits. -/
def count (n : Nat) : Nat := (ofNat n).length

/-- Digits without the zeros at the end. -/
def trimZeros (ds : List Nat) : List Nat :=
  (ds.reverse.dropWhile (· == 0)).reverse

/-! ## §2. The search on decimal grids. -/

/-- A positive number and the interval of reals that round to it, in one unit. -/
structure Window where
  /-- The number, and the ends of its interval. -/
  value : Nat
  low : Nat
  high : Nat
  /-- The length of the unit is `num / den`. -/
  num : Nat
  den : Nat
  /-- Whether the ends round to the number too. -/
  closed : Bool

/-- The interval of a finite number other than zero, in quarters of its unit in the last place.
Below a power of two the neighbour is twice as near. -/
def window (x : Double) : Window :=
  let m := x.significand
  let narrow : Bool := x.fraction = 0 ∧ 1 < x.exponent
  let (num, den) := Double.scaleRatio 1 1 (x.power - 2)
  ⟨4 * m, 4 * m - (if narrow then 1 else 2), 4 * m + 2, num, den, m % 2 = 0⟩

/-- Whether `c · 10^k` lies in the interval. -/
def Window.holds (w : Window) (c : Nat) (k : Int) : Bool :=
  let (n, d) : Nat × Nat := if 0 ≤ k then (c * 10 ^ k.toNat, 1) else (c, 10 ^ (-k).toNat)
  -- all sides are multiplied by both denominators, so that integers are compared
  let lhs := n * w.den
  let unit := w.num * d
  if w.closed then w.low * unit ≤ lhs && lhs ≤ w.high * unit
  else w.low * unit < lhs && lhs < w.high * unit

/-- The number divided by `10^k`, as a quotient. -/
def Window.over (w : Window) (k : Int) : Nat × Nat :=
  if 0 ≤ k then (w.value * w.num, w.den * 10 ^ k.toNat)
  else (w.value * w.num * 10 ^ (-k).toNat, w.den)

/-- The nearest decimal of the interval on the grid `10^k`, if any lies there. -/
def Window.nearest (w : Window) (tie : Tie) (k : Int) : Option Nat :=
  let (n, d) := w.over k
  let c := n / d
  let r := n % d
  -- the number lies between the two neighbours, and what is farther away is not nearer
  match w.holds c k, w.holds (c + 1) k with
  | true, true =>
    if 2 * r < d then some c
    else if d < 2 * r then some (c + 1)
    else match tie with
      | .even => some (if c % 2 = 0 then c else c + 1)
      | .up => some (c + 1)
  | true, false => some c
  | false, true => some (c + 1)
  | false, false => none

/-- The exponent `e` with `10^e ≤ num/den < 10^(e+1)`, for positive `num` and `den`. -/
def floorLog10 (num den : Nat) : Int :=
  let guess : Int := (count num : Int) - count den
  -- the counts of digits are at most one too far apart
  let (n, d) : Nat × Nat :=
    if 0 ≤ guess then (num, den * 10 ^ guess.toNat) else (num * 10 ^ (-guess).toNat, den)
  if n < d then guess - 1 else guess

/-- Try `n`, `n + 1`, … digits, `fuel` times. -/
def Window.search (w : Window) (tie : Tie) (top : Int) (n fuel : Nat) : Option (Nat × Int) :=
  -- each round has a finer grid
  match fuel with
  | 0 => none
  | fuel + 1 =>
    let k := top - n + 1
    match w.nearest tie k with
    | some c => some (c, k)
    | none => w.search tie top (n + 1) fuel

/-- The shortest digits of a finite number, of either sign; zero has none. -/
def shortest (tie : Tie) (x : Double) : Digits :=
  if x.isZero then ⟨[], 1⟩
  else
    let w := window x
    let (n, d) := w.over 0
    match w.search tie (floorLog10 n d) 1 17 with
    | some (c, k) => ⟨trimZeros (ofNat c), k + count c⟩
    | none => ⟨[], 1⟩

end Digits

/-! ## §3. Writing digits out. -/

/-- How digits and exponent become text. -/
structure Layout where
  /-- Which of two equally near decimals is taken. -/
  tie : Tie
  /-- Places of the point that are written without an exponent, from … to. -/
  positional : Option (Int × Int)
  /-- Whether an integer keeps its point and a zero. -/
  keepPoint : Bool
  /-- The sign of an exponent that is not negative. -/
  plus : String
  deriving DecidableEq, Repr

namespace Layout

def digitChar (d : Nat) : Char := Char.ofNat (48 + d)

def digitsText (ds : List Nat) : String := String.ofList (ds.map digitChar)

def zeros (n : Nat) : List Nat := List.replicate n 0

/-- The digits written without an exponent. -/
def positionalText (layout : Layout) (d : Digits) : String :=
  let n := d.digits.length
  if d.point ≤ 0 then
    "0." ++ digitsText (zeros (-d.point).toNat ++ d.digits)
  else
    let whole := d.point.toNat
    if n ≤ whole then
      digitsText (d.digits ++ zeros (whole - n)) ++ (if layout.keepPoint then ".0" else "")
    else
      digitsText (d.digits.take whole) ++ "." ++ digitsText (d.digits.drop whole)

/-- The digits written with an exponent. -/
def exponentText (layout : Layout) (d : Digits) : String :=
  let e := d.point - 1
  let sign := if e < 0 then "e-" else "e" ++ layout.plus
  let lead := digitsText (d.digits.take 1)
  let rest := d.digits.drop 1
  let mantissa := if rest.isEmpty then lead else lead ++ "." ++ digitsText rest
  mantissa ++ sign ++ digitsText (Digits.ofNat e.natAbs)

/-- The text of a finite number. -/
def text (layout : Layout) (x : Double) : String :=
  let d := Digits.shortest layout.tie x
  let plain : Bool := match layout.positional with
    | none => true
    | some (low, high) => low ≤ d.point && d.point ≤ high
  (if x.negative then "-" else "") ++ (if plain then layout.positionalText d else layout.exponentText d)

end Layout

namespace Double

/-- A number in running text: never an exponent, no point after an integer, a tie rounded up. -/
def plainLayout : Layout := ⟨.up, none, false, ""⟩

/-- A number in JSON: an exponent from 10^16 on and below 10^-5, always a point or an exponent. -/
def jsonLayout : Layout := ⟨.even, some (-4, 16), true, "+"⟩

/-- A number in a diagnostic text: an exponent from 10^16 on and below 10^-4, always a point or
an exponent, a tie rounded up. -/
def diagnosticLayout : Layout := ⟨.up, some (-3, 16), true, ""⟩

/-- The text of any number, the values that are not finite by name. -/
def toTextAs (layout : Layout) (x : Double) : String :=
  if x.isNaN then "NaN"
  else if x.isInfinite then if x.negative then "-inf" else "inf"
  else layout.text x

/-- The plain text of any number. -/
def toText (x : Double) : String := x.toTextAs plainLayout

/-- The JSON text of a finite number. -/
def toJsonText (x : Double) : String := jsonLayout.text x

end Double

end CardStore
