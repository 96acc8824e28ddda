/-
  CardStore.Url.Punycode
  ──────────────────────
  **LABELS BEYOND ASCII.**

  A label of a domain with characters beyond ASCII is written as `xn--`, its
  ASCII characters, and a number that tells for each other character, in the
  order of their codes, how many steps lie between it and the one before.
  The steps are written with digits to the base 36 whose thresholds adapt to
  the sizes that came before.
-/

namespace CardStore.Url.Punycode

/-- A digit to the base 36. -/
def digit (d : Nat) : Char := if d < 26 then Char.ofNat (97 + d) else Char.ofNat (22 + d)

/-- The threshold of the digit at a place. -/
def threshold (place bias : Nat) : Nat := min 26 (max 1 (place - bias))

theorem threshold_pos (place bias : Nat) : 0 < threshold place bias := by
  simp only [threshold]
  omega

/-- A number of steps as digits, starting at a place. -/
def digits (bias place steps : Nat) : List Char :=
  if steps < threshold place bias then [digit steps]
  else
    let beyond := steps - threshold place bias
    let radix := 36 - threshold place bias
    digit (threshold place bias + beyond % radix) :: digits bias (place + 36) (beyond / radix)
termination_by steps
decreasing_by
  have h := threshold_pos place bias
  exact Nat.lt_of_le_of_lt (Nat.div_le_self _ _) (by omega)

/-- Divide large numbers of steps by 35, and count how often. -/
def shrink (steps : Nat) : Nat × Nat :=
  if 455 < steps then
    let (rest, n) := shrink (steps / 35)
    (rest, n + 1)
  else (steps, 0)
termination_by steps
decreasing_by omega

/-- The bias after a number of steps, `done` characters being written. -/
def adapt (steps done : Nat) (isFirst : Bool) : Nat :=
  let steps := if isFirst then steps / 700 else steps / 2
  let (steps, n) := shrink (steps + steps / done)
  36 * n + 36 * steps / (steps + 38)

/-- How far the writing of a label has come. -/
structure Progress where
  written : List Char
  /-- Characters that are written. -/
  done : Nat
  /-- Steps since the last character that was written. -/
  steps : Nat
  bias : Nat

/-- Go past a character of the label while the characters of one code are written. -/
def pass (code basics : Nat) (p : Progress) (c : Char) : Progress :=
  if c.toNat < code then { p with steps := p.steps + 1 }
  else if c.toNat = code then
    { written := p.written ++ digits p.bias 36 p.steps
      done := p.done + 1
      steps := 0
      bias := adapt p.steps (p.done + 1) (p.done == basics) }
  else p

/-- Write the characters of the given codes, which rise; all below `reached` are written. -/
def writeCodes (cs : List Char) (basics : Nat) : Nat → List Nat → Progress → Progress
  | _, [], p => p
  | reached, code :: codes, p =>
    let p := { p with steps := p.steps + (code - reached) * (p.done + 1) }
    let p := cs.foldl (pass code basics) p
    writeCodes cs basics (code + 1) codes { p with steps := p.steps + 1 }

/-- The ASCII characters and the digits of a label. -/
def encode (cs : List Char) : List Char :=
  let basic := cs.filter (·.toNat < 128)
  let codes := (((cs.filter (128 ≤ ·.toNat)).map Char.toNat).mergeSort (· ≤ ·)).eraseDups
  let start := if basic.isEmpty then [] else basic ++ ['-']
  (writeCodes cs basic.length 128 codes ⟨start, basic.length, 0, 72⟩).written

/-- The ASCII form of a label; it has at most 63 characters if it is not ASCII already. -/
def asciiLabel? (cs : List Char) : Option (List Char) :=
  if cs.all (·.toNat < 128) then some cs
  else
    let label := "xn--".toList ++ encode cs
    if label.length ≤ 63 then some label else none

end CardStore.Url.Punycode
