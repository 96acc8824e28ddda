/-
  CardStore.Write.FreshId
  ───────────────────────
  **NEW IDENTIFIERS.**

  A record without an identifier gets a time-based universally unique one:
  32 hexadecimal digits in capitals, made of a 60-bit time stamp, the version
  digit 1, a 14-bit sequence number behind the variant bits 10, and a 48-bit
  node.  A node that is not a network address has the lowest bit of its first
  byte set.
-/
import CardStore.Text.Digits

namespace CardStore

/-- What the next identifier is made of. -/
structure IdGenerator where
  /-- The time stamp of the next identifier. -/
  stamp : Nat
  sequence : Nat
  node : Nat
  deriving DecidableEq, Repr, Inhabited

namespace IdGenerator

/-- The node of a seed: 48 bits, with the lowest bit of the first byte set. -/
def nodeOf (seed : Nat) : Nat :=
  let n := seed % 2 ^ 48
  if n / 2 ^ 40 % 2 = 1 then n else n + 2 ^ 40

/-- Begin with a time stamp, a sequence number and the seed of a node. -/
def start (stamp sequence seed : Nat) : IdGenerator := ⟨stamp, sequence, nodeOf seed⟩

/-- Hexadecimal digits in capitals. -/
def capitalDigits (width n : Nat) : List Char := (Text.hexDigits width n).map Char.toUpper

/-- The text of an identifier. -/
def text (g : IdGenerator) : String :=
  String.ofList (capitalDigits 8 (g.stamp % 2 ^ 32) ++ capitalDigits 4 (g.stamp / 2 ^ 32 % 2 ^ 16)
    ++ capitalDigits 4 (0x1000 + g.stamp / 2 ^ 48 % 2 ^ 12)
    ++ capitalDigits 4 (0x8000 + g.sequence % 2 ^ 14) ++ capitalDigits 12 g.node)

/-- The next identifier. -/
def next (g : IdGenerator) : String × IdGenerator := (g.text, { g with stamp := g.stamp + 1 })

/-- So many identifiers, one after another. -/
def take : Nat → IdGenerator → List String × IdGenerator
  | 0, g => ([], g)
  | n + 1, g =>
    let (id, g) := g.next
    let (ids, g) := take n g
    (id :: ids, g)

theorem length_text (g : IdGenerator) : g.text.length = 32 := by
  simp [text, capitalDigits, Text.hexDigits]

end IdGenerator

end CardStore
