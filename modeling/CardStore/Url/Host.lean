/-
  CardStore.Url.Host
  ──────────────────
  **HOSTS.**

  The host of a URL is an address of IPv6 between brackets, or a name.  In a
  special scheme a name is a domain: small letters, labels beyond ASCII in
  their ASCII form, and if its last label is a number, the whole of it has to
  be an address of IPv4.  In other schemes a name is any text without
  delimiters.
-/
import CardStore.Number.Power
import CardStore.Text.Join
import CardStore.Url.Percent
import CardStore.Url.Punycode

namespace CardStore.Url

/-- Why a text is not a URL. -/
inductive Fault where
  | emptyHost
  | domainName
  | domainCharacter
  | port
  | ipv4
  | ipv6
  | relative
  deriving DecidableEq, Repr

/-- The wording of a fault. -/
def Fault.message : Fault → String
  | .emptyHost => "empty host"
  | .domainName => "invalid international domain name"
  | .domainCharacter => "invalid domain character"
  | .port => "invalid port number"
  | .ipv4 => "invalid IPv4 address"
  | .ipv6 => "invalid IPv6 address"
  | .relative => "relative URL without a base"

/-- A host. -/
inductive Host where
  /-- A domain, or any name of a scheme that is not special. -/
  | name (cs : List Char)
  | ipv4 (address : Nat)
  /-- Eight pieces of 16 bits. -/
  | ipv6 (pieces : List Nat)
  deriving DecidableEq, Repr

/-! ## §1. Addresses of IPv4. -/

/-- The value of digits in a base. -/
def digitsValue? (base : Nat) (cs : List Char) : Option Nat :=
  cs.foldlM (fun n c =>
    (Text.hexValue? c).bind fun d => if d < base then some (base * n + d) else none) 0

/-- A number of an address: hexadecimal after `0x`, octal after `0`. -/
def addressNumber? : List Char → Option Nat
  | [] => none
  | ['0'] => some 0
  | '0' :: x :: cs =>
    if x = 'x' ∨ x = 'X' then digitsValue? 16 cs else digitsValue? 8 (x :: cs)
  | cs => digitsValue? 10 cs

/-- The labels of a domain, an empty last one left out. -/
def labels (cs : List Char) : List (List Char) :=
  let parts := Text.splitFrom '.' [] cs
  if parts.length > 1 ∧ parts.getLast? = some [] then parts.dropLast else parts

/-- Whether the last label of a domain is a number. -/
def endsInNumber (cs : List Char) : Bool :=
  match (labels cs).getLast? with
  | none => false
  | some [] => false
  | some label => label.all Char.isDigit || (addressNumber? label).isSome

/-- The address that numbers stand for: the last one fills what the others leave. -/
def ipv4Of? (ns : List Nat) : Option Nat :=
  match ns.reverse with
  | [] => none
  | last :: others =>
    -- four numbers leave one byte to the last one, a single number has all four
    let free := 5 - ns.length
    if 4 < ns.length ∨ others.any (255 < ·) ∨ 256 ^ free ≤ last then none
    else some (others.reverse.foldl (fun n d => 256 * n + d) 0 * 256 ^ free + last)

def readIpv4 (cs : List Char) : Except Fault Host :=
  match ((labels cs).mapM addressNumber?).bind ipv4Of? with
  | some address => .ok (.ipv4 address)
  | none => .error .ipv4

/-! ## §2. Addresses of IPv6. -/

/-- One to four hexadecimal digits. -/
def pieceOf? (cs : List Char) : Option Nat :=
  if cs.isEmpty ∨ 4 < cs.length then none else digitsValue? 16 cs

/-- A decimal number of at most 255 without a leading zero. -/
def octetOf? (cs : List Char) : Option Nat :=
  if cs.isEmpty ∨ 3 < cs.length ∨ (1 < cs.length ∧ cs.head? = some '0') then none
  else (digitsValue? 10 cs).bind fun n => if n ≤ 255 then some n else none

/-- The two pieces that the end of an address in the form of IPv4 stands for. -/
def tailPieces? (cs : List Char) : Option (List Nat) :=
  match (Text.splitFrom '.' [] cs).map octetOf? with
  | [some a, some b, some c, some d] => some [256 * a + b, 256 * c + d]
  | _ => none

/-- The pieces between colons; the last part may have the form of IPv4. -/
def piecesOf? : List (List Char) → Option (List Nat)
  | [] => some []
  | [part] => if part.contains '.' then tailPieces? part else (pieceOf? part).map ([·])
  | part :: parts => do
    let n ← pieceOf? part
    let ns ← piecesOf? parts
    return n :: ns

/-- The characters before and after the first two colons in a row. -/
def cutAtDoubleColon? : List Char → Option (List Char × List Char)
  | ':' :: ':' :: cs => some ([], cs)
  | c :: cs => (cutAtDoubleColon? cs).map fun (before, after) => (c :: before, after)
  | [] => none

/-- The pieces of one side of an address. -/
def sidePieces? (cs : List Char) : Option (List Nat) :=
  if cs.isEmpty then some [] else piecesOf? (Text.splitFrom ':' [] cs)

/-- The pieces of an address; two colons stand for as many zeros as are missing. -/
def ipv6Of? (cs : List Char) : Option (List Nat) :=
  match cutAtDoubleColon? cs with
  | none => (sidePieces? cs).bind fun ns => if ns.length = 8 then some ns else none
  | some (before, after) => do
    -- the form of IPv4 ends an address, so it cannot stand in front of others
    let front ← if before.contains '.' then none else sidePieces? before
    let back ← sidePieces? after
    let n := front.length + back.length
    if n < 8 then some (front ++ List.replicate (8 - n) 0 ++ back) else none

def readIpv6 (cs : List Char) : Except Fault Host :=
  match ipv6Of? cs with
  | some pieces => .ok (.ipv6 pieces)
  | none => .error .ipv6

/-- The address between brackets. -/
def readBracketed (cs : List Char) : Except Fault Host :=
  if cs.getLast? = some ']' then readIpv6 cs.dropLast else .error .ipv6

/-! ## §3. Names. -/

/-- Characters that no name holds. -/
def delimiters : List Char := "\x00\t\n\r #/:<>?@[\\]^|".toList

/-- The host of a scheme that is not special. -/
def readOpaqueHost : List Char → Except Fault Host
  | '[' :: cs => readBracketed cs
  | cs =>
    if cs.any delimiters.contains then .error .domainCharacter
    else .ok (.name (encode isControl cs))

/-- The full stops that separate labels. -/
def isFullStop (c : Char) : Bool :=
  c == '.' || c == '\u3002' || c == '\uFF0E' || c == '\uFF61'

/-- A domain in its ASCII form. -/
def asciiDomain? (cs : List Char) : Option (List Char) :=
  let cs := cs.map fun c => if isFullStop c then '.' else c.toLower
  (((Text.splitFrom '.' [] cs).mapM Punycode.asciiLabel?).map (Text.joinedBy '.')).bind fun cs =>
    -- what decoding brought in is not decoded again, and must not end the name
    if cs.any fun c => c == '%' || c.toNat < 0x20 || c.toNat == 0x7F || delimiters.contains c then
      none
    else some cs

/-- The host of a special scheme. -/
def readDomain (cs : List Char) : Except Fault Host :=
  match (Text.Utf8.text? (decode cs)).bind fun s => asciiDomain? s.toList with
  | none => .error .domainName
  | some [] => .error .emptyHost
  | some cs => if endsInNumber cs then readIpv4 cs else .ok (.name cs)

def readSpecialHost : List Char → Except Fault Host
  | '[' :: cs => readBracketed cs
  | cs => readDomain cs

/-! ## §4. Text. -/

/-- The text of an address of IPv4. -/
def ipv4Text (address : Nat) : List Char :=
  Text.joinedBy '.'
    ([address / 256 ^ 3 % 256, address / 256 ^ 2 % 256, address / 256 % 256, address % 256].map
      Text.digitChars)

/-- The least hexadecimal digits of a number below 65536. -/
def shortHex (n : Nat) : List Char :=
  match (Text.hexDigits 4 n).dropWhile (· == '0') with
  | [] => ['0']
  | cs => cs

/-- The number of zeros at the front. -/
def leadingZeros (ns : List Nat) : Nat := (ns.takeWhile (· == 0)).length

/-- Where the longest run of zeros begins, and its length, from a position on; the first one of
several. -/
def longestZeros (i : Nat) : List Nat → Nat × Nat
  | [] => (i, 0)
  | n :: ns =>
    let here := leadingZeros (n :: ns)
    let later := longestZeros (i + 1) ns
    -- of several runs of one length the first one is taken
    if later.2 ≤ here then (i, here) else later

/-- Pieces between colons. -/
def hexPieces (ns : List Nat) : List Char := Text.joinedBy ':' (ns.map shortHex)

/-- The text of an address of IPv6; two zeros or more in a row are left out once. -/
def ipv6Text (ns : List Nat) : List Char :=
  let (i, n) := longestZeros 0 ns
  if n < 2 then hexPieces ns
  else hexPieces (ns.take i) ++ [':', ':'] ++ hexPieces (ns.drop (i + n))

/-- The text of a host. -/
def Host.text : Host → List Char
  | .name cs => cs
  | .ipv4 address => ipv4Text address
  | .ipv6 pieces => '[' :: ipv6Text pieces ++ [']']

end CardStore.Url
