/-
  CardStore.Json.Scan
  ───────────────────
  **THE SHAPE OF A JSON TEXT.**

  A text is scanned once into a `Node`, as far as it is well formed.  Where it
  is not, the tree ends in a `Stop`, which says what is wrong there.  Readers
  walk the tree in the order of the text, so a value of the wrong kind in
  front of a stop is found before it.

  A part of a text that nobody asks for is skipped, and skipping is more
  lenient than reading: surrogate escapes need no partner, numbers may be out
  of range, and nesting may be deep.  Hence a stop names two faults, the one
  a reader meets and the one that skipping meets.
-/
import CardStore.Json.Basic
import CardStore.Number.Numeral
import CardStore.Text.Digits
import CardStore.Text.Utf8

namespace CardStore.Json

/-! ## §1. Faults. -/

/-- What can be wrong with a JSON text. -/
inductive Fault where
  | endOfList
  | endOfObject
  | endOfString
  | endOfValue
  | expectedColon
  | expectedListEnd
  | expectedObjectEnd
  | expectedIdent
  | expectedValue
  | badHexDigit
  | unknownEscape
  | invalidNumber
  | outOfRange
  | controlCharacter
  | keyNotString
  | loneSurrogate
  | halfPair
  | trailingComma
  | trailingCharacters
  | tooDeep
  deriving DecidableEq, Repr

/-- The wording of a fault. -/
def Fault.message : Fault → String
  | .endOfList => "EOF while parsing a list"
  | .endOfObject => "EOF while parsing an object"
  | .endOfString => "EOF while parsing a string"
  | .endOfValue => "EOF while parsing a value"
  | .expectedColon => "expected `:`"
  | .expectedListEnd => "expected `,` or `]`"
  | .expectedObjectEnd => "expected `,` or `\x7d`"
  | .expectedIdent => "expected ident"
  | .expectedValue => "expected value"
  | .badHexDigit => "invalid escape"
  | .unknownEscape => "invalid escape"
  | .invalidNumber => "invalid number"
  | .outOfRange => "number out of range"
  | .controlCharacter => "control character (\\u0000-\\u001F) found while parsing a string"
  | .keyNotString => "key must be a string"
  | .loneSurrogate => "lone leading surrogate in hex escape"
  | .halfPair => "unexpected end of hex escape"
  | .trailingComma => "trailing comma"
  | .trailingCharacters => "trailing characters"
  | .tooDeep => "recursion limit exceeded"

/-- The end of what can be scanned: the fault that a reader meets, and the one that skipping
meets. -/
structure Stop where
  reading : Fault
  skipping : Fault
  deriving DecidableEq, Repr

/-- A stop that is the same for a reader and for skipping. -/
def Stop.same (f : Fault) : Stop := ⟨f, f⟩

/-! ## §2. The tree. -/

/-- A JSON text as far as it is well formed.  A list or an object that stops early keeps what
stands in front of its stop. -/
inductive Node where
  | null
  | bool (b : Bool)
  /-- A number; none when it is out of range. -/
  | number (n : Option Number)
  /-- A string; a fault when its surrogate escapes do not pair up. -/
  | string (s : Except Fault String)
  | array (items : List Node) (stop : Option Stop)
  | object (members : List (Except Fault String × Node)) (stop : Option Stop)
  | stop (s : Stop)

mutual

/-- A value that is already in memory. -/
def Node.ofJson : Json → Node
  | .null => .null
  | .bool b => .bool b
  | .number n => .number (some n)
  | .string s => .string (.ok s)
  | .array items => .array (Node.ofItems items) none
  | .object members => .object (Node.ofMembers members) none

def Node.ofItems : List Json → List Node
  | [] => []
  | j :: js => Node.ofJson j :: Node.ofItems js

def Node.ofMembers : List (String × Json) → List (Except Fault String × Node)
  | [] => []
  | (k, v) :: es => (.ok k, Node.ofJson v) :: Node.ofMembers es

end

/-! ## §3. Blanks, words and numbers. -/

/-- The four blanks of JSON. -/
def isBlank (c : Char) : Bool := c = ' ' ∨ c = '\n' ∨ c = '\t' ∨ c = '\r'

/-- The rest of a text behind its leading blanks. -/
def skipBlanks (cs : List Char) : List Char := cs.dropWhile isBlank

/-- Match the rest of a word. -/
def scanWord : List Char → Node → List Char → Node × List Char
  | [], node, cs => (node, cs)
  | _ :: _, _, [] => (.stop (.same .endOfValue), [])
  | w :: ws, node, c :: cs =>
    if c = w then scanWord ws node cs else (.stop (.same .expectedIdent), [])

/-- The fault of a number whose digits are missing in front of the rest of the text. -/
def missingDigits (rest : List Char) : Stop :=
  if rest.isEmpty then ⟨.endOfValue, .invalidNumber⟩ else .same .invalidNumber

/-- The digits after a point, if there is one. -/
def scanPlaces : List Char → Except Stop (Option (List Char) × List Char)
  | '.' :: cs =>
    let (places, rest) := spanDigits cs
    if places.isEmpty then .error (missingDigits rest) else .ok (some places, rest)
  | cs => .ok (none, cs)

/-- The exponent, if there is one. -/
def scanExponent : List Char → Except Stop (Option Int × List Char)
  | [] => .ok (none, [])
  | c :: cs =>
    if c = 'e' ∨ c = 'E' then
      let (negative, cs) := spanSign cs
      let (digits, rest) := spanDigits cs
      if digits.isEmpty then .error (missingDigits rest)
      else
        let e : Int := digitsValue 0 digits
        .ok (some (if negative then -e else e), rest)
    else .ok (none, c :: cs)

/-- The number of an integer literal: an integer where 64 bits hold it, and not for minus zero. -/
def integerOf? (negative : Bool) (digits : List Char) : Option Number :=
  let n : Int := digitsValue 0 digits
  let exact :=
    if negative then if n = 0 then none else Number.ofInt? (-n)
    else Number.ofInt? n
  -- what 64 bits do not hold is a binary number, and so is minus zero
  exact <|> ((Numeral.ofParts negative digits [] 0).toDouble?.bind Number.ofDouble?)

/-- A number, its sign taken off. -/
def scanUnsigned (negative : Bool) (cs : List Char) : Except Stop (Option Number × List Char) :=
  let (whole, rest) := spanDigits cs
  match whole with
  | [] => .error (missingDigits rest)
  -- no digit may follow a leading zero
  | '0' :: _ :: _ => .error (.same .invalidNumber)
  | _ => do
    let (places, rest) ← scanPlaces rest
    let (exponent, rest) ← scanExponent rest
    match places, exponent with
    | none, none => .ok (integerOf? negative whole, rest)
    | _, _ =>
      let numeral := Numeral.ofParts negative whole (places.getD []) (exponent.getD 0)
      .ok (numeral.toDouble?.bind Number.ofDouble?, rest)

/-- A number. -/
def scanNumber (negative : Bool) (cs : List Char) : Node × List Char :=
  match scanUnsigned negative cs with
  | .ok (n, rest) => (.number n, rest)
  | .error s => (.stop s, [])

/-! ## §4. Strings. -/

/-- A part of a string: a character, or a code unit written as an escape. -/
inductive Piece where
  | char (c : Char)
  | unit (n : Nat)
  deriving DecidableEq, Repr

/-- Where in a string the scan stands. -/
inductive StringState where
  | plain
  | escape
  /-- Inside a code unit, with digits to come and the value of those read. -/
  | unit (digits value : Nat)
  deriving DecidableEq, Repr

/-- The character that a one-letter escape stands for. -/
def escapedChar? (c : Char) : Option Char :=
  if c = '"' ∨ c = '\\' ∨ c = '/' then some c
  else if c = 'b' then some (Char.ofNat 8)
  else if c = 't' then some (Char.ofNat 9)
  else if c = 'n' then some (Char.ofNat 10)
  else if c = 'f' then some (Char.ofNat 12)
  else if c = 'r' then some (Char.ofNat 13)
  else none

/-- Whether a text begins with so many hexadecimal digits. -/
def beginsWithHex : Nat → List Char → Bool
  | 0, _ => true
  | _ + 1, [] => false
  | n + 1, c :: cs => (Text.hexValue? c).isSome && beginsWithHex n cs

/-- Whether a text has fewer than so many bytes. -/
def shorterThan : Nat → List Char → Bool
  | n, [] => 0 < n
  | n, c :: cs => if n ≤ Text.Utf8.charSize c then false else shorterThan (n - Text.Utf8.charSize c) cs

/-- The pieces of a string, and either the text behind its closing quote or the fault in it. -/
def scanPieces : StringState → List Char → List Piece × Except Fault (List Char)
  | _, [] => ([], .error .endOfString)
  | .plain, c :: cs =>
    if c = '"' then ([], .ok cs)
    else if c = '\\' then scanPieces .escape cs
    else if c.toNat < 0x20 then ([], .error .controlCharacter)
    else
      let (ps, ending) := scanPieces .plain cs
      (.char c :: ps, ending)
  | .escape, c :: cs =>
    if c = 'u' then
      -- all four digits are looked at first, so that the fault is that of the escape as a whole
      if beginsWithHex 4 cs then scanPieces (.unit 4 0) cs
      else ([], .error (if shorterThan 4 cs then .endOfString else .badHexDigit))
    else match escapedChar? c with
      | some d =>
        let (ps, ending) := scanPieces .plain cs
        (.char d :: ps, ending)
      | none => ([], .error .unknownEscape)
  | .unit digits value, c :: cs =>
    let value := 16 * value + (Text.hexValue? c).getD 0
    if digits ≤ 1 then
      let (ps, ending) := scanPieces .plain cs
      (.unit value :: ps, ending)
    else scanPieces (.unit (digits - 1) value) cs

def isHighSurrogate (n : Nat) : Bool := 0xD800 ≤ n && n ≤ 0xDBFF

def isLowSurrogate (n : Nat) : Bool := 0xDC00 ≤ n && n ≤ 0xDFFF

/-- The fault of a string that ends while the first half of a pair waits for the second. -/
def halfPairFault : Option Fault → Fault
  | some .endOfString => .endOfString
  | some .badHexDigit => .badHexDigit
  | _ => .halfPair

/-- The characters of the pieces, surrogate code units taken in pairs.  `half` is the first
half of a pair, and `ending` the fault, if any, in which the string ends. -/
def joinPieces (ending : Option Fault) : Option Nat → List Piece → Except Fault (List Char)
  | none, [] => match ending with
    | some f => .error f
    | none => .ok []
  | some _, [] => .error (halfPairFault ending)
  | none, .char c :: ps => (joinPieces ending none ps).map (c :: ·)
  | some _, .char _ :: _ => .error .halfPair
  | none, .unit n :: ps =>
    -- the second half of a pair means nothing without the first
    if isLowSurrogate n then .error .loneSurrogate
    else if isHighSurrogate n then joinPieces ending (some n) ps
    else (joinPieces ending none ps).map (Char.ofNat n :: ·)
  | some h, .unit n :: ps =>
    if isLowSurrogate n then
      let c := Char.ofNat (0x10000 + (h - 0xD800) * 0x400 + (n - 0xDC00))
      (joinPieces ending none ps).map (c :: ·)
    else .error .loneSurrogate

/-- A string behind its opening quote: what a reader makes of it and the rest of the text, or
the stop in it. -/
def scanString (cs : List Char) : Except Stop (Except Fault String × List Char) :=
  let (pieces, ending) := scanPieces .plain cs
  match ending with
  | .ok rest => .ok ((joinPieces none none pieces).map String.ofList, rest)
  | .error f =>
    -- a broken pair in front of the end is met first by who reads the string, never by who skips it
    match joinPieces (some f) none pieces with
    | .error g => .error ⟨g, f⟩
    | .ok _ => .error (.same f)

/-! ## §5. Values. -/

/-- Scanning takes one unit of fuel for each value or separator; a text has no more of them
than characters. -/
abbrev Fuel := Nat

mutual

/-- A value at the front of a text, and the rest behind it. -/
def scanValue : Fuel → List Char → Node × List Char
  | 0, _ => (.stop (.same .endOfValue), [])
  | fuel + 1, text => match skipBlanks text with
    | [] => (.stop (.same .endOfValue), [])
    | c :: cs =>
      if c = 'n' then scanWord ['u', 'l', 'l'] .null cs
      else if c = 't' then scanWord ['r', 'u', 'e'] (.bool true) cs
      else if c = 'f' then scanWord ['a', 'l', 's', 'e'] (.bool false) cs
      else if c = '-' then scanNumber true cs
      else if c.isDigit then scanNumber false (c :: cs)
      else if c = '"' then match scanString cs with
        | .ok (s, rest) => (.string s, rest)
        | .error s => (.stop s, [])
      else if c = '[' then
        let (items, stop, rest) := scanItems fuel cs
        (.array items stop, rest)
      else if c = '{' then
        let (members, stop, rest) := scanMembers fuel cs
        (.object members stop, rest)
      else (.stop (.same .expectedValue), [])

/-- The items of a list behind its opening bracket. -/
def scanItems : Fuel → List Char → List Node × Option Stop × List Char
  | 0, _ => ([], some (.same .endOfList), [])
  | fuel + 1, text => match skipBlanks text with
    | [] => ([], some (.same .endOfList), [])
    | c :: cs =>
      if c = ']' then ([], none, cs)
      else
        let (node, rest) := scanValue fuel (c :: cs)
        let (nodes, stop, rest) := scanMoreItems fuel rest
        (node :: nodes, stop, rest)

/-- The items of a list behind its first one. -/
def scanMoreItems : Fuel → List Char → List Node × Option Stop × List Char
  | 0, _ => ([], some (.same .endOfList), [])
  | fuel + 1, text => match skipBlanks text with
    | [] => ([], some (.same .endOfList), [])
    | c :: cs =>
      if c = ']' then ([], none, cs)
      else if c = ',' then match skipBlanks cs with
        | [] => ([], some (.same .endOfValue), [])
        | d :: ds =>
          -- only a reader knows that the bracket ends a list
          if d = ']' then ([], some ⟨.trailingComma, .expectedValue⟩, [])
          else
            let (node, rest) := scanValue fuel (d :: ds)
            let (nodes, stop, rest) := scanMoreItems fuel rest
            (node :: nodes, stop, rest)
      else ([], some (.same .expectedListEnd), [])

/-- The members of an object behind its opening brace. -/
def scanMembers : Fuel → List Char → List (Except Fault String × Node) × Option Stop × List Char
  | 0, _ => ([], some (.same .endOfObject), [])
  | fuel + 1, text => match skipBlanks text with
    | [] => ([], some (.same .endOfObject), [])
    | c :: cs =>
      if c = '}' then ([], none, cs)
      else if c = '"' then scanMember fuel cs
      else ([], some (.same .keyNotString), [])

/-- The members of an object behind its first one. -/
def scanMoreMembers : Fuel → List Char →
    List (Except Fault String × Node) × Option Stop × List Char
  | 0, _ => ([], some (.same .endOfObject), [])
  | fuel + 1, text => match skipBlanks text with
    | [] => ([], some (.same .endOfObject), [])
    | c :: cs =>
      if c = '}' then ([], none, cs)
      else if c = ',' then match skipBlanks cs with
        | [] => ([], some ⟨.endOfValue, .endOfObject⟩, [])
        | d :: ds =>
          if d = '"' then scanMember fuel ds
          else if d = '}' then ([], some ⟨.trailingComma, .keyNotString⟩, [])
          else ([], some (.same .keyNotString), [])
      else ([], some (.same .expectedObjectEnd), [])

/-- A member behind the opening quote of its key, and the members behind it. -/
def scanMember : Fuel → List Char → List (Except Fault String × Node) × Option Stop × List Char
  | 0, _ => ([], some (.same .endOfObject), [])
  | fuel + 1, text => match scanString text with
    | .error s => ([], some s, [])
    | .ok (key, rest) => match skipBlanks rest with
      | [] => ([(key, .stop (.same .endOfObject))], none, [])
      | c :: cs =>
        if c = ':' then
          let (node, rest) := scanValue fuel cs
          let (members, stop, rest) := scanMoreMembers fuel rest
          ((key, node) :: members, stop, rest)
        else ([(key, .stop (.same .expectedColon))], none, [])

end

/-- A whole text: its value, and whether only blanks stand behind it. -/
structure Scanned where
  node : Node
  ended : Bool

/-- Scan a whole text. -/
def scan (s : String) : Scanned :=
  let cs := s.toList
  let (node, rest) := scanValue (2 * cs.length + 2) cs
  ⟨node, (skipBlanks rest).isEmpty⟩

end CardStore.Json
