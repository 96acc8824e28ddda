/-
  CardStore.Yaml.Token
  ────────────────────
  **TOKENS OF A YAML TEXT.**

  Outside of brackets the structure of a text is in its indentation, so the
  scanner keeps the columns of the collections that are open, and writes
  tokens for their beginnings and ends.

  That something is a key shows only at the colon behind it.  Therefore the
  scanner keeps, for every depth of brackets, the place at which a key may
  have begun; at the colon it writes the token of a key there.  A key lies
  within one line and 1024 characters.  What stands at the column of an open
  mapping has to be a key.
-/
import CardStore.Url.Percent
import CardStore.Yaml.Scalar

namespace CardStore.Yaml

/-- A token. -/
inductive Token where
  | streamEnd
  /-- The version of YAML that a text asks for. -/
  | version (major minor : Nat)
  /-- A shorthand for the beginning of tags. -/
  | shorthand (handle start : List Char)
  | documentStart
  | documentEnd
  | sequenceStart
  | mappingStart
  /-- The end of a collection that is indented. -/
  | blockEnd
  | flowSequenceStart
  | flowSequenceEnd
  | flowMappingStart
  | flowMappingEnd
  | entry
  | comma
  | key
  | value
  | alias (name : List Char)
  | anchor (name : List Char)
  | tag (handle suffix : List Char)
  | scalar (isPlain : Bool) (text : List Char)
  deriving DecidableEq, Repr

/-- A place at which a key may have begun. -/
structure Candidate where
  /-- Whether a key has to be there. -/
  required : Bool
  /-- The number of tokens before it. -/
  position : Nat
  index : Nat
  line : Nat
  column : Nat
  deriving DecidableEq, Repr

/-- How far a text has been scanned. -/
structure Scanner where
  cursor : Cursor
  tokens : List Token
  /-- The columns of the open collections, the innermost first. -/
  indents : List Nat
  /-- Whether a key may begin here. -/
  keyAllowed : Bool
  /-- The candidate of each depth of brackets, the innermost first. -/
  candidates : List (Option Candidate)

namespace Scanner

def ofChars (cs : List Char) : Scanner := ⟨.ofChars cs, [], [], true, [none]⟩

/-! ## §1. Indentation. -/

/-- Whether the place is between brackets. -/
def inFlow (s : Scanner) : Bool := 1 < s.candidates.length

/-- The least column of what belongs to the innermost collection. -/
def innerColumn (s : Scanner) : Nat :=
  match s.indents with
  | [] => 0
  | n :: _ => n + 1

def emit (t : Token) (s : Scanner) : Scanner := { s with tokens := s.tokens ++ [t] }

/-- Write a token before those behind a position. -/
def emitAt (position : Nat) (t : Token) (s : Scanner) : Scanner :=
  { s with tokens := s.tokens.take position ++ t :: s.tokens.drop position }

/-- The collections that end before a column, and those that go on. -/
def closed (column : Nat) : List Nat → Nat × List Nat
  | [] => (0, [])
  | n :: ns =>
    if column < n then
      let (count, rest) := closed column ns
      (count + 1, rest)
    else (0, n :: ns)

/-- End the collections that are indented deeper than a column. -/
def unroll (column : Nat) (s : Scanner) : Scanner :=
  if s.inFlow then s
  else
    let (count, indents) := closed column s.indents
    { s with indents, tokens := s.tokens ++ List.replicate count .blockEnd }

/-- End all collections that are indented. -/
def unrollAll (s : Scanner) : Scanner :=
  if s.inFlow then s
  else { s with indents := [], tokens := s.tokens ++ s.indents.map fun _ => .blockEnd }

/-- Begin a collection at a column, if none is open there. -/
def roll (column position : Nat) (t : Token) (s : Scanner) : Scanner :=
  if !s.inFlow && s.innerColumn ≤ column then
    { s.emitAt position t with indents := column :: s.indents }
  else s

/-! ## §2. Keys. -/

/-- Forget the candidate of this depth, unless a key has to be there. -/
def dropKey (s : Scanner) : Option Scanner :=
  match s.candidates with
  | some c :: rest => if c.required then none else some { s with candidates := none :: rest }
  | _ => some s

/-- Note that a key may begin here. -/
def saveKey (s : Scanner) : Option Scanner :=
  if s.keyAllowed then do
    let s ← s.dropKey
    let required := !s.inFlow && s.indents.head? == some s.cursor.column
    let c : Candidate :=
      ⟨required, s.tokens.length, s.cursor.index, s.cursor.line, s.cursor.column⟩
    return { s with candidates := some c :: s.candidates.drop 1 }
  else some s

/-- Forget candidates that are too far back. -/
def dropStale (cursor : Cursor) : List (Option Candidate) → Option (List (Option Candidate))
  | [] => some []
  | none :: rest => (dropStale cursor rest).map (none :: ·)
  | some c :: rest =>
    if c.line < cursor.line || c.index + 1024 < cursor.index then
      if c.required then none else (dropStale cursor rest).map (none :: ·)
    else (dropStale cursor rest).map (some c :: ·)

/-! ## §3. The way to the next token. -/

/-- Go past blanks, comments and ends of lines.  At the beginning of a line outside of brackets, and
where a key may begin, a tab is no blank. -/
def skipToToken : Nat → Scanner → Scanner
  | 0, s => s
  | fuel + 1, s =>
    let tabs := s.inFlow || !s.keyAllowed
    let c := (s.cursor.skipWhile fun d => d == ' ' || (tabs && d == '\t')).skipComment
    if c.rest ≠ [] ∧ atLineEnd c.rest = true then
      skipToToken fuel
        { s with cursor := c.nextLine.2, keyAllowed := s.keyAllowed || !s.inFlow }
    else { s with cursor := c }

/-! ## §4. Tokens of several characters. -/

/-- Characters of a tag. -/
def isTagChar (c : Char) : Bool := isWordChar c || ";/?:@&=+$.%!~*'()".toList.contains c

/-- A tag with its percent-encoded characters read. -/
def tagText? (cs : List Char) : Option (List Char) :=
  (Text.Utf8.text? (Url.decode cs)).map String.toList

/-- The handle of a tag: an exclamation mark, and perhaps a word and another one. -/
def readHandle : Cursor → List Char × Cursor := fun c =>
  let (word, d) := (c.skip 1).span isWordChar
  match d.rest with
  | '!' :: _ => ('!' :: word ++ ['!'], d.skip 1)
  | _ => (['!'], c.skip 1)

/-- Read a tag. -/
def readTag (c : Cursor) : Option (List Char × List Char × Cursor) :=
  match c.rest with
  | '!' :: '<' :: _ => do
    let (cs, c) := (c.skip 2).span fun d => isTagChar d || ",[]".toList.contains d
    if cs.isEmpty || c.rest.head? != some '>' then none
    let suffix ← tagText? cs
    return ([], suffix, c.skip 1)
  | _ => do
    let (handle, c) := readHandle c
    let (cs, c) := c.span isTagChar
    if cs.isEmpty then if handle = ['!'] then return ([], ['!'], c) else none
    let suffix ← tagText? cs
    return (handle, suffix, c)

/-- Read the name of an anchor. -/
def readName (c : Cursor) : Option (List Char × Cursor) :=
  let (name, c) := (c.skip 1).span isWordChar
  if name.isEmpty || !(atGap c.rest || c.rest.head?.any "?:,]\x7d%@\x60".toList.contains) then none
  else some (name, c)

/-- Read a number of a version. -/
def readVersionNumber (c : Cursor) : Option (Nat × Cursor) :=
  let (ds, c) := c.span Char.isDigit
  if ds.isEmpty || 9 < ds.length then none
  else some (ds.foldl (fun n d => 10 * n + (d.toNat - 48)) 0, c)

/-- Read a directive from behind its percent sign. -/
def readDirective (c : Cursor) : Option (Token × Cursor) := do
  let (name, c) := c.span isWordChar
  if !atGap c.rest then none
  let c := c.skipWhile isBlank
  let (t, c) ←
    if name = "YAML".toList then do
      let (major, c) ← readVersionNumber c
      if c.rest.head? != some '.' then none
      let (minor, c) ← readVersionNumber (c.skip 1)
      some (.version major minor, c)
    else if name = "TAG".toList then do
      if c.rest.head? != some '!' then none
      let (handle, c) := readHandle c
      let (blanks, c) := c.span isBlank
      let (cs, c) := c.span isTagChar
      if blanks.isEmpty || cs.isEmpty || !atGap c.rest then none
      let start ← tagText? cs
      some (.shorthand handle start, c)
    else none
  let c := (c.skipWhile isBlank).skipComment
  if atLineEnd c.rest then return (t, c) else none

/-! ## §5. The next token. -/

/-- Write a token of some characters. -/
def advance (n : Nat) (t : Token) (s : Scanner) : Scanner :=
  { s.emit t with cursor := s.cursor.skip n }

/-- A mark between documents. -/
def documentMark (t : Token) (s : Scanner) : Option Scanner := do
  let s ← s.unrollAll.dropKey
  return { s.advance 3 t with keyAllowed := false }

/-- A bracket that opens. -/
def openBracket (t : Token) (s : Scanner) : Option Scanner := do
  let s ← s.saveKey
  let s := s.advance 1 t
  return { s with keyAllowed := true, candidates := none :: s.candidates }

/-- A bracket that closes. -/
def closeBracket (t : Token) (s : Scanner) : Option Scanner := do
  let s ← s.dropKey
  let s := s.advance 1 t
  return { s with
    keyAllowed := false
    candidates := if s.inFlow then s.candidates.drop 1 else s.candidates }

/-- Begin a collection where an item or a key is marked, outside of brackets. -/
def rollHere (t : Token) (s : Scanner) : Option Scanner :=
  if s.inFlow then some s
  else if s.keyAllowed then some (s.roll s.cursor.column s.tokens.length t)
  else none

/-- The mark of an item. -/
def entryMark (s : Scanner) : Option Scanner := do
  let s ← s.rollHere .sequenceStart
  let s ← s.dropKey
  return { s.advance 1 .entry with keyAllowed := true }

/-- The mark of a key. -/
def keyMark (s : Scanner) : Option Scanner := do
  let s ← s.rollHere .mappingStart
  let s ← s.dropKey
  return { s.advance 1 .key with keyAllowed := !s.inFlow }

/-- The colon behind a key. -/
def valueMark (s : Scanner) : Option Scanner :=
  match s.candidates with
  | some c :: rest =>
    -- The key has been read already: its mark goes before it, and the collection before that.
    let s := s.emitAt c.position .key
    let s := s.roll c.column c.position .mappingStart
    some { s.advance 1 .value with keyAllowed := false, candidates := none :: rest }
  | _ => do
    let s ← s.rollHere .mappingStart
    return { s.advance 1 .value with keyAllowed := !s.inFlow }

/-- A token that may be a key or stand before one. -/
def property (read : Cursor → Option (Token × Cursor)) (s : Scanner) : Option Scanner := do
  let s ← s.saveKey
  let (t, cursor) ← read s.cursor
  return { s.emit t with cursor, keyAllowed := false }

/-- A tag, which ends at a gap, or at a comma between brackets. -/
def readTagToken (inFlow : Bool) (c : Cursor) : Option (Token × Cursor) := do
  let (handle, suffix, c) ← readTag c
  if atGap c.rest || (inFlow && c.rest.head? == some ',') then return (.tag handle suffix, c)
  else none

/-- A block of lines. -/
def blockScalar (isFolded : Bool) (s : Scanner) : Option Scanner := do
  let s ← s.dropKey
  let (text, cursor) ← readBlock isFolded s.indents.head? (s.cursor.skip 1)
  return { s.emit (.scalar false text) with cursor, keyAllowed := true }

/-- A plain scalar. -/
def plainScalar (s : Scanner) : Option Scanner := do
  let s ← s.saveKey
  let (text, broken, cursor) ← readPlain s.inFlow s.innerColumn s.cursor
  return { s.emit (.scalar true text) with cursor, keyAllowed := broken }

/-- Whether a plain scalar begins. -/
def startsPlain (inFlow : Bool) : List Char → Bool
  | [] => false
  | c :: cs =>
    if c == '-' then !cs.head?.any isBlank
    else if c == '?' || c == ':' then !inFlow && !atGap cs
    else !(isBlank c || isBreak c || ",[]\x7b\x7d#&*!|>'\"%@\x60".toList.contains c)

/-- The token that begins with a character. -/
def dispatch (s : Scanner) (d : Char) (ds : List Char) : Option Scanner :=
  let flow := s.inFlow
  -- Directives and marks between documents, which end every collection.
  if s.cursor.column = 0 ∧ d = '%' then do
    let s ← s.unrollAll.dropKey
    let (t, cursor) ← readDirective (s.cursor.skip 1)
    return { s.emit t with cursor, keyAllowed := false }
  else if s.cursor.atDocumentMark then
    s.documentMark (if d = '-' then .documentStart else .documentEnd)
  -- Brackets and commas.
  else if d = '[' then s.openBracket .flowSequenceStart
  else if d = '{' then s.openBracket .flowMappingStart
  else if d = ']' then s.closeBracket .flowSequenceEnd
  else if d = '}' then s.closeBracket .flowMappingEnd
  else if d = ',' then do
    let s ← s.dropKey
    return { s.advance 1 .comma with keyAllowed := true }
  -- Marks of items, keys and values, which need a gap behind them outside of brackets.
  else if d = '-' ∧ atGap ds = true then s.entryMark
  else if d = '?' ∧ (flow = true ∨ atGap ds = true) then s.keyMark
  else if d = ':' ∧ (flow = true ∨ atGap ds = true) then s.valueMark
  -- Names, tags and scalars.
  else if d = '*' then s.property fun c => (readName c).map fun (name, c) => (.alias name, c)
  else if d = '&' then s.property fun c => (readName c).map fun (name, c) => (.anchor name, c)
  else if d = '!' then s.property (readTagToken flow)
  else if d = '|' ∧ flow = false then s.blockScalar false
  else if d = '>' ∧ flow = false then s.blockScalar true
  else if d = '\'' ∨ d = '"' then
    s.property fun c =>
      (readQuoted (d == '"') (c.skip 1)).map fun (text, c) => (.scalar false text, c)
  else if startsPlain flow (d :: ds) then s.plainScalar
  else none

/-- The end of the text. -/
def finish (s : Scanner) : Option (List Token) :=
  s.unrollAll.dropKey.map fun s => s.tokens ++ [.streamEnd]

/-- Scan on. -/
def scan : Nat → Scanner → Option (List Token)
  | 0, _ => none
  | fuel + 1, s => do
    let s := s.skipToToken (s.cursor.rest.length + 1)
    let candidates ← dropStale s.cursor s.candidates
    let s := { s with candidates }.unroll s.cursor.column
    match s.cursor.rest with
    | [] => s.finish
    | d :: ds =>
      let s ← s.dispatch d ds
      scan fuel s

end Scanner

/-- The tokens of a text. -/
def tokens (text : String) : Option (List Token) :=
  let cs := match text.toList with
    | '\uFEFF' :: cs => cs
    | cs => cs
  if cs.all isPrintable then Scanner.scan (cs.length + 1) (.ofChars cs) else none

end CardStore.Yaml
