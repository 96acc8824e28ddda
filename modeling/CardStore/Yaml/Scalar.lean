/-
  CardStore.Yaml.Scalar
  ─────────────────────
  **THE TEXT OF SCALARS.**

  A scalar is written plainly, between quotes, or as a block of lines.  Where
  a plain or quoted scalar goes on in another line, one end of a line and the
  blanks around it stand for a blank, and every further end of a line for
  itself.  A block keeps its lines, or folds them in the same way, and keeps or
  drops the ends of lines behind it.
-/
import CardStore.Text.Digits
import CardStore.Yaml.Cursor

namespace CardStore.Yaml

/-! ## §1. Gaps. -/

/-- What stands between two words of a scalar. -/
inductive Gap where
  /-- Blanks within a line. -/
  | blanks (cs : List Char)
  /-- The first end of a line, and those after it. -/
  | breaks (first more : List Char)
  deriving DecidableEq, Repr

/-- The text of a gap: a line feed alone is a blank, and others are kept but for the first one. -/
def Gap.text : Gap → List Char
  | .blanks cs => cs
  | .breaks first more => if first = ['\n'] then if more = [] then [' '] else more else first ++ more

def Gap.isBroken : Gap → Bool
  | .blanks _ => false
  | .breaks _ _ => true

/-- A gap with another blank; blanks around ends of lines do not count. -/
def Gap.addBlank (b : Char) : Gap → Gap
  | .blanks cs => .blanks (cs ++ [b])
  | g => g

/-- A gap with another end of a line. -/
def Gap.addBreak (br : List Char) : Gap → Gap
  | .blanks _ => .breaks br []
  | .breaks first more => .breaks first (more ++ br)

/-- Read the rest of a gap.  In lines that follow, tabs may not stand before a column. -/
def readGap (column : Nat) : Nat → Gap → Cursor → Option (Gap × Cursor)
  | 0, _, _ => none
  | fuel + 1, g, c =>
    match c.rest with
    | [] => some (g, c)
    | d :: _ =>
      if isBlank d then
        if g.isBroken && c.column < column && d == '\t' then none
        else readGap column fuel (g.addBlank d) (c.skip 1)
      else if isBreak d then
        let (br, c) := c.nextLine
        readGap column fuel (g.addBreak br) c
      else some (g, c)

/-! ## §2. Plain scalars. -/

/-- The characters of collections between brackets. -/
def flowMarks : List Char := ",[]{}".toList

/-- The longest run of characters of a plain scalar without blanks, and what follows it; between
brackets a colon may not stand right before a mark. -/
def plainWord (inFlow : Bool) : List Char → Option (List Char)
  | [] => some []
  | c :: cs =>
    if isBlank c || isBreak c then some []
    else if c == ':' && inFlow && cs.head?.any (fun d => d == '?' || flowMarks.contains d) then none
    else if c == ':' && atGap cs then some []
    else if inFlow && flowMarks.contains c then some []
    else (plainWord inFlow cs).map (c :: ·)

/-- Read on in a plain scalar whose text so far is known, from behind a gap. -/
def readPlainFrom (inFlow : Bool) (column : Nat) : Nat → List Char → Gap → Cursor →
    Option (List Char × Gap × Cursor)
  | 0, _, _, _ => none
  | fuel + 1, text, gap, c => do
    if c.atDocumentMark || c.rest.head? == some '#' then return (text, gap, c)
    let word ← plainWord inFlow c.rest
    if word.isEmpty then return (text, gap, c)
    -- the gap counts only now that a word follows it
    let text := text ++ gap.text ++ word
    let c := c.skip word.length
    match c.rest with
    | [] => return (text, .blanks [], c)
    | d :: _ =>
      if !(isBlank d || isBreak d) then return (text, .blanks [], c)
      let (gap, c) ← readGap column (c.rest.length + 1) (.blanks []) c
      -- a line that is indented less belongs to what stands around the scalar
      if !inFlow && c.column < column then return (text, gap, c)
      readPlainFrom inFlow column fuel text gap c

/-- Read a plain scalar: its text, whether an end of a line was read behind it, and the place where
reading goes on. -/
def readPlain (inFlow : Bool) (column : Nat) (c : Cursor) : Option (List Char × Bool × Cursor) :=
  (readPlainFrom inFlow column (c.rest.length + 1) [] (.blanks []) c).map fun (text, gap, c) =>
    (text, gap.isBroken, c)

/-! ## §3. Quoted scalars. -/

/-- The character that a letter behind a backslash stands for. -/
def escape? : Char → Option Char
  | '0' => some '\x00'
  | 'a' => some '\x07'
  | 'b' => some '\x08'
  | 't' => some '\t'
  | '\t' => some '\t'
  | 'n' => some '\n'
  | 'v' => some '\x0b'
  | 'f' => some '\x0c'
  | 'r' => some '\r'
  | 'e' => some '\x1b'
  | ' ' => some ' '
  | '"' => some '"'
  | '/' => some '/'
  | '\\' => some '\\'
  | 'N' => some '\x85'
  | '_' => some '\xa0'
  | 'L' => some '\u2028'
  | 'P' => some '\u2029'
  | _ => none

/-- The number of hexadecimal digits behind a letter behind a backslash. -/
def escapeWidth? : Char → Option Nat
  | 'x' => some 2
  | 'u' => some 4
  | 'U' => some 8
  | _ => none

/-- The character whose number is written with hexadecimal digits. -/
def charOfHex? (cs : List Char) : Option Char := do
  let ds ← cs.mapM Text.hexValue?
  let n := ds.foldl (fun n d => 16 * n + d) 0
  if n.isValidChar then some (Char.ofNat n) else none

/-- What a backslash and the characters behind it stand for, and how many characters that are. -/
def readEscape? : List Char → Option (Char × Nat)
  | [] => none
  | e :: cs => match escape? e, escapeWidth? e with
    | some c, _ => some (c, 2)
    | none, some width =>
      if cs.length < width then none
      else (charOfHex? (cs.take width)).map fun c => (c, width + 2)
    | none, none => none

/-- How a run of characters between quotes ends. -/
inductive Stop where
  /-- At a gap, or at the quote. -/
  | here
  /-- At a backslash before the end of a line. -/
  | escapedBreak
  deriving DecidableEq, Repr

/-- Read a run of characters without blanks between quotes. -/
def readQuotedWord (isDouble : Bool) : Nat → List Char → Cursor →
    Option (List Char × Stop × Cursor)
  | 0, _, _ => none
  | fuel + 1, text, c =>
    match c.rest with
    | [] => some (text, .here, c)
    | d :: cs =>
      if isBlank d || isBreak d then some (text, .here, c)
      else if !isDouble && d == '\'' then
        if cs.head? == some '\'' then readQuotedWord isDouble fuel (text ++ ['\'']) (c.skip 2)
        else some (text, .here, c)
      else if isDouble && d == '"' then some (text, .here, c)
      else if isDouble && d == '\\' then
        -- a backslash takes the end of its line away
        if !cs.isEmpty && atLineEnd cs then some (text, .escapedBreak, (c.skip 1).nextLine.2)
        else match readEscape? cs with
          | some (e, n) => readQuotedWord isDouble fuel (text ++ [e]) (c.skip n)
          | none => none
      else readQuotedWord isDouble fuel (text ++ [d]) (c.skip 1)

/-- Read on between quotes, the text so far being known. -/
def readQuotedFrom (isDouble : Bool) : Nat → List Char → Cursor → Option (List Char × Cursor)
  | 0, _, _ => none
  | fuel + 1, text, c => do
    if c.atDocumentMark || c.rest.isEmpty then none
    let (text, stop, c) ← readQuotedWord isDouble (c.rest.length + 1) text c
    if stop = .here && c.rest.head? == some (if isDouble then '"' else '\'') then
      return (text, c.skip 1)
    -- an end of a line that was taken away leaves nothing, so the gap begins broken
    let start : Gap := if stop = .escapedBreak then .breaks [] [] else .blanks []
    let (gap, c) ← readGap 0 (c.rest.length + 1) start c
    readQuotedFrom isDouble fuel (text ++ gap.text) c

/-- Read a quoted scalar from behind its first quote. -/
def readQuoted (isDouble : Bool) (c : Cursor) : Option (List Char × Cursor) :=
  readQuotedFrom isDouble (c.rest.length + 1) [] c

/-! ## §4. Blocks. -/

/-- What becomes of the ends of lines behind a block. -/
inductive Chomping where
  | strip
  | clip
  | keep
  deriving DecidableEq, Repr

/-- The marks behind the one that opens a block: what becomes of the ends of lines, and by how much
the block is indented, in any order. -/
def readBlockHeader (c : Cursor) : Option (Chomping × Nat × Cursor) := do
  let chomping? (d : Char) : Option Chomping :=
    if d = '+' then some .keep else if d = '-' then some .strip else none
  -- 10 stands for an indentation that is not given
  let (chomping, indent, n) ← match c.rest with
    | d :: e :: _ => match chomping? d, chomping? e with
      | some k, _ => if e.isDigit then some (k, e.toNat - 48, 2) else some (k, 10, 1)
      | none, some k => if d.isDigit then some (k, d.toNat - 48, 2) else some (.clip, 10, 0)
      | none, none => if d.isDigit then some (.clip, d.toNat - 48, 1) else some (.clip, 10, 0)
    | [d] => match chomping? d with
      | some k => some (k, 10, 1)
      | none => if d.isDigit then some (.clip, d.toNat - 48, 1) else some (.clip, 10, 0)
    | [] => some (.clip, 10, 0)
  if indent = 0 then none
  let c := ((c.skip n).skipWhile isBlank).skipComment
  if !atLineEnd c.rest then none
  return (chomping, if indent = 10 then 0 else indent, c.nextLine.2)

/-- Read empty lines of a block and the indentation behind them.  While the indentation is not
known, it is 0, and the deepest one is sought. -/
def readEmptyLines (indent : Nat) : Nat → Nat → List Char → Cursor →
    Option (List Char × Nat × Cursor)
  | 0, _, _, _ => none
  | fuel + 1, deepest, breaks, c =>
    let blanks := (c.rest.takeWhile (· == ' ')).length
    let c := c.skip (if indent = 0 then blanks else min blanks (indent - c.column))
    let deepest := max deepest c.column
    match c.rest with
    | [] => some (breaks, deepest, c)
    | d :: _ =>
      if d == '\t' && (indent == 0 || c.column < indent) then none
      else if isBreak d then
        let (br, c) := c.nextLine
        readEmptyLines indent fuel deepest (breaks ++ br) c
      else some (breaks, deepest, c)

/-- The text of a block so far. -/
structure BlockText where
  text : List Char
  /-- The end of the last line. -/
  lastBreak : List Char
  /-- The ends of empty lines after it. -/
  breaks : List Char
  /-- Whether the last line began with a blank. -/
  isIndented : Bool

/-- The text before a further line, which may begin with a blank. -/
def BlockText.beforeLine (isFolded isIndented : Bool) (b : BlockText) : List Char :=
  if isFolded && b.lastBreak == ['\n'] && !b.isIndented && !isIndented then
    b.text ++ (if b.breaks.isEmpty then [' '] else []) ++ b.breaks
  else b.text ++ b.lastBreak ++ b.breaks

/-- Read the lines of a block. -/
def readBlockLines (isFolded : Bool) (indent : Nat) : Nat → BlockText → Cursor →
    Option (BlockText × Cursor)
  | 0, _, _ => none
  | fuel + 1, b, c =>
    if c.column = indent ∧ c.rest ≠ [] then do
      let isIndented := c.rest.head?.any isBlank
      let before := b.beforeLine isFolded isIndented
      let (line, c) := c.span (!isBreak ·)
      let (lastBreak, c) := c.nextLine
      let (breaks, _, c) ← readEmptyLines indent (c.rest.length + 1) 0 [] c
      readBlockLines isFolded indent fuel ⟨before ++ line, lastBreak, breaks, isIndented⟩ c
    else some (b, c)

/-- Read a block from behind the mark that opens it; `parent` is the column of the collection
around it. -/
def readBlock (isFolded : Bool) (parent : Option Nat) (c : Cursor) :
    Option (List Char × Cursor) := do
  let (chomping, increment, c) ← readBlockHeader c
  let known := if increment = 0 then 0 else parent.getD 0 + increment
  let (breaks, deepest, c) ← readEmptyLines known (c.rest.length + 1) 0 [] c
  -- without a given indentation the first line decides, but it is deeper than what is around it
  let least := match parent with
    | some n => n + 1
    | none => 1
  let indent := if known = 0 then max deepest least else known
  let (b, c) ← readBlockLines isFolded indent (c.rest.length + 1) ⟨[], [], breaks, false⟩ c
  let text := match chomping with
    | .strip => b.text
    | .clip => b.text ++ b.lastBreak
    | .keep => b.text ++ b.lastBreak ++ b.breaks
  return (text, c)

end CardStore.Yaml
