/-
  CardStore.Yaml.Node
  ───────────────────
  **YAML DOCUMENTS.**

  A document is a tree of scalars, sequences and mappings.  A node may be
  named by an anchor, and an alias stands for the node that had its name
  last; the node is looked up when the alias is read, so an alias may also lie
  inside the node it stands for.
-/
import CardStore.Yaml.Token

namespace CardStore.Yaml

/-- A node of a document. -/
inductive Node where
  | scalar (tag : Option (List Char)) (isPlain : Bool) (text : String)
  | sequence (tag : Option (List Char)) (items : List Node)
  | mapping (tag : Option (List Char)) (members : List (Node × Node))
  /-- The node of a number. -/
  | alias (number : Nat)

namespace Node

/-- What stands where nothing is written. -/
def empty : Node := .scalar none true ""

instance : Inhabited Node := ⟨empty⟩

end Node

/-- A document. -/
structure Document where
  /-- The root; none for a text without content. -/
  root : Option Node
  /-- The nodes that aliases stand for, by number. -/
  named : List (Nat × Node)

/-! ## §1. Reading nodes. -/

/-- How far tokens have been read. -/
structure Parser where
  rest : List Token
  /-- What the handles of tags stand for. -/
  handles : List (List Char × List Char)
  /-- The number of each anchor, and how many there have been. -/
  anchors : List (List Char × Nat)
  count : Nat
  named : List (Nat × Node)

/-- A step of reading. -/
abbrev Parse := StateT Parser Option

namespace Parse

def fail {α : Type} : Parse α := fun _ => none

/-- The next token. -/
def peek : Parse Token := fun p => some (p.rest.headD .streamEnd, p)

/-- Go past the next token. -/
def skip : Parse Unit := fun p => some ((), { p with rest := p.rest.drop 1 })

/-- Go past the next token if it is a given one, and tell whether it was. -/
def accept (t : Token) : Parse Bool := do
  if (← peek) = t then
    skip
    return true
  else return false

/-- The tag that a handle and a suffix stand for. -/
def resolveTag (handle suffix : List Char) : Parse (List Char) := fun p =>
  if handle.isEmpty then some (suffix, p)
  else match p.handles.find? (·.1 == handle) with
    | some (_, start) => some (start ++ suffix, p)
    | none => none

/-- Give the next number to a name. -/
def nameNext (name : List Char) : Parse Nat := fun p =>
  some (p.count, { p with anchors := (name, p.count) :: p.anchors, count := p.count + 1 })

/-- The number of a name. -/
def numberOf (name : List Char) : Parse Nat := fun p =>
  (p.anchors.find? (·.1 == name)).map fun (_, n) => (n, p)

/-- Keep a node under a number. -/
def keep (number : Option Nat) (n : Node) : Parse Node := fun p =>
  match number with
  | none => some (n, p)
  | some i => some (n, { p with named := (i, n) :: p.named })

/-- The anchor and the tag before a node. -/
structure Properties where
  number : Option Nat
  tag : Option (List Char)

/-- An anchor and a tag, in any order, each at most once. -/
def properties : Parse Properties := do
  match ← peek with
  | .anchor name =>
    skip
    let number ← nameNext name
    match ← peek with
    | .tag handle suffix =>
      skip
      return ⟨some number, some (← resolveTag handle suffix)⟩
    | _ => return ⟨some number, none⟩
  | .tag handle suffix =>
    skip
    let tag ← resolveTag handle suffix
    match ← peek with
    | .anchor name =>
      skip
      return ⟨some (← nameNext name), some tag⟩
    | _ => return ⟨none, some tag⟩
  | _ => return ⟨none, none⟩

/-- Where a node stands. -/
inductive Place where
  /-- Outside of brackets, where a sequence has to be indented. -/
  | block
  /-- Outside of brackets, where a sequence need not be indented. -/
  | member
  /-- Between brackets. -/
  | flow
  deriving DecidableEq, Repr

/-- Whether a value is missing before a token, which depends on the place. -/
def endsItem : Token → Bool
  | .entry | .blockEnd => true
  | _ => false

def endsMember : Token → Bool
  | .key | .value | .blockEnd => true
  | _ => false

mutual

/-- Read a node. -/
def node (fuel : Nat) (place : Place) : Parse Node :=
  match fuel with
  | 0 => fail
  | fuel + 1 => do
    match ← peek with
    | .alias name =>
      skip
      return .alias (← numberOf name)
    | _ => pure ()
    -- an alias takes neither anchor nor tag
    let p ← properties
    let t ← peek
    match t with
    | .entry =>
      -- an entry without a start is a sequence at the indentation of its mapping
      if place = .member then
        keep p.number (.sequence p.tag (← looseItems fuel))
      else orEmpty p
    | .scalar isPlain text =>
      skip
      keep p.number (.scalar p.tag isPlain (String.ofList text))
    | .flowSequenceStart =>
      skip
      keep p.number (.sequence p.tag (← flowItems fuel true))
    | .flowMappingStart =>
      skip
      keep p.number (.mapping p.tag (← flowMembers fuel true))
    | .sequenceStart =>
      if place = .flow then orEmpty p
      else
        skip
        keep p.number (.sequence p.tag (← items fuel))
    | .mappingStart =>
      if place = .flow then orEmpty p
      else
        skip
        keep p.number (.mapping p.tag (← members fuel))
    | _ => orEmpty p

/-- A node of which there is only an anchor or a tag. -/
def orEmpty (p : Properties) : Parse Node :=
  if p.number.isSome || p.tag.isSome then keep p.number (.scalar p.tag true "") else fail

/-- A node, or an empty one before a token that ends it. -/
def nodeUnless (fuel : Nat) (place : Place) (ends : Token → Bool) : Parse Node :=
  match fuel with
  | 0 => fail
  | fuel + 1 => do
    if ends (← peek) then return .empty
    node fuel place

/-- The items of a sequence that is indented. -/
def items (fuel : Nat) : Parse (List Node) :=
  match fuel with
  | 0 => fail
  | fuel + 1 => do
    if ← accept .entry then
      let n ← nodeUnless fuel .block endsItem
      return n :: (← items fuel)
    else if ← accept .blockEnd then return []
    else fail

/-- The items of a sequence that is not indented. -/
def looseItems (fuel : Nat) : Parse (List Node) :=
  match fuel with
  | 0 => fail
  | fuel + 1 => do
    if ← accept .entry then
      let n ← nodeUnless fuel .block fun t => endsItem t || endsMember t
      return n :: (← looseItems fuel)
    else return []

/-- The members of a mapping that is indented. -/
def members (fuel : Nat) : Parse (List (Node × Node)) :=
  match fuel with
  | 0 => fail
  | fuel + 1 => do
    if ← accept .key then
      let k ← nodeUnless fuel .member endsMember
      let v ← if ← accept .value then nodeUnless fuel .member endsMember else pure .empty
      return (k, v) :: (← members fuel)
    else if ← accept .blockEnd then return []
    else fail

/-- The items between brackets; `isFirst` says that none stands before. -/
def flowItems (fuel : Nat) (isFirst : Bool) : Parse (List Node) :=
  match fuel with
  | 0 => fail
  | fuel + 1 => do
    if ← accept .flowSequenceEnd then return []
    if !isFirst then
      if !(← accept .comma) then fail
    -- a comma may stand before the closing bracket
    if ← accept .flowSequenceEnd then return []
    let n ←
      -- a key among the items is a mapping of one member
      if ← accept .key then do
        let ends (t : Token) : Bool := t = .comma || t = .flowSequenceEnd
        let k ← nodeUnless fuel .flow fun t => t = .value || ends t
        let v ← if ← accept .value then nodeUnless fuel .flow ends else pure .empty
        pure (.mapping none [(k, v)])
      else node fuel .flow
    return n :: (← flowItems fuel false)

/-- The members between braces; `isFirst` says that none stands before. -/
def flowMembers (fuel : Nat) (isFirst : Bool) : Parse (List (Node × Node)) :=
  match fuel with
  | 0 => fail
  | fuel + 1 => do
    if ← accept .flowMappingEnd then return []
    if !isFirst then
      if !(← accept .comma) then fail
    if ← accept .flowMappingEnd then return []
    let ends (t : Token) : Bool := t = .comma || t = .flowMappingEnd
    if ← accept .key then
      let k ← nodeUnless fuel .flow fun t => t = .value || ends t
      let v ← if ← accept .value then nodeUnless fuel .flow ends else pure .empty
      return (k, v) :: (← flowMembers fuel false)
    else
      let k ← node fuel .flow
      return (k, .empty) :: (← flowMembers fuel false)

end

/-! ## §2. Whole texts. -/

/-- What the handles of tags stand for if nothing else is said. -/
def standardHandles : List (List Char × List Char) :=
  [("!".toList, "!".toList), ("!!".toList, "tag:yaml.org,2002:".toList)]

/-- Read directives, and tell whether there were any. -/
def directives (fuel : Nat) (versionSeen : Bool) : Parse Bool :=
  match fuel with
  | 0 => fail
  | fuel + 1 => do
    match ← peek with
    | .version major minor =>
      skip
      if versionSeen || !(major == 1 && (minor == 1 || minor == 2)) then fail
      let _ ← directives fuel true
      return true
    | .shorthand handle start =>
      skip
      let p ← get
      if p.handles.any (·.1 == handle) then fail
      set { p with handles := (handle, start) :: p.handles }
      let _ ← directives fuel versionSeen
      return true
    | _ => return false

/-- Whether a token ends the content of a document. -/
def endsDocument : Token → Bool
  | .version _ _ | .shorthand _ _ | .documentStart | .documentEnd | .streamEnd => true
  | _ => false

/-- Skip the marks of the end of a document. -/
def documentEnds (fuel : Nat) : Parse Unit :=
  match fuel with
  | 0 => fail
  | fuel + 1 => do
    if ← accept .documentEnd then documentEnds fuel else return ()

/-- Read the only document of a text. -/
def document (fuel : Nat) : Parse (Option Node) := do
  if (← peek) = .streamEnd then return none
  let given ← directives fuel false
  modify fun p => { p with handles := p.handles ++ standardHandles }
  let isMarked ← accept .documentStart
  if given && !isMarked then fail
  let root ← if isMarked then nodeUnless fuel .block endsDocument else node fuel .block
  documentEnds fuel
  if (← peek) = .streamEnd then return some root else fail

end Parse

/-- Read a text of one document. -/
def Document.ofText? (text : String) : Option Document := do
  let ts ← tokens text
  let (root, p) ← (Parse.document (3 * ts.length + 3)).run ⟨ts, [], [], 0, []⟩
  return ⟨root, p.named⟩

/-! ## §3. Reading scalars, sequences and mappings. -/

namespace Document

/-- The node that a node stands for. -/
def resolve (d : Document) : Node → Option Node
  | .alias i => (d.named.find? (·.1 == i)).map (·.2)
  | n => some n

/-- The text of a scalar of any kind. -/
def text? (d : Document) (n : Node) : Option String :=
  match d.resolve n with
  | some (.scalar _ _ text) => some text
  | _ => none

/-- The members of a mapping; nothing is a mapping without members. -/
def members? (d : Document) (n : Node) : Option (List (Node × Node)) :=
  match d.resolve n with
  | some (.mapping _ members) => some members
  | some (.scalar _ true "") => some []
  | _ => none

/-- The items of a sequence; nothing is a sequence without items. -/
def items? (d : Document) (n : Node) : Option (List Node) :=
  match d.resolve n with
  | some (.sequence _ items) => some items
  | some (.scalar _ true "") => some []
  | _ => none

end Document

end CardStore.Yaml
