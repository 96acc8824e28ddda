/-
  CardStore.Yaml.Content
  ──────────────────────
  **WHAT SCALARS MEAN.**

  A plain scalar may mean nothing, a truth value, a number or text, by the
  form of its characters; a quoted one is text.  A tag of YAML's own says what
  a scalar has to mean; a document with any other local tag has no content
  here.  Integers need not be decimal, but a number that begins with a zero
  for no reason is text.

  Content in which collections nest too deeply is refused.
-/
import CardStore.Number.Numeral
import CardStore.Yaml.Node

namespace CardStore.Yaml

/-- The meaning of a node. -/
inductive Content where
  | null
  | bool (b : Bool)
  | integer (n : Int)
  | float (x : Double)
  | text (s : String)
  | list (items : List Content)
  | table (members : List (Content × Content))

namespace Content

instance : Inhabited Content := ⟨.null⟩

/-! ## §1. Forms of plain scalars. -/

def isNull (s : String) : Bool := ["null", "Null", "NULL", "~"].contains s

def bool? (s : String) : Option Bool :=
  if ["true", "True", "TRUE"].contains s then some true
  else if ["false", "False", "FALSE"].contains s then some false
  else none

/-- The characters behind a plus sign at the front. -/
def dropPlus : List Char → List Char
  | '+' :: cs => cs
  | cs => cs

/-- Whether the characters are digits that begin with a zero for no reason. -/
def isPadded (cs : List Char) : Bool :=
  let digits := match cs with
    | '+' :: cs | '-' :: cs => cs
    | cs => cs
  1 < digits.length && digits.head? == some '0' && digits.all Char.isDigit

/-- The number of digits in a base, at least one. -/
def inBase? (base : Nat) (cs : List Char) : Option Nat :=
  if cs.isEmpty then none
  else cs.foldlM (fun n c =>
    (Text.hexValue? c).bind fun d => if d < base then some (base * n + d) else none) 0

/-- A number in a base that the characters at the front name. -/
def natural? : List Char → Option Nat
  | '0' :: 'x' :: cs => inBase? 16 cs
  | '0' :: 'o' :: cs => inBase? 8 cs
  | '0' :: 'b' :: cs => inBase? 2 cs
  | cs => inBase? 10 cs

/-- The integer that a scalar means. -/
def integer? (s : String) : Option Int :=
  let cs := s.toList
  -- digits after a zero are neither octal nor decimal
  if isPadded cs then none
  else match cs with
    | '-' :: ds => (natural? ds).map fun n => -(n : Int)
    | cs => (natural? (dropPlus cs)).map Int.ofNat

/-- The number that a scalar means, if it is not an integer. -/
def float? (s : String) : Option Double :=
  let cs := s.toList
  let positive := String.ofList (dropPlus cs)
  if [".inf", ".Inf", ".INF"].contains positive then some (.infinity false)
  else if ["-.inf", "-.Inf", "-.INF"].contains s then some (.infinity true)
  else if [".nan", ".NaN", ".NAN"].contains s then some .nan
  else if cs.head? = some '+' ∧ (positive.toList.head?.any fun c => c == '+' || c == '-') = true then
    none
  else (Double.ofText? positive).bind fun x => if x.isFinite then some x else none

/-- An integer, if a word of 64 bits holds it. -/
def ofInteger? (n : Int) : Option Content :=
  if -2 ^ 63 ≤ n ∧ n < 2 ^ 64 then some (.integer n) else none

/-- Whether words of 128 bits hold an integer. -/
def isLong (n : Int) : Bool := -2 ^ 127 ≤ n && n < 2 ^ 128

/-- The meaning of a plain scalar; an integer that is too long to be one is a number. -/
def ofPlain? (s : String) : Option Content :=
  let other : Content :=
    if isPadded s.toList then .text s
    else match float? s with
      | some x => .float x
      | none => .text s
  if s.isEmpty || isNull s then some .null
  else match bool? s, integer? s with
    | some b, _ => some (.bool b)
    | none, some n => if isLong n then ofInteger? n else some other
    | none, none => some other

/-! ## §2. Tags. -/

/-- The beginning of YAML's own tags. -/
def ownTag : String := "tag:yaml.org,2002:"

/-- The meaning of a tagged scalar. -/
def ofTagged? (tag : String) (s : String) : Option Content :=
  if tag = ownTag ++ "null" then if isNull s then some .null else none
  else if tag = ownTag ++ "bool" then (bool? s).map .bool
  else if tag = ownTag ++ "int" then (integer? s).bind ofInteger?
  else if tag = ownTag ++ "float" then (float? s).map .float
  else some (.text s)

/-- Whether a tag belongs to the document alone. -/
def isLocal (tag : Option (List Char)) : Bool := tag.any fun cs => cs.head? == some '!'

/-! ## §3. Documents. -/

/-- The meaning of a node, in which so many collections may nest. -/
def ofNode? (d : Document) : Nat → Node → Option Content
  | depth, n =>
    match d.resolve n with
    | none => none
    -- an alias that stands for an alias cannot be written
    | some (.alias _) => none
    | some (.scalar tag isPlain s) =>
      if isLocal tag then none
      else match tag with
        | some cs => ofTagged? (String.ofList cs) s
        | none => if isPlain then ofPlain? s else some (.text s)
    | some (.sequence tag items) =>
      match depth with
      | 0 => none
      | depth + 1 =>
        if isLocal tag then none else (items.mapM (ofNode? d depth)).map .list
    | some (.mapping tag members) =>
      match depth with
      | 0 => none
      | depth + 1 =>
        if isLocal tag then none
        else
          (members.mapM fun (k, v) => do
            return (← ofNode? d depth k, ← ofNode? d depth v)).map .table

/-! ## §4. Reading content. -/

def text? : Content → Option String
  | .text s => some s
  | _ => none

/-- A natural number of 64 bits. -/
def nat? : Content → Option Nat
  | .integer n => if 0 ≤ n then some n.toNat else none
  | _ => none

def boolean? : Content → Option Bool
  | .bool b => some b
  | _ => none

/-- The name of a known key: a text, or the position of the key. -/
def keyName? (keys : List String) : Content → Option (Option String)
  | .text s => some (if keys.contains s then some s else none)
  | .integer n => if 0 ≤ n then some keys[n.toNat]? else none
  | _ => none

/-- The members of a table under known keys, each at most once. -/
def known? (keys : List String) : List (String × Content) → List (Content × Content) →
    Option (List (String × Content))
  | done, [] => some done.reverse
  | done, (k, v) :: rest => do
    match ← keyName? keys k with
    | none => known? keys done rest
    | some name =>
      if done.any (·.1 == name) then none else known? keys ((name, v) :: done) rest

/-- The members of a table, or the items of a list in the order of the keys. -/
def members? (keys : List String) : Content → Option (List (String × Content))
  | .table members => known? keys [] members
  | .list items => if items.length ≤ keys.length then some (keys.zip items) else none
  | _ => none

end Content

end CardStore.Yaml
