/-
  CardStore.Json.Read
  ───────────────────
  **READING TYPED VALUES.**

  A reader walks a scanned tree from left to right and answers the first
  thing that is wrong: a fault of the text, or a value that does not have the
  expected shape.  It reads either a text, in which containers nest to a
  limited depth, or a value that is in memory already.

  A `Shape` describes an object with known keys.  Such an object is read from
  an object, where unknown keys are skipped and a known one may stand once,
  or from a list of its values in the order of the keys.
-/
import CardStore.Json.Print
import CardStore.Json.Scan
import CardStore.Text.Quoted

namespace CardStore.Json

/-! ## §1. What a reader can object to. -/

/-- What was found in place of the expected value. -/
inductive Found where
  | null
  | bool (b : Bool)
  | integer (n : Int)
  | float (x : Double)
  | string (s : String)
  | sequence
  | map
  deriving DecidableEq

/-- The wording of what was found. -/
def Found.text : Found → String
  | .null => "null"
  | .bool b => "boolean `" ++ (if b then "true" else "false") ++ "`"
  | .integer n => "integer `" ++ Text.ofInt n ++ "`"
  | .float x => "floating point `" ++ x.toJsonText ++ "`"
  | .string s => "string " ++ Text.quoted s
  | .sequence => "sequence"
  | .map => "map"

/-- A well-formed value of the wrong shape. -/
inductive ShapeError where
  | invalidType (found : Found) (expected : String)
  | invalidValue (found : Found) (expected : String)
  | invalidLength (length : Nat) (expected : String)
  | missingKey (key : String)
  | repeatedKey (key : String)
  | other (message : String)
  deriving DecidableEq

/-- The wording of a shape error. -/
def ShapeError.message : ShapeError → String
  | .invalidType found expected => "invalid type: " ++ found.text ++ ", expected " ++ expected
  | .invalidValue found expected => "invalid value: " ++ found.text ++ ", expected " ++ expected
  | .invalidLength n expected =>
    "invalid length " ++ Text.ofNat n ++ ", expected " ++ expected
  | .missingKey key => "missing field `" ++ key ++ "`"
  | .repeatedKey key => "duplicate field `" ++ key ++ "`"
  | .other message => message

/-- Why a value could not be read. -/
inductive ReadError where
  | fault (f : Fault)
  | shape (e : ShapeError)
  deriving DecidableEq

def ReadError.message : ReadError → String
  | .fault f => f.message
  | .shape e => e.message

/-- The answer of a reader. -/
abbrev Reading := Except ReadError

def Reading.ofText {α : Type} : Except Fault α → Reading α
  | .ok a => .ok a
  | .error f => .error (.fault f)

/-! ## §2. Where values come from. -/

/-- Where a value is read from. -/
inductive Origin where
  /-- A text, in which so many containers may still be entered. -/
  | text (levels : Nat)
  /-- A value in memory. -/
  | memory
  deriving DecidableEq, Repr

/-- The beginning of a text; the innermost of 128 nested containers is one too deep. -/
def Origin.start : Origin := .text 128

/-- Enter a container. -/
def Origin.enter : Origin → Reading Origin
  | .text n => if n ≤ 1 then .error (.fault .tooDeep) else .ok (.text (n - 1))
  | .memory => .ok .memory

/-- The fault at the end of a container, if it is not closed. -/
def checkStop : Option Stop → Reading Unit
  | none => .ok ()
  | some s => .error (.fault s.reading)

/-- The fault of a list that goes on behind the items that were asked for. -/
def faultBehind : Stop → Fault
  | ⟨.endOfList, _⟩ => .endOfList
  | ⟨.trailingComma, _⟩ => .trailingComma
  | _ => .trailingCharacters

/-- Close a list of which `length` items were found and all but `rest` were asked for. -/
def closeList (o : Origin) (length : Nat) (rest : List Node) (stop : Option Stop) : Reading Unit :=
  match rest, stop with
  | [], none => .ok ()
  -- nobody asks for another item, so what is missing is looked at from behind the last one
  | [], some s => .error (.fault (faultBehind s))
  | _ :: _, _ => match o with
    | .text _ => .error (.fault .trailingCharacters)
    | .memory => .error (.shape (.invalidLength length "fewer elements in array"))

/-! ## §3. Skipping. -/

mutual

/-- Skip a value: any well-formed one will do. -/
def skip : Node → Except Fault Unit
  | .array items stop => do
    skipItems items
    skipStop stop
  | .object members stop => do
    skipMembers members
    skipStop stop
  | .stop s => .error s.skipping
  | _ => .ok ()

def skipItems : List Node → Except Fault Unit
  | [] => .ok ()
  | n :: ns => do
    skip n
    skipItems ns

def skipMembers : List (Except Fault String × Node) → Except Fault Unit
  | [] => .ok ()
  | (_, n) :: ms => do
    skip n
    skipMembers ms

def skipStop : Option Stop → Except Fault Unit
  | none => .ok ()
  | some s => .error s.skipping

end

/-! ## §4. Values of known types. -/

/-- The objection to a value of another type. -/
def unexpected {α : Type} (expected : String) : Node → Reading α
  | .null => .error (.shape (.invalidType .null expected))
  | .bool b => .error (.shape (.invalidType (.bool b) expected))
  | .number none => .error (.fault .outOfRange)
  | .number (some (.int n _)) => .error (.shape (.invalidType (.integer n) expected))
  | .number (some (.float x _)) => .error (.shape (.invalidType (.float x) expected))
  | .string (.ok s) => .error (.shape (.invalidType (.string s) expected))
  | .string (.error f) => .error (.fault f)
  | .array _ _ => .error (.shape (.invalidType .sequence expected))
  | .object _ _ => .error (.shape (.invalidType .map expected))
  | .stop s => .error (.fault s.reading)

def readString : Node → Reading String
  | .string s => .ofText s
  | n => unexpected "a string" n

def readBool : Node → Reading Bool
  | .bool b => .ok b
  | n => unexpected "a boolean" n

/-- An integer within a range that has a name. -/
def readInteger (name : String) (low high : Int) : Node → Reading Int
  | .number (some (.int n _)) =>
    if low ≤ n ∧ n ≤ high then .ok n else .error (.shape (.invalidValue (.integer n) name))
  | n => unexpected name n

/-- A signed integer of 64 bits. -/
def readInt64 (node : Node) : Reading Int64 :=
  (readInteger "i64" (-2 ^ 63) (2 ^ 63 - 1) node).map Int64.ofInt

/-- An unsigned integer of 64 bits, under the name of its type. -/
def readNatural (name : String) (node : Node) : Reading Nat :=
  (readInteger name 0 (2 ^ 64 - 1) node).map Int.toNat

/-- A value, or null. -/
def readOption {α : Type} (read : Node → Reading α) : Node → Reading (Option α)
  | .null => .ok none
  | n => (read n).map some

/-- Read the items of a list one after another. -/
def readItems {α : Type} (read : Node → Reading α) (stop : Option Stop) :
    List Node → Reading (List α)
  | [] => do
    checkStop stop
    return []
  | n :: ns => do
    let a ← read n
    let as ← readItems read stop ns
    return a :: as

/-- A list. -/
def readList {α : Type} (read : Origin → Node → Reading α) (o : Origin) :
    Node → Reading (List α)
  | .array items stop => do
    let o ← o.enter
    readItems (read o) stop items
  | n => unexpected "a sequence" n

mutual

/-- Any value; the last value of a repeated key wins, at the place of the first. -/
def readJson (o : Origin) : Node → Reading Json
  | .null => .ok .null
  | .bool b => .ok (.bool b)
  | .number (some n) => .ok (.number n)
  | .number none => .error (.fault .outOfRange)
  | .string s => (Reading.ofText s).map .string
  | .array items stop => do
    let o ← o.enter
    let items ← readJsonItems o items
    checkStop stop
    return .array items
  | .object members stop => do
    let o ← o.enter
    let members ← readJsonMembers o [] members
    checkStop stop
    return .object members
  | .stop s => .error (.fault s.reading)

def readJsonItems (o : Origin) : List Node → Reading (List Json)
  | [] => .ok []
  | n :: ns => do
    let j ← readJson o n
    let js ← readJsonItems o ns
    return j :: js

def readJsonMembers (o : Origin) (done : List (String × Json)) :
    List (Except Fault String × Node) → Reading (List (String × Json))
  | [] => .ok done
  | (key, n) :: ms => do
    let k ← Reading.ofText key
    let j ← readJson o n
    readJsonMembers o (Pairs.set k j done) ms

end

/-! ## §5. Objects with known keys. -/

/-- A known key of an object that is read into a `σ`. -/
structure Key (σ : Type) where
  name : String
  /-- Whether the key has to be there. -/
  required : Bool
  read : Origin → σ → Node → Reading σ

/-- An object with known keys. -/
structure Shape (σ : Type) where
  name : String
  keys : List (Key σ)

namespace Shape

variable {σ : Type}

/-- The shape as it is named where a list is too short. -/
def lengthText (shape : Shape σ) : String :=
  let n := shape.keys.length
  "struct " ++ shape.name ++ " with " ++ Text.ofNat n ++ (if n = 1 then " element" else " elements")

/-- The first required key that was not given. -/
def checkRequired (shape : Shape σ) (given : List String) : Reading Unit :=
  match shape.keys.find? fun k => k.required && !given.contains k.name with
  | some k => .error (.shape (.missingKey k.name))
  | none => .ok ()

/-- Read the members of an object; `given` are the known keys that have been read. -/
def readMembers (shape : Shape σ) (o : Origin) (stop : Option Stop) (given : List String) (s : σ) :
    List (Except Fault String × Node) → Reading σ
  | [] => do
    checkStop stop
    checkRequired shape given
    return s
  | (key, n) :: ms => do
    let name ← Reading.ofText key
    -- what is skipped has to be well formed all the same
    match shape.keys.find? fun k => k.name == name with
    | none =>
      Reading.ofText (skip n)
      readMembers shape o stop given s ms
    | some k =>
      if given.contains name then .error (.shape (.repeatedKey name))
      else
        let s ← k.read o s n
        readMembers shape o stop (name :: given) s ms

/-- Read a list of values, the `i`-th for the `i`-th key. -/
def readPositions (shape : Shape σ) (o : Origin) (length : Nat) (stop : Option Stop) (i : Nat)
    (s : σ) : List (Key σ) → List Node → Reading σ
  | [], rest => do
    closeList o length rest stop
    return s
  | k :: ks, [] => do
    -- a list that stops early is not one that is too short
    checkStop stop
    if k.required then .error (.shape (.invalidLength i shape.lengthText))
    else readPositions shape o length stop (i + 1) s ks []
  | k :: ks, n :: ns => do
    let s ← k.read o s n
    readPositions shape o length stop (i + 1) s ks ns

/-- Read a value of the shape, starting from the values of keys that are not given. -/
def read (shape : Shape σ) (start : σ) (o : Origin) : Node → Reading σ
  | .object members stop => do
    let o ← o.enter
    readMembers shape o stop [] start members
  | .array items stop => do
    let o ← o.enter
    readPositions shape o items.length stop 0 start shape.keys items
  | n => unexpected ("struct " ++ shape.name) n

end Shape

/-! ## §6. Whole texts. -/

/-- Read a whole text. -/
def readText {α : Type} (read : Origin → Node → Reading α) (text : String) : Reading α := do
  let scanned := scan text
  let a ← read .start scanned.node
  if scanned.ended then .ok a else .error (.fault .trailingCharacters)

/-- Read a value that is in memory. -/
def readValue {α : Type} (read : Origin → Node → Reading α) (j : Json) : Reading α :=
  read .memory (.ofJson j)

/-- Any JSON text. -/
def ofText (text : String) : Reading Json := readText readJson text

end CardStore.Json
