/-
  CardStore.Record.Basic
  ──────────────────────
  **RECORDS.**

  A record carries values under paths, in the order in which the paths were
  first set.  A record read from a tree also carries its children.

  Main statements:
    * `paths_set` — setting a path keeps the order of the others.
    * `get?_set` — and changes what that path yields, and nothing else.
-/
import CardStore.OrderedMap
import CardStore.Value.Basic

namespace CardStore

/-- The path of the identifier of every record. -/
def idPath : String := "ID"

/-- A record. -/
structure Record where
  entries : OrderedMap Value
  children : Option (List Record)

namespace Record

def empty : Record := ⟨.empty, none⟩

instance : Inhabited Record := ⟨empty⟩

/-- The paths in the order in which they were first set. -/
def paths (r : Record) : List String := r.entries.keys

/-- The number of paths. -/
def size (r : Record) : Nat := r.entries.size

def isEmpty (r : Record) : Bool := r.entries.isEmpty

def get? (r : Record) (path : String) : Option Value := r.entries.get? path

def contains (r : Record) (path : String) : Bool := r.entries.contains path

/-- Set a path, in place if it is there. -/
def set (r : Record) (path : String) (value : Value) : Record :=
  { r with entries := r.entries.set path value }

/-- The record of a list of paths and values, set one after another. -/
def ofList (es : List (String × Value)) : Record := ⟨.ofList es, none⟩

/-- The identifier. -/
def id? (r : Record) : Option Value := r.get? idPath

/-- Whether there is an identifier that names a record. -/
def hasId (r : Record) : Bool :=
  match r.id? with
  | some v => v.isTruthy
  | none => false

/-- Append a child. -/
def pushChild (r child : Record) : Record :=
  { r with children := some (r.children.getD [] ++ [child]) }

/-- Replace the children. -/
def withChildren (r : Record) (children : Option (List Record)) : Record :=
  { r with children := children }

theorem paths_set (r : Record) (path : String) (value : Value) :
    (r.set path value).paths = if path ∈ r.paths then r.paths else r.paths ++ [path] :=
  OrderedMap.keys_set r.entries path value

theorem get?_set (r : Record) (path other : String) (value : Value) :
    (r.set path value).get? other = if other = path then some value else r.get? other :=
  OrderedMap.get?_set r.entries path other value

/-- Equality of paths and values in order. -/
def entriesEq : List (String × Value) → List (String × Value) → Bool
  | [], [] => true
  | (k, v) :: es, (l, w) :: fs => k == l && v.strictEq w && entriesEq es fs
  | _, _ => false

mutual

/-- Equality of entries in order and of children. -/
def strictEq : Record → Record → Bool
  | ⟨es, none⟩, ⟨fs, none⟩ => entriesEq es.toList fs.toList
  | ⟨es, some rs⟩, ⟨fs, some ss⟩ => entriesEq es.toList fs.toList && listEq rs ss
  | _, _ => false

def listEq : List Record → List Record → Bool
  | [], [] => true
  | r :: rs, s :: ss => strictEq r s && listEq rs ss
  | _, _ => false

end

end Record

end CardStore
