/-
  CardStore.Record.Wire
  ─────────────────────
  **RECORDS AS JSON.**

  A record is written as an object of its paths, with its children under the
  key `children`.  Reading takes the value of that key as children, the last
  one if it is repeated, and sets every other key as a path.

  `toJson` builds a JSON object, in which children take the place of an entry
  of the same key; `writeJson` writes entries and children one after the
  other.
-/
import CardStore.Record.Basic
import CardStore.Value.Wire

namespace CardStore.Record

/-- The key that children are written under. -/
def childrenKey : String := "children"

/-- The members of an object for the entries of a record. -/
def entryMembers (es : List (String × Value)) : List (String × Json) :=
  es.map fun (path, value) => (path, value.toJson)

mutual

/-- The JSON form. -/
def toJson : Record → Json
  | ⟨es, none⟩ => .object (entryMembers es.toList)
  | ⟨es, some rs⟩ => .object (Pairs.set childrenKey (.array (listToJson rs)) (entryMembers es.toList))

def listToJson : List Record → List Json
  | [] => []
  | r :: rs => toJson r :: listToJson rs

end

/-- Members behind others, or as the first ones. -/
def separated (first : Bool) (cs : List Char) : List Char := if first then cs else ',' :: cs

/-- Entries as members of an object, followed by more characters. -/
def writeEntries (first : Bool) : List (String × Value) → (Bool → List Char) → List Char
  | [], rest => rest first
  | (path, value) :: es, rest =>
    separated first
      (Json.stringChars path ++ ':' :: (value.writeJson ++ writeEntries false es rest))

mutual

/-- The characters of the JSON text of a record. -/
def writeJson : Record → List Char
  | ⟨es, none⟩ => '{' :: writeEntries true es.toList fun _ => ['}']
  | ⟨es, some rs⟩ =>
    let cs := Json.stringChars childrenKey ++ ':' :: '[' :: writeList true rs
    '{' :: writeEntries true es.toList fun first => separated first cs ++ ['}']

/-- Records as items of a list, and its closing bracket. -/
def writeList (first : Bool) : List Record → List Char
  | [] => [']']
  | r :: rs => separated first (writeJson r ++ writeList false rs)

end

/-- The JSON text of a record. -/
def jsonText (r : Record) : String := String.ofList r.writeJson

/-- The name under which readers ask for a record. -/
def wireName : String := "a record object"

mutual

/-- Read a record. -/
def read (o : Json.Origin) : Json.Node → Json.Reading Record
  | .object members stop => do
    let o ← o.enter
    let r ← readMembers o .empty members
    Json.checkStop stop
    return r
  | n => Json.unexpected wireName n

/-- Set the members of an object, one after another. -/
def readMembers (o : Json.Origin) (r : Record) :
    List (Except Json.Fault String × Json.Node) → Json.Reading Record
  | [] => .ok r
  | (key, n) :: ms => do
    let k ← Json.Reading.ofText key
    if k = childrenKey then
      let children ← readChildren o n
      readMembers o (r.withChildren children) ms
    else
      let v ← Value.read o n
      readMembers o (r.set k v) ms

/-- Read children: a list of records, or null for none. -/
def readChildren (o : Json.Origin) : Json.Node → Json.Reading (Option (List Record))
  | .null => .ok none
  | .array items stop => do
    let o ← o.enter
    let rs ← readItems o items
    Json.checkStop stop
    return some rs
  | n => Json.unexpected "a sequence" n

def readItems (o : Json.Origin) : List Json.Node → Json.Reading (List Record)
  | [] => .ok []
  | n :: ns => do
    let r ← read o n
    let rs ← readItems o ns
    return r :: rs

end

/-- Read a text that holds a record. -/
def ofText (text : String) : Json.Reading Record := Json.readText read text

/-- Read a text that holds a list of records. -/
def listOfText (text : String) : Json.Reading (List Record) :=
  Json.readText (Json.readList read) text

end CardStore.Record
