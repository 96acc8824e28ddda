/-
  CardStore.Card.Wire
  ───────────────────
  **CARD DESCRIPTORS AS JSON.**

  A descriptor may leave out row identifiers, the database, the lists of
  members, and the type of a reference.
-/
import CardStore.Card.Basic
import CardStore.Json.Read

namespace CardStore

open Json (Key Shape Reading Origin Node)

/-- A key that is read by itself. -/
def Json.Key.of {σ α : Type} (name : String) (required : Bool) (read : Node → Reading α)
    (put : σ → α → σ) : Key σ :=
  ⟨name, required, fun _ s n => (read n).map (put s)⟩

namespace Field

/-- The keys of a field. -/
def shape : Shape Field :=
  ⟨"Field",
    [.of "id" false (Json.readOption Json.readString) fun f v => { f with id := v },
      .of "name" true Json.readString fun f v => { f with name := v },
      .of "column_name" true Json.readString fun f v => { f with column := v },
      .of "type" true Json.readString fun f v => { f with type := v }]⟩

def read (o : Origin) (n : Node) : Reading Field := shape.read ⟨none, "", "", ""⟩ o n

end Field

namespace Reference

/-- The keys of a reference. -/
def shape : Shape Reference :=
  ⟨"Reference",
    [.of "id" false (Json.readOption Json.readString) fun r v => { r with id := v },
      .of "name" true Json.readString fun r v => { r with name := v },
      .of "column_name" true Json.readString fun r v => { r with column := v },
      .of "target_name" true Json.readString fun r v => { r with target := v },
      .of "type" false Json.readString fun r v => { r with type := v }]⟩

def read (o : Origin) (n : Node) : Reading Reference := shape.read ⟨none, "", "", "", idType⟩ o n

end Reference

namespace Card

/-- The keys of a card. -/
def shape : Shape Card :=
  ⟨"Card",
    [.of "id" false (Json.readOption Json.readString) fun c v => { c with id := v },
      .of "name" true Json.readString fun c v => { c with name := v },
      .of "db_name" false (Json.readOption Json.readString) fun c v => { c with database := v },
      .of "table_name" true Json.readString fun c v => { c with table := v },
      ⟨"fields", false, fun o c n =>
        (Json.readList Field.read o n).map fun v => { c with fields := v }⟩,
      ⟨"references", false, fun o c n =>
        (Json.readList Reference.read o n).map fun v => { c with references := v }⟩]⟩

def read (o : Origin) (n : Node) : Reading Card := shape.read ⟨none, "", none, "", [], []⟩ o n

/-- Read a text that holds a list of descriptors. -/
def listOfText (text : String) : Except Error (List Card) :=
  match Json.readText (Json.readList read) text with
  | .ok cards => .ok cards
  | .error e => .error (.configuration ("invalid card descriptors: " ++ e.message))

/-- An optional text as JSON. -/
def optionJson : Option String → Json
  | none => .null
  | some s => .string s

/-- The JSON form of a card. -/
def toJson (card : Card) : Json :=
  .object
    [("id", optionJson card.id), ("name", .string card.name),
      ("db_name", optionJson card.database), ("table_name", .string card.table),
      ("fields", .array (card.fields.map fun f => .object
        [("id", optionJson f.id), ("name", .string f.name), ("column_name", .string f.column),
          ("type", .string f.type)])),
      ("references", .array (card.references.map fun r => .object
        [("id", optionJson r.id), ("name", .string r.name), ("column_name", .string r.column),
          ("target_name", .string r.target), ("type", .string r.type)]))]

end Card

end CardStore
