/-
  CardStore.Card.Basic
  ────────────────────
  **CARDS.**

  A card describes the records of one table.  Its members are fields, which
  are plain columns, and references, which are columns that hold the
  identifier of a record of another card.  Every card has an identifier
  besides its members.

  Names of members are looked up among the fields first.  A card is sound if
  every physical name in it is a plain identifier.

  Main statements:
    * `check_eq_ok_iff` — the check passes exactly the sound cards.
    * `isIdentifier_table`, `isIdentifier_field`, `isIdentifier_reference` — what a sound card
      puts into a statement is an identifier.
-/
import CardStore.Sql.Identifier
import CardStore.Record.Basic

namespace CardStore

/-- The name of the database of cards that name none. -/
def defaultDatabase : String := "default"

/-- The type of identifiers and of reference columns. -/
def idType : String := "Text"

/-- A plain column. -/
structure Field where
  id : Option String
  name : String
  column : String
  type : String
  deriving DecidableEq, Repr, Inhabited

/-- A column that holds the identifier of a record of another card. -/
structure Reference where
  id : Option String
  name : String
  column : String
  target : String
  type : String
  deriving DecidableEq, Repr, Inhabited

/-- A card. -/
structure Card where
  id : Option String
  name : String
  /-- The database that holds the table; none is the default one. -/
  database : Option String
  table : String
  fields : List Field
  references : List Reference
  deriving DecidableEq, Repr, Inhabited

namespace Card

/-- A card without members. -/
def ofTable (name table : String) : Card := ⟨none, name, none, table, [], []⟩

def withDatabase (card : Card) (database : String) : Card := { card with database := some database }

/-- Add a field. -/
def withField (card : Card) (name column type : String) : Card :=
  { card with fields := card.fields ++ [⟨none, name, column, type⟩] }

/-- Add a reference. -/
def withReference (card : Card) (name column target : String) : Card :=
  { card with references := card.references ++ [⟨none, name, column, target, idType⟩] }

/-- The first field of a name. -/
def field? (card : Card) (name : String) : Option Field := card.fields.find? (·.name == name)

/-- The first reference of a name. -/
def reference? (card : Card) (name : String) : Option Reference :=
  card.references.find? (·.name == name)

/-- The names of the fields, then those of the references. -/
def memberNames (card : Card) : List String :=
  card.fields.map (·.name) ++ card.references.map (·.name)

/-- The column of a member. -/
def memberColumn? (card : Card) (name : String) : Option String :=
  match card.field? name with
  | some f => some f.column
  | none => (card.reference? name).map (·.column)

/-- The physical names of a card, each with what it names, in the order they are checked. -/
def physicalNames (card : Card) : List (String × String) :=
  ("table", card.table) :: card.fields.map (fun f => ("field column", f.column))
    ++ card.references.map (fun r => ("reference column", r.column))

/-- The error of a physical name that is not an identifier. -/
def nameError (card : Card) (what : String) (fault : Sql.IdentifierFault) : Error :=
  .configuration ("card '" ++ card.name ++ "' " ++ what ++ ": "
    ++ (Error.configuration fault.message).message)

/-- Check physical names, one after another. -/
def checkNames (card : Card) : List (String × String) → Except Error Unit
  | [] => .ok ()
  | (what, name) :: rest => match Sql.identifierFault? name with
    | some fault => .error (card.nameError what fault)
    | none => checkNames card rest

/-- Check that every physical name is an identifier. -/
def check (card : Card) : Except Error Unit := card.checkNames card.physicalNames

/-- Whether every physical name is an identifier. -/
def isSound (card : Card) : Bool := card.physicalNames.all fun n => Sql.isIdentifier n.2

theorem checkNames_eq_ok_iff (card : Card) (names : List (String × String)) :
    card.checkNames names = .ok () ↔ ∀ n ∈ names, Sql.isIdentifier n.2 = true := by
  induction names with
  | nil => simp [checkNames]
  | cons n names ih =>
    obtain ⟨what, name⟩ := n
    rw [checkNames]
    cases h : Sql.identifierFault? name with
    | some fault => simp [Sql.isIdentifier, h]
    | none => simp [Sql.isIdentifier, h, ih]

/-- A card passes the check exactly when it is sound. -/
theorem check_eq_ok_iff (card : Card) : card.check = .ok () ↔ card.isSound = true := by
  rw [check, checkNames_eq_ok_iff, isSound, List.all_eq_true]

/-- The paths that a model stands for: an empty model and a star stand for the identifier and
all members, and the identifier is put in front where it is missing. -/
def normalizeModel (card : Card) (model : List String) : List String :=
  let paths := if model = [] ∨ model = ["*"] then idPath :: card.memberNames else model
  if idPath ∈ paths then paths else idPath :: paths

end Card

/-- A card whose physical names are all identifiers. -/
structure SoundCard extends Card where
  sound : toCard.isSound = true
  deriving DecidableEq

/-- Check a card, and keep that it is sound. -/
def Card.checked (card : Card) : Except Error SoundCard :=
  match h : card.check with
  | .ok () => .ok ⟨card, card.check_eq_ok_iff.1 h⟩
  | .error e => .error e

namespace SoundCard

/-- The table of a sound card is an identifier. -/
theorem isIdentifier_table (card : SoundCard) : Sql.isIdentifier card.table = true :=
  List.all_eq_true.1 card.sound ("table", card.table) (by simp [Card.physicalNames])

/-- So is the column of every field. -/
theorem isIdentifier_field (card : SoundCard) {f : Field} (h : f ∈ card.fields) :
    Sql.isIdentifier f.column = true := by
  apply List.all_eq_true.1 card.sound ("field column", f.column)
  simp only [Card.physicalNames, List.mem_cons, List.mem_append, List.mem_map]
  exact Or.inl (Or.inr ⟨f, h, rfl⟩)

/-- So is the column of every reference. -/
theorem isIdentifier_reference (card : SoundCard) {r : Reference} (h : r ∈ card.references) :
    Sql.isIdentifier r.column = true := by
  apply List.all_eq_true.1 card.sound ("reference column", r.column)
  simp only [Card.physicalNames, List.mem_cons, List.mem_append, List.mem_map]
  exact Or.inr ⟨r, h, rfl⟩

end SoundCard

end CardStore
