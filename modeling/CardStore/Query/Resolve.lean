/-
  CardStore.Query.Resolve
  ───────────────────────
  **WHERE PATHS LEAD.**

  A path is a list of names separated by points.  All but the last one have
  to name references; each takes the walk to another card, whose table is
  joined in, and all paths that cross one reference column share its join.
  The last name is the identifier or a member of the card reached.

      owner.department.name   T0 → T1 → T2, the column of `name` on T2

  Cards are looked up by name as the walk reaches them, so resolving is a
  script of look-ups.
-/
import CardStore.Card.Basic
import CardStore.Filter.Columns
import CardStore.Script
import CardStore.Text.Join

namespace CardStore

/-! ## §1. Looking up cards. -/

/-- A program that looks up cards by name. -/
abbrev Lookup := Script String fun _ => Except Error SoundCard

/-! ## §2. Joined tables. -/

/-- A table that is joined through a reference column of an earlier table. -/
structure Join where
  /-- The position of the earlier table. -/
  parent : Nat
  /-- The reference column. -/
  column : String
  card : SoundCard
  deriving DecidableEq

/-- The tables of a query: the one of the root card, and those joined to it in order. -/
structure Tables where
  root : SoundCard
  joins : List Join
  deriving DecidableEq

/-- The alias of the table at a position. -/
def tableAlias (n : Nat) : String := "T" ++ Text.ofNat n

/-- A column of the table at a position. -/
def columnText (table : Nat) (column : String) : String := tableAlias table ++ "." ++ column

namespace Tables

/-- The number of tables. -/
def size (t : Tables) : Nat := t.joins.length + 1

/-- The card of the table at a position. -/
def cardAt? (t : Tables) : Nat → Option SoundCard
  | 0 => some t.root
  | n + 1 => t.joins[n]?.map (·.card)

/-- Join one more table. -/
def push (t : Tables) (join : Join) : Tables := { t with joins := t.joins ++ [join] }

/-- The position and card of the table that is joined through a column, if there is one;
`position` is the position of the first join in the list. -/
def findFrom? (parent : Nat) (column : String) (position : Nat) :
    List Join → Option (Nat × SoundCard)
  | [] => none
  | j :: js =>
    if j.parent = parent ∧ j.column = column then some (position, j.card)
    else findFrom? parent column (position + 1) js

/-- The position and card of the table that is joined through a column. -/
def find? (t : Tables) (parent : Nat) (column : String) : Option (Nat × SoundCard) :=
  findFrom? parent column 1 t.joins

/-- The aliases, cards and reference columns of all tables. -/
def listing (t : Tables) : List (String × SoundCard × Option String) :=
  (tableAlias 0, t.root, none) :: t.joins.mapIdx fun i j =>
    (tableAlias (i + 1), j.card, some (columnText j.parent j.column))

/-- The tables of the joins, the first one at a position. -/
def joinClauses (position : Nat) : List Join → String
  | [] => ""
  | j :: js =>
    " LEFT JOIN " ++ j.card.table ++ " " ++ tableAlias position ++ " ON "
      ++ columnText j.parent j.column ++ "=" ++ columnText position idPath
      ++ joinClauses (position + 1) js

/-- The tables as they stand in a statement. -/
def text (t : Tables) : String :=
  t.root.table ++ " " ++ tableAlias 0 ++ joinClauses 1 t.joins

end Tables

/-! ## §3. The walk. -/

/-- What a name is on a card. -/
inductive Member where
  | identifier
  | field (f : Field)
  | reference (r : Reference)
  deriving DecidableEq

/-- What a name is on a card: the identifier, a field or a reference, looked for in this order. -/
def Card.member? (card : Card) (name : String) : Option Member :=
  if name = idPath then some .identifier
  else match card.field? name with
    | some f => some (.field f)
    | none => (card.reference? name).map .reference

/-- The column and the type of a member. -/
def Member.column : Member → String × String
  | .identifier => (idPath, idType)
  | .field f => (f.column, f.type)
  | .reference r => (r.column, r.type)

/-- A column of one of the tables of a query. -/
structure ColumnRef where
  table : Nat
  column : String
  type : String
  deriving DecidableEq, Repr

/-- The column as it stands in a statement. -/
def ColumnRef.toColumn (c : ColumnRef) : Column := ⟨columnText c.table c.column, c.type⟩

/-- The names of a path. -/
def pathSegments (path : String) : List String := Text.splitAt '.' path

namespace Tables

/-- Walk the names of a path from the card at a position.  The tables joined on the way stay
joined when the walk fails. -/
def walk (path : String) (position : Nat) (card : SoundCard) :
    List String → Tables → Lookup (Except Error ColumnRef × Tables)
  | [], t => .done (.error (.unresolvedPath path t.root.name path), t)
  | name :: rest, t =>
    match card.member? name with
    | none => .done (.error (.unresolvedPath path card.name name), t)
    | some member =>
      if rest.isEmpty then .done (.ok ⟨position, member.column.1, member.column.2⟩, t)
      -- names behind this one need a card to be looked up on
      else match member with
        -- a reference leads on, through the join of its column if there is one already
        | .reference r => match t.find? position r.column with
          | some (next, target) => walk path next target rest t
          | none => .ask r.target fun answer => match answer with
            | .error e => .done (.error e, t)
            | .ok target => walk path t.size target rest (t.push ⟨position, r.column, target⟩)
        | _ => .done (.error (.unresolvedPath path card.name name), t)

/-- The column that a path leads to. -/
def resolve (t : Tables) (path : String) : Lookup (Except Error ColumnRef × Tables) :=
  walk path 0 t.root (pathSegments path) t

end Tables

end CardStore
