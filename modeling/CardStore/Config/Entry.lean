/-
  CardStore.Config.Entry
  ──────────────────────
  **CONFIGURED DATABASES.**

  An entry of a configuration says of which kind a database is, how it is
  reached, and how its pool is set up.  In diagnostic texts passwords do not
  show.

  Main statement:
    * `inspect_mysql_eq` — the diagnostic text of an entry shows nothing of its
      URL but the redacted form.
-/
import CardStore.Card.Wire
import CardStore.Pool.Config
import CardStore.Sql.Dialect
import CardStore.Text.Quoted
import CardStore.Url.Read
import CardStore.Yaml.Content

namespace CardStore

open Yaml (Content)

/-! ## §1. Pools. -/

namespace PoolConfig

/-- The keys of pool settings in the order of their positions. -/
def keyNames : List String :=
  ["min_size", "max_size", "acquire_timeout_ms", "max_lifetime_ms", "idle_timeout_ms",
    "test_on_borrow"]

/-- Set the settings that are given. -/
def setAll : PoolConfig → List (String × Content) → Option PoolConfig
  | c, [] => some c
  | c, (key, v) :: rest => do
    let c ← match key with
      | "min_size" => v.nat?.map fun n => { c with minSize := n }
      | "max_size" => v.nat?.map fun n => { c with maxSize := n }
      | "acquire_timeout_ms" => v.nat?.map fun n => { c with acquireTimeout := n }
      | "max_lifetime_ms" => v.nat?.map fun n => { c with maxLifetime := n }
      | "idle_timeout_ms" => v.nat?.map fun n => { c with idleTimeout := n }
      | "test_on_borrow" => v.boolean?.map fun b => { c with testOnBorrow := b }
      | _ => some c
    setAll c rest

/-- Pool settings in a document. -/
def ofContent? (c : Content) : Option PoolConfig := (c.members? keyNames).bind standard.setAll

/-- A time in milliseconds, in the largest unit in which it is at least one. -/
def inspectTime (ms : Nat) : String :=
  let fraction := ((Text.paddedDigits 3 (ms % 1000)).reverse.dropWhile (· == '0')).reverse
  if ms = 0 then "0ns"
  else if ms < 1000 then Text.ofNat ms ++ "ms"
  else
    Text.ofNat (ms / 1000)
      ++ (if fraction.isEmpty then "" else "." ++ String.ofList fraction) ++ "s"

/-- Pool settings in a diagnostic text. -/
def inspect (c : PoolConfig) : String :=
  Text.inspected "PoolConfig"
    [("min_size", Text.ofNat c.minSize), ("max_size", Text.ofNat c.maxSize),
      ("acquire_timeout", inspectTime c.acquireTimeout),
      ("max_lifetime", inspectTime c.maxLifetime), ("idle_timeout", inspectTime c.idleTimeout),
      ("test_on_borrow", if c.testOnBorrow then "true" else "false")]

end PoolConfig

/-! ## §2. Entries. -/

/-- How a database is reached. -/
inductive DatabaseAddress where
  | mysql (url : String)
  | oracle (user password connectString : String)
  deriving DecidableEq, Repr

/-- A configured database. -/
structure DatabaseEntry where
  address : DatabaseAddress
  pool : PoolConfig
  deriving DecidableEq, Repr

namespace DatabaseEntry

/-- The dialect of the database. -/
def dialect (e : DatabaseEntry) : Sql.Dialect :=
  match e.address with
  | .mysql _ => .mysql
  | .oracle _ _ _ => .oracle

/-- The pool settings under a key, or the usual ones. -/
def poolOf? (members : List (String × Content)) : Option PoolConfig :=
  match Pairs.get? "pool" members with
  | none => some .standard
  | some c => PoolConfig.ofContent? c

/-- A text that may be left out. -/
def optionalText? (members : List (String × Content)) (key : String) : Option String :=
  match Pairs.get? key members with
  | none | some .null => some ""
  | some c => c.text?

/-- An entry of a kind from what else is said of it. -/
def ofKind? (kind : String) (c : Content) : Option DatabaseEntry :=
  match kind with
  | "mysql" => do
    let members ← c.members? ["url", "pool"]
    let url ← (Pairs.get? "url" members).bind Content.text?
    return ⟨.mysql url, ← poolOf? members⟩
  | "oracle" => do
    let members ← c.members? ["user", "password", "connect_string", "pool"]
    let user ← (Pairs.get? "user" members).bind Content.text?
    let password ← optionalText? members "password"
    let connectString ← (Pairs.get? "connect_string" members).bind Content.text?
    return ⟨.oracle user password connectString, ← poolOf? members⟩
  | _ => none

/-- The key that says of which kind a database is. -/
def kindKey : String := "kind"

/-- How many collections may nest in a member of an entry. -/
def depth : Nat := 125

/-- Whether a node is the key of the kind. -/
def isKindKey (d : Yaml.Document) (n : Yaml.Node) : Bool :=
  match Content.ofNode? d depth n with
  | some (.text s) => s == kindKey
  | _ => false

/-- An entry of a document: a table with the kind among its members, or a list with the kind as its
first item. -/
def ofNode? (d : Yaml.Document) (n : Yaml.Node) : Option DatabaseEntry := do
  match ← d.resolve n with
  | .mapping tag members =>
    if Content.isLocal tag then none
    -- the kind may stand anywhere, but once; the other members are read when it is known
    match members.partition fun (k, _) => isKindKey d k with
    | ([(_, kind)], others) =>
      let others ← others.mapM fun (k, v) => do
        return (← Content.ofNode? d depth k, ← Content.ofNode? d depth v)
      ofKind? (← d.text? kind) (.table others)
    | _ => none
  | .sequence tag (kind :: items) =>
    if Content.isLocal tag then none
    ofKind? (← d.text? kind) (.list (← items.mapM (Content.ofNode? d depth)))
  | _ => none

/-- Check an entry. -/
def check (e : DatabaseEntry) : Except Error Unit := do
  match e.address with
  | .mysql url => match Url.read url with
    | .ok _ => pure ()
    | .error fault => throw (.configuration ("invalid MySQL URL: " ++ fault.message))
  | .oracle user _ connectString =>
    if user.isEmpty || connectString.isEmpty then
      throw (.configuration "Oracle entries need 'user' and 'connect_string'")
  e.pool.check

/-- Whether there is a client for the database here. -/
def checkClient (e : DatabaseEntry) : Except Error Unit :=
  match e.address with
  | .mysql _ => .ok ()
  | .oracle _ _ _ =>
    .error (.configuration "Oracle support is not compiled in (enable the 'oracle' feature)")

/-- The JSON form of an entry. -/
def toJson (e : DatabaseEntry) : Json :=
  match e.address with
  | .mysql url => .object
    [(kindKey, .string "mysql"), ("url", .string url), ("pool", e.pool.toJson)]
  | .oracle user password connectString => .object
    [(kindKey, .string "oracle"), ("user", .string user), ("password", .string password),
      ("connect_string", .string connectString), ("pool", e.pool.toJson)]

/-- An entry in a diagnostic text. -/
def inspect (e : DatabaseEntry) : String :=
  match e.address with
  | .mysql url =>
    "Mysql(" ++ Text.inspected "MySqlConfig"
      [("url", Text.quoted (Url.redact url)), ("pool", e.pool.inspect)] ++ ")"
  | .oracle user _ connectString =>
    "Oracle(" ++ Text.inspected "OracleConfig"
      [("user", Text.quoted user), ("password", Text.quoted (String.ofList Url.mask)),
        ("connect_string", Text.quoted connectString), ("pool", e.pool.inspect)] ++ ")"

/-- The diagnostic text of an entry shows nothing of its URL but the redacted form. -/
theorem inspect_mysql_eq {url url' : String} (pool : PoolConfig)
    (h : Url.redact url = Url.redact url') :
    inspect ⟨.mysql url, pool⟩ = inspect ⟨.mysql url', pool⟩ := by
  simp [inspect, h]

end DatabaseEntry

end CardStore
