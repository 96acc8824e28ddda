/-
  CardStore.Config.Basic
  ──────────────────────
  **CONFIGURATIONS.**

  A configuration is a YAML text with references to variables.  It names
  databases, one of which has to be the default one, the database that
  describes cards, and the settings of writes.
-/
import CardStore.Config.Entry
import CardStore.Config.Variables
import CardStore.Write.Settings

namespace CardStore

/-- A configuration. -/
structure Config where
  databases : OrderedMap DatabaseEntry
  /-- The database with the tables that describe cards. -/
  metadata : String
  settings : WriteSettings

/-! ## §1. Reading. -/

namespace WriteSettings

/-- A setting that is a text. -/
def setText (s : WriteSettings) (key value : String) : WriteSettings :=
  match key with
  | "created_at_column" => { s with createdAtColumn := value }
  | "created_by_column" => { s with createdByColumn := value }
  | "created_dept_column" => { s with createdDeptColumn := value }
  | "updated_at_column" => { s with updatedAtColumn := value }
  | "updated_by_column" => { s with updatedByColumn := value }
  | "updated_dept_column" => { s with updatedDeptColumn := value }
  | "actor" => { s with actor := value }
  | "department" => { s with department := value }
  | "deleted_column" => { s with deletedColumn := value }
  | "not_deleted_value" => { s with notDeletedValue := value }
  | "path_column" => { s with pathColumn := value }
  | _ => s

/-- Settings in a document. -/
def ofMembers? (d : Yaml.Document) (members : List (String × Yaml.Node)) :
    Option WriteSettings :=
  members.foldlM (fun s (key, n) =>
    if key = "skip_paths" then do
      return { s with skipPaths := ← (← d.items? n).mapM d.text? }
    else (d.text? n).map (s.setText key)) standard

end WriteSettings

namespace Config

/-- The members of a mapping under known keys, each at most once; others are left out. -/
def knownMembers? (d : Yaml.Document) (keys : List String) (n : Yaml.Node) :
    Option (List (String × Yaml.Node)) := do
  let members ← (← d.members? n).mapM fun (k, v) => do return (← d.text? k, v)
  let known := members.filter fun (k, _) => keys.contains k
  if (Pairs.keys known).Nodup then return known else none

/-- The databases of a document; the last one of a name counts. -/
def databasesOf? (d : Yaml.Document) (n : Yaml.Node) : Option (OrderedMap DatabaseEntry) := do
  (← d.members? n).foldlM (fun m (k, v) => do
    return m.set (← d.text? k) (← DatabaseEntry.ofNode? d v)) .empty

/-- The configuration in a document. -/
def ofDocument? (d : Yaml.Document) : Option Config := do
  let members ← match d.root with
    | none => some []
    | some n => knownMembers? d ["databases", "metadata", "write"] n
  let databases ← match Pairs.get? "databases" members with
    | none => some .empty
    | some n => databasesOf? d n
  let metadata ← match Pairs.get? "metadata" members with
    | none => some []
    | some n => knownMembers? d ["database"] n
  let database ← match Pairs.get? "database" metadata with
    | none => some defaultDatabase
    | some n => d.text? n
  let write ← match Pairs.get? "write" members with
    | none => some []
    | some n =>
      knownMembers? d (WriteSettings.shape.keys.map (·.name)) n
  return ⟨databases, database, ← WriteSettings.ofMembers? d write⟩

/-! ## §2. Checking. -/

/-- Check the databases. -/
def checkDatabases : List (String × DatabaseEntry) → Except Error Unit
  | [] => .ok ()
  | (name, e) :: rest => match e.check with
    | .ok () => checkDatabases rest
    | .error err => .error (.configuration ("database '" ++ name ++ "': " ++ err.message))

/-- Check a configuration. -/
def check (c : Config) : Except Error Unit := do
  if !c.databases.keys.contains defaultDatabase then
    throw (.configuration ("a database named '" ++ defaultDatabase ++ "' must be configured"))
  checkDatabases c.databases.toList
  if !c.databases.keys.contains c.metadata then
    throw (.configuration ("metadata database '" ++ c.metadata ++ "' is not configured"))
  c.settings.check

/-- Read a configuration. -/
def ofText (env : Environment) (text : String) : Except Error Config := do
  match (Yaml.Document.ofText? (expandVariables env text)).bind ofDocument? with
  | none => throw (.configuration "Failed to parse config")
  | some c =>
    c.check
    return c

/-- The error of a file that is not there. -/
def missingFileError (path : String) : Error :=
  .configuration ("Failed to read config file " ++ path
    ++ ": No such file or directory (os error 2)")

end Config

end CardStore
