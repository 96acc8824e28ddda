/-
  CardStore.Write.Settings
  ────────────────────────
  **SETTINGS OF WRITES.**

  Every table has columns that writes maintain by themselves: when, by whom
  and for which department a row was created and last changed, and a marker
  that says that the row is not deleted.  Some paths are never written from a
  record.
-/
import CardStore.Card.Wire

namespace CardStore

open Json (Origin Node Reading Shape)

/-- The settings of writes. -/
structure WriteSettings where
  /-- Paths that are never written from a record. -/
  skipPaths : List String
  createdAtColumn : String
  createdByColumn : String
  createdDeptColumn : String
  updatedAtColumn : String
  updatedByColumn : String
  updatedDeptColumn : String
  actor : String
  department : String
  /-- The column of the marker, and its value in rows that are not deleted. -/
  deletedColumn : String
  notDeletedValue : String
  /-- The column that holds the identifiers of all ancestors. -/
  pathColumn : String
  deriving DecidableEq, Repr

namespace WriteSettings

def standard : WriteSettings :=
  { skipPaths := [idPath, "记录时间", "记录账户", "记录部门", "更新时间", "更新账户", "更新部门"]
    createdAtColumn := "RCDAT"
    createdByColumn := "RCOPR_ID"
    createdDeptColumn := "RCDPT_ID"
    updatedAtColumn := "RUDAT"
    updatedByColumn := "RUOPR_ID"
    updatedDeptColumn := "RUDPT_ID"
    actor := "-"
    department := "-"
    deletedColumn := "ISDEL"
    notDeletedValue := "N"
    pathColumn := "IDLJ" }

instance : Inhabited WriteSettings := ⟨standard⟩

/-- The columns that settings name. -/
def columns (s : WriteSettings) : List String :=
  [s.createdAtColumn, s.createdByColumn, s.createdDeptColumn, s.updatedAtColumn,
    s.updatedByColumn, s.updatedDeptColumn, s.deletedColumn, s.pathColumn]

/-- Check that every column is an identifier. -/
def check (s : WriteSettings) : Except Error Unit := s.columns.forM Sql.checkIdentifier

/-- Whether a path is never written from a record. -/
def isSkipped (s : WriteSettings) (path : String) : Bool := s.skipPaths.contains path

/-- The keys of settings. -/
def shape : Shape WriteSettings :=
  let text (name : String) (put : WriteSettings → String → WriteSettings) : Json.Key WriteSettings :=
    .of name false Json.readString put
  ⟨"WriteConfig",
    [⟨"skip_paths", false, fun o s n =>
        (Json.readList (fun _ => Json.readString) o n).map fun v => { s with skipPaths := v }⟩,
      text "created_at_column" fun s v => { s with createdAtColumn := v },
      text "created_by_column" fun s v => { s with createdByColumn := v },
      text "created_dept_column" fun s v => { s with createdDeptColumn := v },
      text "updated_at_column" fun s v => { s with updatedAtColumn := v },
      text "updated_by_column" fun s v => { s with updatedByColumn := v },
      text "updated_dept_column" fun s v => { s with updatedDeptColumn := v },
      text "actor" fun s v => { s with actor := v },
      text "department" fun s v => { s with department := v },
      text "deleted_column" fun s v => { s with deletedColumn := v },
      text "not_deleted_value" fun s v => { s with notDeletedValue := v },
      text "path_column" fun s v => { s with pathColumn := v }]⟩

def read (o : Origin) (n : Node) : Reading WriteSettings := shape.read standard o n

/-- The JSON form of settings. -/
def toJson (s : WriteSettings) : Json :=
  .object
    [("skip_paths", .array (s.skipPaths.map .string)),
      ("created_at_column", .string s.createdAtColumn),
      ("created_by_column", .string s.createdByColumn),
      ("created_dept_column", .string s.createdDeptColumn),
      ("updated_at_column", .string s.updatedAtColumn),
      ("updated_by_column", .string s.updatedByColumn),
      ("updated_dept_column", .string s.updatedDeptColumn),
      ("actor", .string s.actor), ("department", .string s.department),
      ("deleted_column", .string s.deletedColumn),
      ("not_deleted_value", .string s.notDeletedValue), ("path_column", .string s.pathColumn)]

end WriteSettings

end CardStore
