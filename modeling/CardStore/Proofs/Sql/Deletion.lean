/-
  CardStore.Proofs.Sql.Deletion
  ─────────────────────────────
  **WHAT A SERVER PREPARES OF A DELETION.**

  A deletion takes the row whose identifier is bound to its first slot and, if
  a path column is named, all rows whose path is like a pattern.  The pattern
  is put together by the server, of literals and of the second slot.

      MySQL    DELETE FROM T WHERE ID=? OR P LIKE CONCAT('%',?,'%')
      Oracle   DELETE FROM T WHERE ID=:1 OR P LIKE '%'||:2||'%'
      read     ID = #1   or   P like  '%' #2 '%'

  Main statement:
    * `PreparedDelete.ofText?_render` — what is prepared of a deletion.
-/
import CardStore.Proofs.Sql.Prepared

namespace CardStore.Sql

open Sql.Token (keyword)

/-! ## §1. The parts of a deletion. -/

namespace Dialect

/-- The two literals of a pattern that may have any text at both ends. -/
def anyText : Part := .same (.literal ['%'])

/-- The parts of a pattern that one parameter is to be found in. -/
def patternParts : Dialect → List Part
  | .mysql =>
    .same (keyword "CONCAT") :: .same .opening
      :: ([anyText, .same .comma, .slot, .same .comma, anyText] ++ [.same .closing])
  | .oracle =>
    [anyText, .same (.other '|'), .same (.other '|'), .slot, .same (.other '|'),
      .same (.other '|'), anyText]

theorem text_patternParts (d : Dialect) :
    d.patternParts.flatMap Part.text = d.containsPattern.toList := by
  cases d <;> decide

theorem composed_anyText (d : Dialect) : Part.Composed d [anyText] := by
  refine .singleton ⟨⟨['%'], ?_⟩, by decide, by decide⟩
  cases d <;> decide

theorem composed_slot (d : Dialect) : Part.Composed d [.slot] :=
  .singleton (show Part.Written d .slot from trivial)

theorem composed_patternParts (d : Dialect) : Part.Composed d d.patternParts := by
  have hany := composed_anyText d
  cases d with
  | mysql =>
    have hbehind : Part.Composed .mysql [.slot, .same .comma, anyText] :=
      (composed_slot _).append_free Part.free_comma (Part.written_comma _) hany
    have hinner : Part.Composed .mysql [anyText, .same .comma, .slot, .same .comma, anyText] :=
      hany.append_free Part.free_comma (Part.written_comma _) hbehind
    have hplain : ∀ p ∈ [anyText, .same .comma, .slot, .same .comma, anyText],
        p ≠ .same .opening ∧ p ≠ .same .closing := by
      simp [anyText]
    have hbrackets := hinner.brackets (List.cons_ne_nil _ _) hplain .nil
    refine hbrackets.cons (Part.written_word (Token.written_word (by decide))) ?_
    intro p hp
    rw [← Option.some.inj hp]
    exact ⟨trivial, fun h => absurd h.2 (by decide)⟩
  | oracle =>
    have hbar : Part.Free (.same (.other '|')) := Part.free_same rfl (by decide) (by decide)
    have hwritten : Part.Written .oracle (.same (.other '|')) :=
      ⟨⟨by decide, by decide, by decide, by decide⟩, by decide, by decide⟩
    have hbehind : Part.Composed .oracle
        [.slot, .same (.other '|'), .same (.other '|'), anyText] :=
      (composed_slot _).append_free hbar hwritten
        (Part.Composed.nil.append_free hbar hwritten hany)
    exact hany.append_free hbar hwritten (Part.Composed.nil.append_free hbar hwritten hbehind)

end Dialect

namespace Delete

/-- The parts of the condition on the path column. -/
def pathParts (d : Dialect) : Option String → List Part
  | none => []
  | some column =>
    .same .blank :: .same (keyword "OR") :: .same .blank :: .same (.word column.toList)
      :: .same .blank :: .same (keyword "LIKE") :: .same .blank :: d.patternParts

/-- The parts that a deletion is written as. -/
def parts (d : Dialect) (x : Delete) : List Part :=
  [keyword "DELETE", .blank, keyword "FROM", .blank, .word x.table.toList, .blank,
      keyword "WHERE", .blank, .word idPath.toList, .comparison ['=']].map .same
    ++ .slot :: pathParts d x.pathColumn

theorem text_parts (d : Dialect) (x : Delete) :
    String.ofList ((x.parts d).flatMap Part.text) = x.text d := by
  have hfront : "DELETE FROM ".toList = "DELETE".toList ++ ' ' :: ("FROM".toList ++ [' ']) := by
    decide
  have hwhere : " WHERE ".toList = ' ' :: ("WHERE".toList ++ [' ']) := by decide
  have hslot : "=?".toList = ['=', Sql.slot] := by decide
  have hor : " OR ".toList = ' ' :: ("OR".toList ++ [' ']) := by decide
  have hlike : " LIKE ".toList = ' ' :: ("LIKE".toList ++ [' ']) := by decide
  have hcondition : ((x.parts d).take 11).flatMap Part.text
      = ("DELETE FROM " ++ x.table ++ " WHERE " ++ idPath ++ "=?").toList := by
    simp only [parts, List.map_cons, List.map_nil, List.cons_append, List.nil_append,
      List.take_succ_cons, List.take_zero, List.flatMap_cons, List.flatMap_nil, Part.text,
      Part.tokens, Token.source, keyword, String.toList_append, hfront, hwhere, hslot]
    simp only [List.append_assoc, List.cons_append, List.nil_append, List.append_nil]
  have hsplit : x.parts d = (x.parts d).take 11 ++ pathParts d x.pathColumn := rfl
  rw [← String.toList_inj, String.toList_ofList, hsplit, List.flatMap_append, hcondition]
  obtain ⟨table, column, id⟩ := x
  cases column with
  | none =>
    show ("DELETE FROM " ++ table ++ " WHERE " ++ idPath ++ "=?").toList ++ [] = ("DELETE FROM "
      ++ table ++ " WHERE " ++ idPath ++ "=?" ++ "").toList
    rw [List.append_nil, String.append_empty]
  | some column =>
    have hpath : (pathParts d (some column)).flatMap Part.text
        = (" OR " ++ column ++ " LIKE " ++ d.containsPattern).toList := by
      simp only [pathParts, List.flatMap_cons, List.flatMap_nil, Part.text, Part.tokens,
        Token.source, keyword, String.toList_append, hor, hlike, ← d.text_patternParts]
      simp only [List.append_assoc, List.cons_append, List.nil_append]
    show _ ++ (pathParts d (some column)).flatMap Part.text = _
    rw [hpath, ← String.toList_append]
    rfl

theorem composed_parts (d : Dialect) {x : Delete} (ht : IsWord x.table)
    (hp : ∀ column ∈ x.pathColumn, IsWord column) : Part.Composed d (x.parts d) := by
  have hword {s : String} (h : IsWord s) : (Token.word s.toList).Written d := Token.written_word h
  have hid := Part.Composed.assigned (hword (s := idPath) (by decide)) (.bound .null)
  have hcondition : Part.Composed d (([.word idPath.toList, .comparison ['=']] : List Token).map
      .same ++ .slot :: pathParts d x.pathColumn) := by
    cases hcolumn : x.pathColumn with
    | none => exact hid
    | some column =>
      have hpattern : Part.Composed d (.same (.word column.toList) :: .same .blank
          :: .same (keyword "LIKE") :: .same .blank :: d.patternParts) :=
        .word_blank (hword (hp column hcolumn))
          (.word_blank (hword (by decide)) d.composed_patternParts)
      exact hid.append_blank (.word_blank (hword (s := "OR") (by decide)) hpattern)
  refine .word_blank (hword (s := "DELETE") (by decide)) ?_
  refine .word_blank (hword (s := "FROM") (by decide)) ?_
  refine .word_blank (hword ht) ?_
  exact .word_blank (hword (s := "WHERE") (by decide)) hcondition

end Delete

/-! ## §2. Deletions are read. -/

/-- A deletion whose parameters are not bound yet. -/
structure PreparedDelete where
  table : String
  /-- The slot of the identifier. -/
  id : Nat
  /-- The path column, and the terms that its pattern is put together of. -/
  path : Option (String × List PreparedTerm)
  deriving DecidableEq, Repr

namespace PreparedDelete

/-- Terms that are joined by bars, each of which is one lexeme. -/
def readJoined? (d : Dialect) : List Lexeme → Option (List PreparedTerm)
  | [l] => (PreparedTerm.read? d [l]).map ([·])
  | l :: .token (.other '|') :: .token (.other '|') :: ls => do
    let o ← PreparedTerm.read? d [l]
    let os ← readJoined? d ls
    some (o :: os)
  | _ => none

/-- The terms that a pattern is put together of: MySQL calls a function for it. -/
def readPattern? : Dialect → List Lexeme → Option (List PreparedTerm)
  | .mysql, function :: .token .opening :: body =>
    if function = .token (keyword "CONCAT") ∧ body.getLast? = some (.token .closing) then
      (body.dropLast.splitOn (.token .comma)).mapM (PreparedTerm.read? .mysql)
    else none
  | .mysql, _ => none
  | .oracle, ls => readJoined? .oracle ls

/-- Read the condition on the path column, if there is one. -/
def readPath? (d : Dialect) : List Lexeme → Option (Option (String × List PreparedTerm))
  | [] => some none
  | or :: .token (.word column) :: like :: ls =>
    if or = .token (keyword "OR") ∧ like = .token (keyword "LIKE") then
      (readPattern? d ls).map fun os => some (String.ofList column, os)
    else none
  | _ => none

/-- Read a deletion. -/
def read? (d : Dialect) : List Lexeme → Option PreparedDelete
  | delete :: source :: .token (.word table) :: word :: id :: sign :: .bind n :: rest =>
    if delete = .token (keyword "DELETE") ∧ source = .token (keyword "FROM")
        ∧ word = .token (keyword "WHERE") ∧ id = .token (.word idPath.toList)
        ∧ sign = .token (.comparison ['=']) then
      (readPath? d rest).map fun path => ⟨String.ofList table, n, path⟩
    else none
  | _ => none

/-- The deletion that a server prepares of a native text. -/
def ofText? (d : Dialect) (native : String) : Option PreparedDelete :=
  (d.prepare? native).bind (read? d)

end PreparedDelete

/-- What is prepared of a deletion. -/
def Delete.prepared (x : Delete) : PreparedDelete :=
  ⟨x.table, 1, x.pathColumn.map fun column => (column, [.literal "%", .slot 2, .literal "%"])⟩

namespace PreparedDelete

theorem readPattern?_patternParts (d : Dialect) :
    readPattern? d (Part.eachFrom d.reading 1 d.patternParts)
      = some [.literal "%", .slot 2, .literal "%"] := by
  cases d <;> decide

theorem readPath?_pathParts (d : Dialect) (column : Option String) :
    readPath? d (Part.eachFrom d.reading 1 (Delete.pathParts d column))
      = some (column.map fun column => (column, [.literal "%", .slot 2, .literal "%"])) := by
  cases column with
  | none => rfl
  | some column =>
    show readPath? d (.token (keyword "OR") :: .token (.word column.toList)
      :: .token (keyword "LIKE") :: Part.eachFrom d.reading 1 d.patternParts) = _
    rw [readPath?, if_pos ⟨rfl, rfl⟩, readPattern?_patternParts, String.ofList_toList]
    rfl

/-- **What is prepared of a deletion.** -/
theorem ofText?_render (d : Dialect) {x : Delete} (ht : IsWord x.table)
    (hp : ∀ column ∈ x.pathColumn, IsWord column) :
    ofText? d (d.render (x.text d)) = some x.prepared := by
  rw [ofText?, ← Delete.text_parts, d.prepare?_render (Delete.composed_parts d ht hp),
    Option.bind_some]
  show read? d (.token (keyword "DELETE") :: .token (keyword "FROM")
    :: .token (.word x.table.toList) :: .token (keyword "WHERE")
    :: .token (.word idPath.toList) :: .token (.comparison ['=']) :: .bind 1
    :: Part.eachFrom d.reading 1 (Delete.pathParts d x.pathColumn)) = _
  rw [read?, if_pos ⟨rfl, rfl, rfl, rfl, rfl⟩, readPath?_pathParts, String.ofList_toList]
  rfl

end PreparedDelete

/-! ## §3. Rows. -/

/-- What the conditions of deletions are about in a row. -/
structure RowFacts where
  /-- Whether the identifier of the row is a value. -/
  hasId : Value → Bool
  /-- Whether what stands in a column is like a pattern, whose slots are bound to parameters. -/
  isLike : String → List PreparedTerm → List Value → Bool

/-- Whether a deletion takes a row once its parameters are bound: the identifier is the one, or the
path is like the pattern. -/
def PreparedDelete.takes (p : PreparedDelete) (params : List Value) (row : RowFacts) : Bool :=
  params[p.id - 1]?.any row.hasId
    || p.path.any fun (column, os) => row.isLike column os params

/-- A deletion takes the row of its identifier, whatever else it takes. -/
theorem Delete.takes_of_hasId {x : Delete} {row : RowFacts} (h : row.hasId x.id = true) :
    x.prepared.takes x.params row = true := by
  have hbound : x.params[x.prepared.id - 1]? = some x.id := by
    cases hcolumn : x.pathColumn with
    | none =>
      rw [params, hcolumn]
      rfl
    | some column =>
      rw [params, hcolumn]
      rfl
  rw [PreparedDelete.takes, hbound, Option.any_some, h, Bool.true_or]

end CardStore.Sql
