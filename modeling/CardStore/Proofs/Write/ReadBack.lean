/-
  CardStore.Proofs.Write.ReadBack
  ───────────────────────────────
  **WHAT IS WRITTEN IS READ BACK.**

  A record is written by the columns of its members, and read by paths, by
  aliases and by positional names.  On a server that keeps what it is given,
  the query of the identifier under which a record was saved answers one row,
  and the record of that row holds the values that were written.

  Main statements:
    * `Server.query_identified` — how a server answers a query by identifier.
    * `Server.reshape_of_keeps` — the record that is read where a record is kept.
    * `Card.Stores.exists_read` — a record that is kept is read by its identifier.
    * `Writer.read_back` — a record that is written is read back.
-/
import CardStore.Proofs.Query.Flat
import CardStore.Proofs.Query.Reshape
import CardStore.Proofs.Write.Store

namespace CardStore

/-! ## §1. The answer of a server. -/

/-- Something is read from what stands at each position. -/
theorem mapM_mapIdx_eq_some {α β γ : Type} {g : β → Option γ} {h : α → γ} : ∀ {as : List α}
    {f : Nat → α → β}, (∀ i, ∀ a ∈ as, g (f i a) = some (h a)) →
      (as.mapIdx f).mapM g = some (as.map h) := by
  intro as
  induction as with
  | nil =>
    intro f _
    rfl
  | cons a as ih =>
    intro f hg
    have hrest : (as.mapIdx fun i => f (i + 1)).mapM g = some (as.map h) :=
      ih fun i b hb => hg (i + 1) b (List.mem_cons_of_mem _ hb)
    rw [List.mapIdx_cons, List.mapM_cons, hg 0 a List.mem_cons_self, hrest]
    rfl

namespace Server

variable {s : Server} {card : SoundCard} {ps : List (String × String)}

/-- The names of the columns of a result. -/
def resultNames (ps : List (String × String)) : List String :=
  (idPath :: ps.map Prod.snd).mapIdx fun i _ => Sql.resultName i

/-- **A query by identifier** is answered by the row with the identifier, if there is one. -/
theorem query_identified (ht : s.table = card.table) (h : ∀ p ∈ ps, Sql.isIdentifier p.2 = true)
    (id : Value) :
    s.query ((Query.identified card ps id).text s.dialect) [id]
      = .ok ⟨resultNames ps, (s.rows id).toList.map fun row =>
        ⟨resultNames ps, (idPath :: ps.map Prod.snd).map fun column =>
          cell id row (Text.lowered column)⟩⟩ := by
  have hnames : (Query.found card ps id).columns.map Prod.snd = resultNames ps := by
    apply List.ext_getElem?
    intro i
    simp only [Query.found, resultNames, List.getElem?_map, List.getElem?_mapIdx,
      Option.map_map, Function.comp_def]
  have hcolumn {column : String} (hid : Sql.isIdentifier column = true) :
      column? (tableAlias 0) (columnText 0 column) = some (Text.lowered column) :=
    column?_qualified (Sql.isWord_tableAlias 0) (Sql.isWord_of_isIdentifier hid)
  have hcolumns : (Query.found card ps id).columns.mapM
      (fun c => column? (Query.found card ps id).name c.1)
        = some ((idPath :: ps.map Prod.snd).map Text.lowered) :=
    mapM_mapIdx_eq_some fun _ column hmem =>
      hcolumn (Query.isIdentifier_of_mem_found h column hmem)
  have hid : column? (Query.found card ps id).name (Query.found card ps id).column
      = some (Text.lowered idPath) := hcolumn (by decide)
  have hne : (Query.found card ps id).columns ≠ [] := by
    apply List.ne_nil_of_length_pos
    rw [Query.found, List.length_mapIdx]
    exact Nat.succ_pos _
  have hnamed : (Query.found card ps id).Named := Query.named_found h id
  have hquery := s.query_find hnamed hne
  rw [Query.text_identified]
  refine hquery.trans ?_
  rw [find, hcolumns]
  dsimp only
  rw [if_pos ⟨ht.symm, hid⟩, hnames]
  simp only [List.map_map]
  rfl

/-- **The record that is read** where a record is kept holds the values of that one. -/
theorem reshape_of_keeps (ht : s.table = card.table) (h : ∀ p ∈ ps, Sql.isIdentifier p.2 = true)
    (hnodup : (idPath :: ps.map Prod.fst).Nodup)
    (hapart : ∀ p ∈ ps, Text.lowered p.2 ≠ Text.lowered idPath) {id : Value} {r : Record}
    (hkeeps : s.Keeps id ps r) :
    ∃ rows record, s.query ((Query.identified card ps id).text s.dialect) [id] = .ok rows
      ∧ rows.reshape (Query.identified card ps id).model = [record]
      ∧ record.get? idPath = some id
      ∧ ∀ p ∈ ps, record.get? p.1 = some ((r.get? p.1).getD .null) := by
  obtain ⟨stored, hrow, hstored⟩ := hkeeps
  let values := (idPath :: ps.map Prod.snd).map fun column => cell id stored (Text.lowered column)
  let row : Row := ⟨resultNames ps, values⟩
  have hselected {i : Nat} {value : Value} (hi : i < (idPath :: ps.map Prod.snd).length)
      (hvalue : values[i]? = some value) : row.selected i = value :=
    Row.selected_of_positional hi hvalue
  refine ⟨⟨resultNames ps, [row]⟩, row.toRecord (idPath :: ps.map Prod.fst), ?_, rfl, ?_, ?_⟩
  · rw [query_identified ht h id, hrow]
    rfl
  · have hid : row.selected 0 = id := by
      refine hselected (Nat.succ_pos _) ?_
      show some (cell id stored (Text.lowered idPath)) = some id
      rw [cell, if_pos rfl]
    have hpath : (idPath :: ps.map Prod.fst)[0]? = some idPath := rfl
    rw [row.get?_toRecord hnodup hpath, hid]
  · intro p hp
    obtain ⟨i, hi⟩ := List.mem_iff_getElem?.1 hp
    have hcolumn : (idPath :: ps.map Prod.snd)[i + 1]? = some p.2 := by
      rw [List.getElem?_cons_succ, List.getElem?_map, hi]
      rfl
    have hpath : (idPath :: ps.map Prod.fst)[i + 1]? = some p.1 := by
      rw [List.getElem?_cons_succ, List.getElem?_map, hi]
      rfl
    have hvalue : row.selected (i + 1) = (r.get? p.1).getD .null := by
      refine hselected (List.getElem?_eq_some_iff.1 hcolumn).1 ?_
      rw [List.getElem?_map, hcolumn, Option.map_some, cell, if_neg (hapart p hp), hstored p hp]
    rw [row.get?_toRecord hnodup hpath, hvalue]

end Server

/-! ## §2. Models that are written as they are. -/

/-- The paths that a model stands for where records are written: an empty model and a star stand
for all members. -/
def Card.writtenPaths (card : Card) (model : List String) : List String :=
  if model = [] ∨ model = ["*"] then card.memberNames else model

/-- **A model that is written as it is**: its paths have one segment, none is the identifier or
skipped, and each names a member with a column of its own. -/
structure Card.Stores (card : Card) (settings : WriteSettings) (model : List String) : Prop where
  single : ∀ path ∈ card.writtenPaths model, pathSegments path = [path]
  noId : idPath ∉ card.writtenPaths model
  member : ∀ path ∈ card.writtenPaths model, (card.memberColumn? path).isSome = true
  kept : ∀ path ∈ card.writtenPaths model, settings.isSkipped path = false
  admits : settings.Admits ((card.writtenPaths model).filterMap card.memberColumn?)

namespace Card.Stores

variable {card : SoundCard} {settings : WriteSettings} {model : List String}

/-- The model that is read has the identifier in front. -/
theorem normalizeModel (h : card.Stores settings model) :
    card.normalizeModel model = idPath :: card.writtenPaths model := by
  have hid := h.noId
  unfold Card.normalizeModel
  unfold Card.writtenPaths at hid ⊢
  dsimp only
  split
  · rename_i hall
    rw [if_pos List.mem_cons_self]
  · rename_i hall
    rw [if_neg hall] at hid
    rw [if_neg hid]

variable (d : Sql.Dialect)

/-- All paths are written, each to the column of its member. -/
theorem writablePaths (h : card.Stores settings model) :
    (Writer.writablePaths ⟨card.toCard, settings, d⟩ model).map Prod.fst = card.writtenPaths model
      ∧ (Writer.writablePaths ⟨card.toCard, settings, d⟩ model).map Prod.snd
        = (card.writtenPaths model).filterMap card.memberColumn?
      ∧ ∀ p ∈ Writer.writablePaths ⟨card.toCard, settings, d⟩ model,
        card.memberColumn? p.1 = some p.2 := by
  have hkept : (card.writtenPaths model).filter (!settings.isSkipped ·)
      = card.writtenPaths model := by
    rw [List.filter_eq_self]
    intro path hpath
    rw [h.kept path hpath]
    rfl
  have hpaths : Writer.writablePaths ⟨card.toCard, settings, d⟩ model
      = (card.writtenPaths model).filterMap fun path =>
        (card.memberColumn? path).map fun column => (path, column) :=
    congrArg (List.filterMap _) hkept
  rw [hpaths]
  refine ⟨?_, ?_, ?_⟩
  · have hfirst : ∀ path ∈ card.writtenPaths model,
        ((card.memberColumn? path).map fun column => (path, column)).map Prod.fst = some path := by
      intro path hpath
      obtain ⟨column, hcolumn⟩ := Option.isSome_iff_exists.1 (h.member path hpath)
      rw [hcolumn]
      rfl
    rw [List.map_filterMap, List.filterMap_congr hfirst, List.filterMap_some]
  · have hsecond : ∀ path ∈ card.writtenPaths model,
        ((card.memberColumn? path).map fun column => (path, column)).map Prod.snd
          = card.memberColumn? path := by
      intro path _
      rw [Option.map_map]
      exact Option.map_id'
    rw [List.map_filterMap, List.filterMap_congr hsecond]
  · intro p hp
    obtain ⟨path, _, hmapped⟩ := List.mem_filterMap.1 hp
    obtain ⟨column, hcolumn, rfl⟩ := Option.map_eq_some_iff.1 hmapped
    exact hcolumn

/-- The paths are all different, as their columns are. -/
theorem nodup_paths (h : card.Stores settings model) :
    (idPath :: card.writtenPaths model).Nodup := by
  obtain ⟨hfst, hsnd, hcolumn⟩ := h.writablePaths .mysql
  refine List.nodup_cons.2 ⟨h.noId, ?_⟩
  have hlowered : (card.writtenPaths model).map
      (fun path => Text.lowered ((card.memberColumn? path).getD ""))
        = ((card.writtenPaths model).filterMap card.memberColumn?).map Text.lowered := by
    rw [← hsnd, ← hfst, List.map_map, List.map_map]
    refine List.map_congr_left fun p hp => ?_
    show Text.lowered ((card.memberColumn? p.1).getD "") = Text.lowered p.2
    rw [hcolumn p hp]
    rfl
  have hnodup := h.admits.nodup
  rw [← hlowered] at hnodup
  exact hnodup.of_map _

/-- Each path leads to the column that it is written to. -/
theorem leads (h : card.Stores settings model) :
    ∀ p ∈ Writer.writablePaths ⟨card.toCard, settings, d⟩ model, card.Leads p.1 p.2 := by
  obtain ⟨hfst, _, hcolumn⟩ := h.writablePaths d
  intro p hp
  have hpath : p.1 ∈ card.writtenPaths model := by
    rw [← hfst]
    exact List.mem_map_of_mem hp
  refine Card.leads_of_memberColumn? (h.single p.1 hpath) ?_ (hcolumn p hp)
  intro hid
  exact h.noId (hid ▸ hpath)

/-- **A record that is kept is read**: the query of its identifier is compiled without a look-up,
and a server that keeps the record answers it by one row, which holds all values. -/
theorem exists_read (h : card.Stores settings model) {s : Server} (ht : s.table = card.table)
    {id : Value} {r : Record}
    (hkeeps : s.Keeps id (Writer.writablePaths ⟨card.toCard, settings, d⟩ model) r)
    {σ : Type} (b : Backend σ) (c : Context σ) :
    ∃ q rows record,
      (Cards.withLoads b (Query.compile card model (.byId id))).run c = (.ok q, c)
        ∧ s.query (q.text s.dialect) q.params = .ok rows
        ∧ rows.reshape q.model = [record]
        ∧ record.get? idPath = some id
        ∧ ∀ path ∈ card.writtenPaths model,
          record.get? path = some ((r.get? path).getD .null) := by
  obtain ⟨hfst, hsnd, hcolumn⟩ := h.writablePaths d
  let ps := Writer.writablePaths ⟨card.toCard, settings, d⟩ model
  have hpaths : card.normalizeModel model = idPath :: ps.map Prod.fst := by
    rw [h.normalizeModel, hfst]
  have hnodup : (idPath :: ps.map Prod.fst).Nodup := by
    rw [hfst]
    exact h.nodup_paths
  have hcompiled := Query.run_compile_byId b c hpaths (h.leads d) (List.nodup_cons.1 hnodup).1 id
  have hidentifiers : ∀ p ∈ ps, Sql.isIdentifier p.2 = true :=
    fun p hp => SoundCard.isIdentifier_memberColumn? (hcolumn p hp)
  have hapart : ∀ p ∈ ps, Text.lowered p.2 ≠ Text.lowered idPath := by
    intro p hp
    have hwritten : p.2 ∈ (card.writtenPaths model).filterMap card.memberColumn? := by
      rw [← hsnd]
      exact List.mem_map_of_mem hp
    exact Text.eqIgnoreCase_eq_false_iff.1 (h.admits.apart p.2 hwritten idPath List.mem_cons_self)
  obtain ⟨rows, record, hrows, hreshape, hgot, hvalues⟩ :=
    Server.reshape_of_keeps ht hidentifiers hnodup hapart hkeeps
  refine ⟨_, rows, record, hcompiled, hrows, hreshape, hgot, fun path hpath => ?_⟩
  rw [← hfst] at hpath
  obtain ⟨p, hp, rfl⟩ := List.mem_map.1 hpath
  exact hvalues p hp

end Card.Stores

/-! ## §3. Writing and reading. -/

namespace Writer

variable [DecidableEq Value]

/-- A server that reports the rows it found saves every record, if a new identifier is new. -/
theorem exists_saved {w : Writer} {paths : List (String × String)} {s : Server}
    (hd : s.dialect = w.dialect) (ht : s.table = w.card.table) (hn : w.Named paths)
    (hc : w.settings.Admits (paths.map Prod.snd)) (ho : Text.Differ w.settings.ownColumns)
    (hcounting : s.counting = .matched) {r : Record}
    (hfresh : r.hasId = false → s.rows (.string s.ids.text) = none) :
    ∃ saved, (s.perform (w.save paths r)).1 = .ok saved := by
  cases hhas : r.hasId with
  | true =>
    obtain ⟨id, hid, htruthy⟩ := Record.hasId_eq_true_iff.1 hhas
    cases hrow : s.rows id with
    | some row =>
      have hreported : s.reported row (s.values (w.changes paths r)) = 1 := by
        rw [Server.reported, hcounting]
      rw [perform_save_of_row hd ht hn hc ho hid htruthy hrow, hreported]
      exact ⟨r, rfl⟩
    | none =>
      rw [perform_save_of_no_row hd ht hn hc ho hid htruthy hrow]
      exact ⟨r, rfl⟩
  | false =>
    rw [perform_save_of_fresh hd ht hn hc ho hhas (hfresh hhas)]
    exact ⟨_, rfl⟩

/-- **What is written is read back.**  A write of a record succeeds on a server that reports the
rows it found.  After every write that succeeds, the query of the identifier of the saved record
is compiled without a look-up, and the server answers it by one row, the record of which holds
what was written under every path, and null where the record had no value. -/
theorem read_back (card : SoundCard) (settings : WriteSettings)
    (hcheck : settings.check = .ok ()) (s : Server) (ht : s.table = card.table)
    (model : List String) (hmodel : card.Stores settings model) (r : Record) :
    let write := Writer.writeRecords ⟨card.toCard, settings, s.dialect⟩ model [r]
    (s.counting = .matched → Text.Differ settings.ownColumns →
        (r.hasId = false → s.rows (.string s.ids.text) = none) →
        ∃ saved s', s.perform write = (.ok [saved], s'))
      ∧ ∀ records s', s.perform write = (.ok records, s') →
        ∃ saved id, records = [saved] ∧ saved.id? = some id
          ∧ ∀ (σ : Type) (b : Backend σ) (c : Context σ), ∃ q rows record,
            (Cards.withLoads b (Query.compile card model (.byId id))).run c = (.ok q, c)
              ∧ s'.query (q.text s.dialect) q.params = .ok rows
              ∧ rows.reshape q.model = [record]
              ∧ record.get? idPath = some id
              ∧ ∀ path ∈ card.writtenPaths model,
                record.get? path = some ((r.get? path).getD .null) := by
  intro write
  let w : Writer := ⟨card.toCard, settings, s.dialect⟩
  obtain ⟨_, hsnd, _⟩ := hmodel.writablePaths s.dialect
  have hn : w.Named (w.writablePaths model) := named_writablePaths hcheck card s.dialect model
  have hc : w.settings.Admits ((w.writablePaths model).map Prod.snd) := by
    rw [hsnd]
    exact hmodel.admits
  have hwrite : s.perform write = _ := perform_writeRecords_singleton w s model r
  rw [hwrite]
  refine ⟨fun hcounting ho hfresh => ?_, fun records s' hrecords => ?_⟩
  · obtain ⟨saved, hsaved⟩ := exists_saved (s := s) (w := w) rfl ht hn hc ho hcounting hfresh
    rw [hsaved]
    exact ⟨saved, _, rfl⟩
  · obtain ⟨saved, hsave, rfl⟩ : ∃ saved, s.perform (w.save (w.writablePaths model) r)
        = (.ok saved, s') ∧ [saved] = records := by
      revert hrecords
      cases s.perform (w.save (w.writablePaths model) r) with
      | mk answer s₁ =>
        cases answer with
        | error e => exact nofun
        | ok saved =>
          intro hrecords
          cases hrecords
          exact ⟨saved, rfl, rfl⟩
    obtain ⟨id, hid, hkeeps, hfollows⟩ := keeps_of_perform_save (w := w) rfl hn hc hsave
    refine ⟨saved, id, rfl, hid, fun σ b c => ?_⟩
    rw [← hfollows.dialect]
    exact hmodel.exists_read s.dialect (hfollows.table.trans ht) hkeeps b c

end Writer

/-! ## §4. A person that is read back. -/

/-- All members of a person are written, each to a column of its own. -/
theorem stores_personCard : personCard.Stores .standard ["*"] where
  single := by decide +kernel
  noId := by decide +kernel
  member := by decide +kernel
  kept := by decide +kernel
  admits := ⟨by decide +kernel, by decide +kernel⟩

/-- A server that keeps people. -/
def staffServer : Server := .empty .mysql "STAFF" .matched fun _ => .int 0

/-- A person without an identifier and without a department. -/
def newPerson : Record := .ofList [("name", .string "Li")]

open Classical in
/-- A new person is inserted under a new identifier, and read back by it. -/
theorem read_back_newPerson :
    ∃ s saved id q rows record, staffServer.perform (Writer.writeRecords
        ⟨personCard.toCard, .standard, staffServer.dialect⟩ ["*"] [newPerson]) = (.ok [saved], s)
      ∧ saved.id? = some id
      ∧ ((Cards.withLoads .unreachable (Query.compile personCard ["*"] (.byId id))).run
        (Context.ofBackend () default)).1 = .ok q
      ∧ s.query (q.text staffServer.dialect) q.params = .ok rows
      ∧ rows.reshape q.model = [record]
      ∧ record.get? "name" = some (.string "Li") ∧ record.get? "department" = some .null := by
  have hcheck : WriteSettings.standard.check = .ok () := by decide +kernel
  have hown : Text.Differ WriteSettings.standard.ownColumns := by decide +kernel
  have hpaths : personCard.writtenPaths ["*"] = ["name", "department"] := by decide +kernel
  have hnew : staffServer.rows (.string staffServer.ids.text) = none := rfl
  have hname : (newPerson.get? "name").getD .null = .string "Li" := rfl
  have hdepartment : (newPerson.get? "department").getD .null = .null := rfl
  obtain ⟨hsucceeds, hread⟩ := Writer.read_back personCard .standard hcheck staffServer rfl
    ["*"] stores_personCard newPerson
  obtain ⟨saved, s, hsaved⟩ := hsucceeds rfl hown fun _ => hnew
  obtain ⟨first, id, hfirst, hid, hanswer⟩ := hread [saved] s hsaved
  obtain rfl : saved = first := (List.cons.inj hfirst).1
  obtain ⟨q, rows, record, hcompiled, hrows, hreshape, _, hvalues⟩ :=
    hanswer Unit .unreachable (.ofBackend () default)
  rw [hpaths] at hvalues
  refine ⟨s, saved, id, q, rows, record, hsaved, hid, congrArg Prod.fst hcompiled, hrows,
    hreshape, ?_, ?_⟩
  · rw [hvalues "name" (by simp), hname]
  · rw [hvalues "department" (by simp), hdepartment]

end CardStore
