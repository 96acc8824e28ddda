/-
  CardStore.Proofs.Query.Outlast
  ──────────────────────────────
  **WHAT OUTLASTS RESOLVING.**

  Resolving joins the target of a reference to a table of the card that the
  reference belongs to, and does nothing else to tables.  So a property of
  tables that outlasts one such join outlasts the paths of a whole query.  One
  of these is that all tables belong to cards that references lead to, each
  joined for the target of a reference over its column.

  Main statements:
    * `Tables.Outlasts.walk` — what outlasts a join outlasts a walk.
    * `Query.outlasts_resolveModel`, `Query.outlasts_resolveAll` — and all paths of a query.
    * `Tables.outlasts_faithful` — tables of the targets stay tables of the targets.
-/
import CardStore.Proofs.Query.Destination

namespace CardStore

variable {cards : String → Except Error SoundCard}

namespace Query

theorem eval_resolve (t : Tables) (path : String) : (resolve t path).run.eval cards
    = ((t.resolve path).eval cards).1.map fun ref => (ref, ((t.resolve path).eval cards).2) :=
  Script.eval_andThen _ _ _

theorem not_mem_pathSegments (path : String) : ∀ name ∈ pathSegments path, '.' ∉ name.toList :=
  fun _ hname => Text.not_mem_of_mem_splitAt hname

end Query

/-! ## §1. What outlasts a join. -/

namespace Tables

/-- **A property of tables that outlasts a join**: the target of a reference is joined to a table of
its card, over a column that nothing is joined over there yet. -/
def Outlasts (cards : String → Except Error SoundCard) (P : Tables → Prop) : Prop :=
  ∀ (t : Tables) (position : Nat) (card target : SoundCard) (name : String) (r : Reference),
    t.cardAt? position = some card → card.Crosses name r → t.find? position r.column = none →
      cards r.target = .ok target → P t → P (t.push ⟨position, r.column, target⟩)

/-- **What outlasts a join outlasts a walk**, wherever the walk ends.  The induction is on the
names that are left. -/
theorem Outlasts.walk {P : Tables → Prop} (h : Outlasts cards P) (path : String) :
    ∀ (names : List String) (position : Nat) (card : SoundCard) (t : Tables),
      (∀ name ∈ names, '.' ∉ name.toList) → t.cardAt? position = some card → P t →
        P ((walk path position card names t).eval cards).2 := by
  intro names
  induction names with
  | nil => exact fun _ _ _ _ _ ht => ht
  | cons name rest ih =>
    intro position card t hnames hcard ht
    obtain ⟨hname, hrests⟩ := List.forall_mem_cons.1 hnames
    unfold Tables.walk
    split
    · exact ht
    · rename_i m hm
      split
      · exact ht
      · split
        · rename_i r
          split
          · rename_i hfind
            exact ih _ _ _ hrests (cardAt?_of_find? hfind) ht
          · rename_i hnew
            rw [Script.eval]
            split
            · exact ht
            · rename_i target htarget
              exact ih _ _ _ hrests (cardAt?_push_size t _)
                (h t position card target name r hcard ⟨hname, hm⟩ hnew htarget ht)
        · exact ht

theorem Outlasts.resolve {P : Tables → Prop} (h : Outlasts cards P) {t : Tables} (ht : P t)
    (path : String) : P ((t.resolve path).eval cards).2 :=
  h.walk path _ 0 t.root t (Query.not_mem_pathSegments path) rfl ht

end Tables

namespace Query

open Tables (Outlasts)

variable {P : Tables → Prop}

theorem outlasts_resolve (h : Outlasts cards P) {t t' : Tables} (ht : P t) {path : String}
    {ref : ColumnRef} (hr : (resolve t path).run.eval cards = .ok (ref, t')) : P t' := by
  have hlater := h.resolve ht path
  rw [eval_resolve] at hr
  cases hanswer : ((t.resolve path).eval cards).1 with
  | error e =>
    rw [hanswer] at hr
    cases hr
  | ok found =>
    rw [hanswer] at hr
    rw [← (Prod.mk.inj (Except.ok.inj hr)).2]
    exact hlater

theorem outlasts_resolveModel (h : Outlasts cards P) : ∀ (paths : List String)
    {columns columns' : List ColumnRef} {t t' : Tables}, P t →
      (resolveModel paths columns t).run.eval cards = .ok (columns', t') → P t' := by
  intro paths
  induction paths with
  | nil =>
    intro columns columns' t t' ht hr
    have hpair : (columns, t) = (columns', t') := Except.ok.inj hr
    rw [← (Prod.mk.inj hpair).2]
    exact ht
  | cons path paths ih =>
    intro columns columns' t t' ht hr
    obtain ⟨⟨ref, t''⟩, hfirst, hr⟩ := Script.eval_bind_eq_ok_iff.1 hr
    exact ih (outlasts_resolve h ht hfirst) hr

theorem outlasts_resolveMore (h : Outlasts cards P) : ∀ (paths : List String)
    {columns columns' : ColumnMap} {t t' : Tables}, P t →
      (resolveMore paths columns t).run.eval cards = .ok (columns', t') → P t' := by
  intro paths
  induction paths with
  | nil =>
    intro columns columns' t t' ht hr
    have hpair : (columns, t) = (columns', t') := Except.ok.inj hr
    rw [← (Prod.mk.inj hpair).2]
    exact ht
  | cons path paths ih =>
    intro columns columns' t t' ht hr
    rw [resolveMore] at hr
    split at hr
    · exact ih ht hr
    · obtain ⟨⟨ref, t''⟩, hfirst, hr⟩ := Script.eval_bind_eq_ok_iff.1 hr
      exact ih (outlasts_resolve h ht hfirst) hr

/-- **What outlasts a join outlasts resolving** all paths of a query. -/
theorem outlasts_resolveAll (h : Outlasts cards P) {card : SoundCard} {model paths : List String}
    {r : Resolved} (hroot : P ⟨card, []⟩)
    (hr : (resolveAll card model paths).run.eval cards = .ok r) : P r.tables := by
  obtain ⟨⟨selected, t⟩, hmodel, hr⟩ := Script.eval_bind_eq_ok_iff.1 hr
  obtain ⟨⟨columns, t'⟩, hmore, hr⟩ := Script.eval_bind_eq_ok_iff.1 hr
  obtain rfl := Except.ok.inj hr
  exact outlasts_resolveMore h _ (outlasts_resolveModel h _ hroot hmodel) hmore

end Query

/-- **Tables of the targets** stay tables of the targets. -/
theorem Tables.outlasts_faithful (root : SoundCard) :
    Outlasts cards (Faithful cards root) :=
  fun _ _ _ _ _ _ hcard hcross hnew htarget ht => ht.push hcard hcross hnew htarget

end CardStore
