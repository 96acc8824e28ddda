/-
  CardStore.Proofs.Query.Destination
  ──────────────────────────────────
  **WHERE PATHS LEAD, AND WHICH TABLES THEY FIND.**

  A path crosses references, each of which leads to its own target, and names
  a member of the card that it reaches.  A walk leads there if it finds the
  right tables: on the tables of a root alone it finds none and joins its own,
  one behind another.  A later walk goes along tables that are joined already
  where it crosses a column that was crossed before, and a table that was
  joined for another reference over that column need not be the one of its
  target.  It is if the card of the root is unforked.

  Main statements:
    * `Tables.Guides.walk` — walks that find the right tables lead where the references lead.
    * `Tables.guides_last` — a path on its own finds them.
    * `Tables.guides_faithful` — so does a path behind others of an unforked card.
    * `Tables.exists_walk_of_through` — a path that is walked again goes along its own tables.
-/
import CardStore.Proofs.Cards.Steady
import CardStore.Proofs.Query.Shared

namespace CardStore

/-! ## §1. Following references. -/

/-- Where a path leads: over the references that it crosses, to a column and its type. -/
structure Destination where
  hops : List Hop
  column : String
  type : String
  deriving DecidableEq

/-- Where the column of a table is. -/
def Tables.destination (t : Tables) (ref : ColumnRef) : Destination :=
  ⟨t.trail ref.table, ref.column, ref.type⟩

namespace Card

/-- A name that can stand in a path is that of a reference of the card. -/
def Crosses (card : Card) (name : String) (r : Reference) : Prop :=
  '.' ∉ name.toList ∧ card.member? name = some (.reference r)

end Card

variable (cards : String → Except Error SoundCard)

/-- **Where names lead** from a card if each reference leads to its own target; `hops` are those
behind which the card was reached. -/
def followFrom (path : String) (root : SoundCard) (hops : List Hop) (card : SoundCard) :
    List String → Except Error Destination
  | [] => .error (.unresolvedPath path root.name path)
  | name :: rest => match card.member? name with
    | none => .error (.unresolvedPath path card.name name)
    | some member =>
      if rest.isEmpty then .ok ⟨hops, member.column.1, member.column.2⟩
      else match member with
        | .reference r => match cards r.target with
          | .error e => .error e
          | .ok target => followFrom path root (hops ++ [⟨r.column, target⟩]) target rest
        | _ => .error (.unresolvedPath path card.name name)

/-- **Where a path leads** from a card if each reference leads to its own target. -/
def follow (root : SoundCard) (path : String) : Except Error Destination :=
  followFrom cards path root [] root (pathSegments path)

theorem followFrom_of_crosses {cards : String → Except Error SoundCard} (path : String)
    (root : SoundCard) (hops : List Hop) {card target : SoundCard} {name : String}
    {rest : List String} {r : Reference} (hcross : card.Crosses name r) (hrest : rest ≠ [])
    (htarget : cards r.target = .ok target) :
    followFrom cards path root hops card (name :: rest)
      = followFrom cards path root (hops ++ [⟨r.column, target⟩]) target rest := by
  have hmore : rest.isEmpty = false := List.isEmpty_eq_false_iff.2 hrest
  rw [followFrom, hcross.2]
  dsimp only
  rw [hmore, if_neg Bool.false_ne_true, htarget]

/-- Names that lead from a card to another one, over references and their targets. -/
inductive Through : SoundCard → List String → List Hop → SoundCard → Prop where
  | nil (card : SoundCard) : Through card [] [] card
  | cons {card target last : SoundCard} {name : String} {names : List String} {hops : List Hop}
      {r : Reference} :
    card.Crosses name r → cards r.target = .ok target → Through target names hops last →
      Through card (name :: names) (⟨r.column, target⟩ :: hops) last

/-- **An unforked card**: wherever references lead from it, those of a card that lie over one
column lead to one card. -/
def Unforked (root : SoundCard) : Prop :=
  ∀ names hops card, Through cards root names hops card →
    ∀ name name' r r' target, card.Crosses name r → card.Crosses name' r' →
      r.column = r'.column → cards r.target = .ok target → cards r'.target = .ok target

variable {cards}

namespace Through

variable {card last : SoundCard} {names : List String} {hops : List Hop}

/-- One more name. -/
theorem snoc (h : Through cards card names hops last) {name : String} {r : Reference}
    {target : SoundCard} (hname : last.Crosses name r) (htarget : cards r.target = .ok target) :
    Through cards card (names ++ [name]) (hops ++ [⟨r.column, target⟩]) target := by
  induction h with
  | nil card => exact .cons hname htarget (.nil target)
  | cons hcross hcards _ ih => exact .cons hcross hcards (ih hname)

theorem not_mem_names (h : Through cards card names hops last) :
    ∀ name ∈ names, '.' ∉ name.toList := by
  induction h with
  | nil card => exact fun _ hname => absurd hname List.not_mem_nil
  | cons hcross _ _ ih => exact List.forall_mem_cons.2 ⟨hcross.1, ih⟩

/-- Names behind those that lead to a card are followed from there. -/
theorem followFrom_append (h : Through cards card names hops last) (path : String)
    (root : SoundCard) {rest : List String} (hrest : rest ≠ []) : ∀ front : List Hop,
    followFrom cards path root front card (names ++ rest)
      = followFrom cards path root (front ++ hops) last rest := by
  induction h with
  | nil card =>
    intro front
    rw [List.nil_append, List.append_nil]
  | @cons card target last name names hops r hcross hcards _ ih =>
    intro front
    have hmore : names ++ rest ≠ [] := List.append_ne_nil_of_right_ne_nil _ hrest
    rw [List.cons_append, followFrom_of_crosses path root front hcross hmore hcards, ih,
      List.append_assoc]
    rfl

/-- The card that is reached is the one that was started from or is a target. -/
theorem eq_or_exists (h : Through cards card names hops last) :
    last = card ∨ ∃ name, cards name = .ok last := by
  induction h with
  | nil card => exact .inl rfl
  | cons _ htarget _ ih =>
    rcases ih with rfl | htarget'
    · exact .inr ⟨_, htarget⟩
    · exact .inr htarget'

end Through

/-- A card is unforked if neither it nor any other card has two references over one column with
different targets. -/
theorem unforked_of_targets {root : SoundCard}
    (h : ∀ card, card = root ∨ (∃ name, cards name = .ok card) → ∀ r ∈ card.references,
      ∀ r' ∈ card.references, r.column = r'.column → r.target = r'.target) :
    Unforked cards root := by
  intro names hops card hthrough name name' r r' target hname hname' hcolumn htarget
  rw [← h card hthrough.eq_or_exists r (Card.mem_references_of_member? hname.2) r'
    (Card.mem_references_of_member? hname'.2) hcolumn]
  exact htarget

namespace Tables

/-! ## §2. Walks that find the right tables. -/

/-- **Positions that guide walks**: a table that is found behind one of them is that of the target
of the reference that is crossed, and a table that is joined behind it guides on. -/
structure Guides (cards : String → Except Error SoundCard)
    (ready : Tables → Nat → SoundCard → Prop) : Prop where
  charted : ∀ {t : Tables} {position : Nat} {card : SoundCard}, ready t position card →
    t.Charted ∧ t.cardAt? position = some card
  found : ∀ {t : Tables} {position next : Nat} {card target : SoundCard} {name : String}
    {r : Reference}, ready t position card → card.Crosses name r →
      t.find? position r.column = some (next, target) →
        cards r.target = .ok target ∧ ready t next target
  joined : ∀ {t : Tables} {position : Nat} {card target : SoundCard} {name : String}
    {r : Reference}, ready t position card → card.Crosses name r →
      t.find? position r.column = none → cards r.target = .ok target →
        ready (t.push ⟨position, r.column, target⟩) t.size target

/-- **A walk that is guided** leads where the references lead.  The induction is on the names that
are left. -/
theorem Guides.walk {ready : Tables → Nat → SoundCard → Prop} (h : Guides cards ready)
    (path : String) : ∀ (names : List String) (position : Nat) (card : SoundCard)
      (t t' : Tables) (answer : Except Error ColumnRef), (∀ name ∈ names, '.' ∉ name.toList) →
      ready t position card → (walk path position card names t).eval cards = (answer, t') →
      answer.map t'.destination = followFrom cards path t.root (t.trail position) card names := by
  intro names
  induction names with
  | nil =>
    intro position card t t' answer _ hready heval
    obtain ⟨rfl, rfl⟩ := Prod.mk.inj heval
    rfl
  | cons name rest ih =>
    intro position card t t' answer hnames hready heval
    obtain ⟨hname, hrests⟩ := List.forall_mem_cons.1 hnames
    rw [Tables.walk] at heval
    rw [followFrom]
    cases hm : card.member? name with
    | none =>
      rw [hm] at heval
      obtain ⟨rfl, rfl⟩ := Prod.mk.inj heval
      rfl
    | some m =>
      rw [hm] at heval
      dsimp only at heval ⊢
      cases hrest : rest.isEmpty with
      | true =>
        rw [hrest] at heval
        obtain ⟨rfl, rfl⟩ := Prod.mk.inj heval
        rfl
      | false =>
        rw [hrest, if_neg Bool.false_ne_true] at heval
        rw [if_neg Bool.false_ne_true]
        cases m with
        | identifier =>
          obtain ⟨rfl, rfl⟩ := Prod.mk.inj heval
          rfl
        | field f =>
          obtain ⟨rfl, rfl⟩ := Prod.mk.inj heval
          rfl
        | reference r =>
          have hcross : card.Crosses name r := ⟨hname, hm⟩
          obtain ⟨hcharted, hcard⟩ := h.charted hready
          dsimp only at heval ⊢
          cases hfind : t.find? position r.column with
          -- the table that is found is the one of the target
          | some found =>
            obtain ⟨next, target⟩ := found
            obtain ⟨htarget, hnext⟩ := h.found hready hcross hfind
            rw [hfind] at heval
            rw [ih _ _ _ _ _ hrests hnext heval, htarget, hcharted.trail_of_find? hfind]
          | none =>
            rw [hfind] at heval
            cases htarget : cards r.target with
            | error e =>
              rw [Script.eval, htarget] at heval
              obtain ⟨rfl, rfl⟩ := Prod.mk.inj heval
              rfl
            | ok target =>
              rw [Script.eval, htarget] at heval
              have hjoined := h.joined hready hcross hfind htarget
              rw [ih _ _ _ _ _ hrests hjoined heval, hcharted.trail_push_size]
              rfl

/-! ## §3. Fresh tables. -/

/-- Behind the table that was joined last, no table is found. -/
theorem Charted.find?_last {t : Tables} (h : t.Charted) (column : String) :
    t.find? t.joins.length column = none := by
  rw [find?_eq_none_iff]
  rintro j hj ⟨hparent, _⟩
  obtain ⟨i, hi⟩ := List.mem_iff_getElem?.1 hj
  have hle := (h.rooted.parent i j hi).1
  have hlt := (List.getElem?_eq_some_iff.1 hi).1
  omega

/-- **A path on its own** is guided: each table that it needs is joined behind the last one. -/
theorem guides_last : Guides cards fun t position card =>
    t.Charted ∧ t.cardAt? position = some card ∧ position = t.joins.length where
  charted := fun h => ⟨h.1, h.2.1⟩
  found := by
    rintro t position next card target name r ⟨hcharted, _, rfl⟩ _ hfind
    rw [hcharted.find?_last] at hfind
    cases hfind
  joined := by
    rintro t position card target name r ⟨hcharted, hcard, _⟩ hcross hfind _
    refine ⟨hcharted.push target hcard (Card.mem_references_of_member? hcross.2) hfind,
      cardAt?_push_size t _, (length_joins_push t _).symm⟩

/-! ## §4. Tables of an unforked card. -/

/-- **Faithful tables**: each belongs to a card that references lead to from the root, and is
joined for the target of a reference over its column. -/
structure Faithful (cards : String → Except Error SoundCard) (root : SoundCard) (t : Tables) :
    Prop where
  charted : t.Charted
  root_eq : t.root = root
  reached : ∀ (position : Nat) (card : SoundCard), t.cardAt? position = some card →
    ∃ names hops, Through cards root names hops card
  own : ∀ (i : Nat) (j : Join), t.joins[i]? = some j → ∃ card name r,
    t.cardAt? j.parent = some card ∧ card.Crosses name r ∧ r.column = j.column
      ∧ cards r.target = .ok j.card

theorem faithful_root (root : SoundCard) : Faithful cards root ⟨root, []⟩ where
  charted := charted_root root
  root_eq := rfl
  reached := by
    intro position card hcard
    cases position with
    | zero =>
      rw [← Option.some.inj hcard]
      exact ⟨[], [], .nil root⟩
    | succ n => cases hcard
  own := nofun

/-- **A join for the target of a reference** keeps the tables of an unforked card faithful. -/
theorem Faithful.push {root : SoundCard} {t : Tables} (h : t.Faithful cards root) {position : Nat}
    {card target : SoundCard} {name : String} {r : Reference}
    (hcard : t.cardAt? position = some card) (hcross : card.Crosses name r)
    (hnew : t.find? position r.column = none) (htarget : cards r.target = .ok target) :
    (t.push ⟨position, r.column, target⟩).Faithful cards root where
  charted := h.charted.push target hcard (Card.mem_references_of_member? hcross.2) hnew
  root_eq := h.root_eq
  reached := by
    intro position' card' hcard'
    rcases cardAt?_push_eq_some hcard' with hcard' | rfl
    · exact h.reached position' card' hcard'
    · obtain ⟨names, hops, hthrough⟩ := h.reached position card hcard
      exact ⟨_, _, hthrough.snoc hcross htarget⟩
  own := by
    intro i j hj
    rcases getElem?_joins_push hj with hj | ⟨_, rfl⟩
    · obtain ⟨card', name', r', hcard', hcross', hcolumn, htarget'⟩ := h.own i j hj
      exact ⟨card', name', r', cardAt?_push hcard' _, hcross', hcolumn, htarget'⟩
    · exact ⟨card, name, r, cardAt?_push hcard _, hcross, rfl, htarget⟩

/-- **A path behind others** is guided by the tables of an unforked card: whatever reference a
table was joined for, the one that is crossed leads to the same card. -/
theorem guides_faithful {root : SoundCard} (hfork : Unforked cards root) :
    Guides cards fun t position card => t.Faithful cards root ∧ t.cardAt? position = some card where
  charted := fun h => ⟨h.1.charted, h.2⟩
  found := by
    rintro t position next card target name r ⟨h, hcard⟩ hcross hfind
    refine ⟨?_, h, cardAt?_of_find? hfind⟩
    obtain ⟨i, _, hj⟩ := exists_join_of_find? hfind
    obtain ⟨card', name', r', hcard', hcross', hcolumn, htarget⟩ := h.own i _ hj
    obtain rfl : card' = card := Option.some.inj (hcard'.symm.trans hcard)
    obtain ⟨names, hops, hthrough⟩ := h.reached position card' hcard
    exact hfork names hops card' hthrough name' name r' r target hcross' hcross hcolumn htarget
  joined := fun h hcross hfind htarget =>
    ⟨h.1.push h.2 hcross hfind htarget, cardAt?_push_size _ _⟩

/-! ## §5. Tables that were joined on the way to a card. -/

/-- A reference whose column is crossed for the first time leads to its target. -/
theorem eval_walk_of_crosses (path : String) {t : Tables} {position : Nat}
    {card target : SoundCard} {name : String} {rest : List String} {r : Reference}
    (hcross : card.Crosses name r) (hrest : rest ≠ []) (hnew : t.find? position r.column = none)
    (htarget : cards r.target = .ok target) :
    (walk path position card (name :: rest) t).eval cards
      = (walk path t.size target rest (t.push ⟨position, r.column, target⟩)).eval cards := by
  have hmore : rest.isEmpty = false := List.isEmpty_eq_false_iff.2 hrest
  rw [walk, hcross.2]
  dsimp only
  rw [hmore, if_neg Bool.false_ne_true, hnew]
  dsimp only
  rw [Script.eval, htarget]

/-- **Names that lead to a card** join their tables one behind another, and names behind them are
walked from the last one, then as well as whenever they are walked again. -/
theorem exists_walk_of_through {start last : SoundCard} {names : List String} {hops : List Hop}
    (h : Through cards start names hops last) : ∀ {t : Tables}, t.Charted →
      t.cardAt? t.joins.length = some start → ∃ t' : Tables, t'.Charted ∧ t'.root = t.root
        ∧ t'.cardAt? t'.joins.length = some last
        ∧ t'.trail t'.joins.length = t.trail t.joins.length ++ hops
        ∧ (∀ path rest, rest ≠ [] → (walk path t.joins.length start (names ++ rest) t).eval cards
          = (walk path t'.joins.length last rest t').eval cards)
        ∧ t.Grows t'
        ∧ ∀ path rest t'', rest ≠ [] → t'.Grows t'' →
          walk path t.joins.length start (names ++ rest) t''
            = walk path t'.joins.length last rest t'' := by
  induction h with
  | nil card =>
    intro t ht hcard
    exact ⟨t, ht, rfl, hcard, (List.append_nil _).symm, fun _ _ _ => rfl, .refl t,
      fun _ _ _ _ _ => rfl⟩
  | @cons card target last name names hops r hcross htarget _ ih =>
    intro t ht hcard
    have hnew := ht.find?_last r.column
    have hreference := Card.mem_references_of_member? hcross.2
    have hpushed := ht.push target hcard hreference hnew
    have hlength := length_joins_push t ⟨t.joins.length, r.column, target⟩
    have hfound := find?_push_self ⟨t.joins.length, r.column, target⟩ hnew
    have hlast : (t.push ⟨t.joins.length, r.column, target⟩).cardAt?
        (t.push ⟨t.joins.length, r.column, target⟩).joins.length = some target := by
      rw [hlength]
      exact cardAt?_push_size t _
    obtain ⟨t', ht', hroot, hcard', htrail', hwalk, hgrows, hagain⟩ := ih hpushed hlast
    rw [hlength] at htrail' hwalk hagain
    have hmore {rest : List String} (hrest : rest ≠ []) : names ++ rest ≠ [] :=
      List.append_ne_nil_of_right_ne_nil _ hrest
    refine ⟨t', ht', hroot, hcard', ?_, ?_, .join hcard hreference hnew hgrows, ?_⟩
    · rw [htrail', ht.trail_push_size, List.append_assoc]
      rfl
    · intro path rest hrest
      rw [List.cons_append, eval_walk_of_crosses path hcross (hmore hrest) hnew htarget]
      exact hwalk path rest hrest
    -- the table is there when the name is walked again
    · intro path rest t'' hrest hlater
      rw [List.cons_append,
        walk_of_find? path hcross.2 (hmore hrest) (hlater.find? (hgrows.find? hfound))]
      exact hagain path rest t'' hrest hlater

end Tables

end CardStore
