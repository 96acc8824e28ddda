/-
  CardStore.Proofs.Query.Grammar
  ──────────────────────────────
  **WHICH OBJECTS ARE QUERIES.**

  Four keys of an object are looked at, each for a part of the query that is
  its own.  A member that is left out, or is null, leaves its part at the
  default; members under other keys are skipped.

      { "order": { "b": "desc", "a": "asc" }, "note": [1], "rows": 5, "filter": null }
        order  b descending, a ascending       skipped    5 rows    no filter, page 1

  Hence the places of the members do not matter, and neither does where the
  object is read from: its text is read straight, or is first made a value.

  Main statements:
    * `Json.Shape.readMembers_key_iff` — one member of an object with known keys.
    * `Denotes.perm` — a query does not depend on the order of the members.
    * `read_object_iff` — which objects are read as which queries.
    * `ReadOptions.read_object_iff` — the same through a JSON value.
    * `readText_iff_given` — both ways of reading a text agree.
-/
import CardStore.Proofs.Filter.Grammar
import CardStore.Proofs.Json.Equality
import CardStore.Proofs.Json.ReadBack
import CardStore.Query.Wire

namespace CardStore

/-! ## §1. Objects with known keys. -/

/-- What a key yields does not depend on the order of the pairs. -/
theorem Pairs.get?_perm {α : Type} {es fs : List (String × α)} (hkeys : (keys es).Nodup)
    (hperm : es.Perm fs) (key : String) : get? key es = get? key fs := by
  have hkeys' : (keys fs).Nodup := (hperm.map Prod.fst).nodup_iff.1 hkeys
  apply Option.ext
  intro a
  exact ⟨fun h => get?_of_mem hkeys' (hperm.mem_iff.1 (mem_of_get? h)),
    fun h => get?_of_mem hkeys (hperm.mem_iff.2 (mem_of_get? h))⟩

namespace Json

/-- A value that is read and then put somewhere. -/
theorem map_eq_ok_iff {α β : Type} {x : Reading α} {f : α → β} {b : β} :
    x.map f = .ok b ↔ ∃ a, x = .ok a ∧ b = f a := by
  cases x with
  | error e => simp [Except.map]
  | ok a => simp [Except.map, eq_comm]

theorem map_map {α β γ : Type} (x : Reading α) (f : α → β) (g : β → γ) :
    (x.map f).map g = x.map fun a => g (f a) := by
  cases x <;> rfl

theorem readOption_eq_ok_iff {α : Type} {read : Node → Reading α} {j : Json} {a : Option α} :
    readOption read (.ofJson j) = .ok a
      ↔ j = .null ∧ a = none ∨ j ≠ .null ∧ ∃ b, read (.ofJson j) = .ok b ∧ a = some b := by
  cases j with
  | null => simp [Node.ofJson, readOption, eq_comm]
  | _ => simpa [Node.ofJson, readOption] using map_eq_ok_iff

theorem readInt64_eq_ok_iff {j : Json} {n : Int64} :
    readInt64 (.ofJson j) = .ok n ↔ j = .number (.ofInt64 n) := by
  unfold readInt64
  rw [map_eq_ok_iff]
  constructor
  · rintro ⟨m, hread, rfl⟩
    cases j with
    | number k =>
      cases k with
      | int k hk =>
        rw [Node.ofJson, readInteger] at hread
        split at hread
        · rename_i hrange
          obtain rfl := Except.ok.inj hread
          have hback : (Int64.ofInt k).toInt = k :=
            Int64.toInt_ofInt_of_le hrange.1 (by omega)
          simp only [Number.ofInt64, hback]
        · cases hread
      | float x hx => cases hread
    | _ => cases hread
  · rintro rfl
    refine ⟨n.toInt, ?_, (Int64.ofInt_toInt n).symm⟩
    have hle := Int64.le_toInt n
    have hlt := Int64.toInt_lt n
    rw [Node.ofJson, Number.ofInt64, readInteger, if_pos ⟨hle, by omega⟩]

/-- The members of an object, repeated keys within them settled. -/
def settledMembers (es : List (String × Json)) : List (String × Json) :=
  es.map fun e => (e.1, e.2.settled)

theorem keys_settledMembers (es : List (String × Json)) :
    Pairs.keys (settledMembers es) = Pairs.keys es := by
  rw [Pairs.keys, Pairs.keys, settledMembers, List.map_map]
  rfl

theorem membersSettled_of_nodup {es : List (String × Json)} :
    ∀ {done : List (String × Json)}, (Pairs.keys es).Nodup →
      (∀ k ∈ Pairs.keys es, k ∉ Pairs.keys done) →
      membersSettled done es = done ++ settledMembers es := by
  induction es with
  | nil =>
    intro done _ _
    exact (List.append_nil done).symm
  | cons e es ih =>
    intro done hkeys hnew
    obtain ⟨k, j⟩ := e
    obtain ⟨hk, hkeys⟩ := List.nodup_cons.1 hkeys
    obtain ⟨hknew, hnew⟩ := List.forall_mem_cons.1 hnew
    rw [membersSettled, Pairs.set_of_not_mem k j.settled done hknew, ih hkeys, List.append_assoc]
    · rfl
    · intro l hl
      rw [Pairs.keys, List.map_append, List.mem_append, not_or]
      refine ⟨hnew l hl, ?_⟩
      rw [List.map_singleton, List.mem_singleton]
      rintro rfl
      exact hk hl

/-- Of an object that repeats no key itself only the members are settled. -/
theorem settled_object {es : List (String × Json)} (hkeys : (Pairs.keys es).Nodup) :
    settled (.object es) = .object (settledMembers es) := by
  rw [settled, membersSettled_of_nodup hkeys fun _ _ => List.not_mem_nil]
  rfl

/-- What is made of such an object when it is read as a value. -/
theorem readJson_object {o : Origin} {es : List (String × Json)} (hkeys : (Pairs.keys es).Nodup)
    (hdepth : o.Admits (Json.object es).depth) :
    readJson o (.ofJson (.object es)) = .ok (.object (settledMembers es)) := by
  rw [readJson_ofJson o _ hdepth, settled_object hkeys]

theorem settledMembers_eq_self {es : List (String × Json)}
    (h : (Json.object es).distinct = true) : settledMembers es = es := by
  have hsettled := settled_object (membersDistinct_iff.1 h).1
  rw [settled_eq_self _ h] at hsettled
  exact (Json.object.inj hsettled).symm

namespace Shape

variable {σ : Type} {shape : Shape σ} {o : Origin} {stop : Option Stop} {given : List String}
  {s : σ} {k : String} {j : Json} {ms : List (Except Fault String × Node)}

/-- A member under a key that is not known is skipped. -/
theorem readMembers_unknown (hfind : (shape.keys.find? fun key => key.name == k) = none) :
    shape.readMembers o stop given s ((.ok k, .ofJson j) :: ms)
      = shape.readMembers o stop given s ms := by
  have hskip : Reading.ofText (skip (.ofJson j)) = .ok () :=
    ofText_eq_ok_iff.2 ((skip_eq_ok_iff _).2 (Node.wellFormed_ofJson j))
  have hname : Reading.ofText (.ok k) = .ok k := rfl
  rw [readMembers, hname]
  simp only [bind, Except.bind, hfind]
  show (Reading.ofText (skip (.ofJson j)) >>= fun _ => _) = _
  rw [hskip]
  rfl

/-- **A member under a known key** puts what it holds into its place. -/
theorem readMembers_key_iff {α : Type} {key : Key σ} {x : Reading α} {holds : α → Prop}
    (put : α → σ) (hfind : (shape.keys.find? fun key => key.name == k) = some key)
    (hnew : k ∉ given) (hread : key.read o s (.ofJson j) = x.map put)
    (hx : ∀ a, x = .ok a ↔ holds a) {t : σ} :
    shape.readMembers o stop given s ((.ok k, .ofJson j) :: ms) = .ok t
      ↔ ∃ a, holds a ∧ shape.readMembers o stop (k :: given) (put a) ms = .ok t := by
  have hstep : shape.readMembers o stop given s ((.ok k, .ofJson j) :: ms)
      = x.map put >>= fun s => shape.readMembers o stop (k :: given) s ms := by
    have hname : Reading.ofText (.ok k) = .ok k := rfl
    rw [← hread, readMembers, hname]
    simp only [bind, Except.bind, hfind]
    exact if_neg (by simpa using hnew)
  rw [hstep, bind_eq_ok_iff]
  constructor
  · rintro ⟨_, hput, ht⟩
    obtain ⟨a, ha, rfl⟩ := map_eq_ok_iff.1 hput
    exact ⟨a, (hx a).1 ha, ht⟩
  · rintro ⟨a, ha, ht⟩
    exact ⟨put a, map_eq_ok_iff.2 ⟨a, (hx a).2 ha, rfl⟩, ht⟩

end Shape

end Json

/-! ## §2. What the parts of a query are given. -/

/-- A part of something, before and after a member that says what it is; the member may be left
out. -/
inductive Given {α : Type} (denotes : Json → α → Prop) (before : α) : Option Json → α → Prop where
  | absent : Given denotes before none before
  | member {j : Json} {a : α} : denotes j a → Given denotes before (some j) a

theorem given_none_iff {α : Type} {denotes : Json → α → Prop} {before a : α} :
    Given denotes before none a ↔ a = before := by
  constructor
  · rintro ⟨⟩
    rfl
  · rintro rfl
    exact .absent

theorem given_some_iff {α : Type} {denotes : Json → α → Prop} {before a : α} {j : Json} :
    Given denotes before (some j) a ↔ denotes j a := by
  constructor
  · rintro ⟨⟩
    assumption
  · exact .member

/-- Sort keys in the order of the members; null for none. -/
inductive Order.Denotes : Json → Order → Prop where
  | null : Denotes .null []
  | keys (ks : List (String × String)) :
      Denotes (.object (ks.map fun k => (k.1, .string k.2)))
        (ks.map fun k => (k.1, Direction.parse k.2))

theorem Order.readKeys_eq_ok_iff {es : List (String × Json)} {order : Order} :
    Order.readKeys (Json.Node.ofMembers es) = .ok order
      ↔ ∃ ks : List (String × String), es = ks.map (fun k => (k.1, .string k.2))
        ∧ order = ks.map fun k => (k.1, Direction.parse k.2) := by
  induction es generalizing order with
  | nil =>
    constructor
    · rintro ⟨⟩
      exact ⟨[], rfl, rfl⟩
    · rintro ⟨ks, hks, rfl⟩
      rw [List.map_eq_nil_iff.1 hks.symm]
      rfl
  | cons e es ih =>
    obtain ⟨path, j⟩ := e
    rw [Json.Node.ofMembers, Order.readKeys]
    constructor
    · intro h
      obtain ⟨path', hpath, h⟩ := bind_eq_ok_iff.1 h
      obtain ⟨direction, hdirection, h⟩ := bind_eq_ok_iff.1 h
      obtain ⟨rest, hrest, h⟩ := bind_eq_ok_iff.1 h
      cases hpath
      cases h
      obtain ⟨ks, rfl, rfl⟩ := ih.1 hrest
      have hj : j = .string direction := by
        have htext := Filter.readString_eq_ok_iff.1 hdirection
        cases j with
        | string s =>
          rw [Json.Node.ofJson] at htext
          cases htext
          rfl
        | _ => cases htext
      rw [hj]
      exact ⟨(path, direction) :: ks, rfl, rfl⟩
    · rintro ⟨ks, hks, rfl⟩
      cases ks with
      | nil => cases hks
      | cons k ks =>
        rw [List.map_cons, List.cons.injEq] at hks
        obtain ⟨hhead, rfl⟩ := hks
        cases hhead
        exact bind_eq_ok_iff.2 ⟨_, rfl, bind_eq_ok_iff.2 ⟨k.2, rfl,
          bind_eq_ok_iff.2 ⟨_, ih.2 ⟨ks, rfl, rfl⟩, rfl⟩⟩⟩

namespace QueryOptions

open Json (Node Origin)

variable {o : Origin} {j : Json} {es fs : List (String × Json)}

/-- A filter; null for none. -/
inductive DenotesFilter : Json → Option Filter → Prop where
  | null : DenotesFilter .null none
  | filter {j : Json} {f : Filter} : Filter.Denotes (.ofJson j) f → DenotesFilter j (some f)

/-- The rows of a page; null for the usual ones. -/
inductive DenotesRows : Json → Int64 → Prop where
  | null : DenotesRows .null defaultRows
  | rows (n : Int64) : DenotesRows (.number (.ofInt64 n)) n

/-- The number of a page; null for the first one, and so is zero. -/
inductive DenotesPage : Json → Int64 → Prop where
  | null : DenotesPage .null 1
  | zero : DenotesPage (.number (.ofInt64 0)) 1
  | page {n : Int64} : n ≠ 0 → DenotesPage (.number (.ofInt64 n)) n

/-- What the members of an object make of a query. -/
structure Denotes (before : QueryOptions) (es : List (String × Json)) (q : QueryOptions) :
    Prop where
  filter : Given DenotesFilter before.filter (Pairs.get? "filter" es) q.filter
  order : Given Order.Denotes before.order (Pairs.get? "order" es) q.order
  rows : Given DenotesRows before.rows (Pairs.get? "rows" es) q.rows
  page : Given DenotesPage before.page (Pairs.get? "page" es) q.page

theorem denotes_iff {before q : QueryOptions} : Denotes before es q
    ↔ Given DenotesFilter before.filter (Pairs.get? "filter" es) q.filter
      ∧ Given Order.Denotes before.order (Pairs.get? "order" es) q.order
      ∧ Given DenotesRows before.rows (Pairs.get? "rows" es) q.rows
      ∧ Given DenotesPage before.page (Pairs.get? "page" es) q.page :=
  ⟨fun h => ⟨h.filter, h.order, h.rows, h.page⟩, fun h => ⟨h.1, h.2.1, h.2.2.1, h.2.2.2⟩⟩

/-- A query depends on nothing but what stands under the four keys. -/
theorem Denotes.congr {before q : QueryOptions} (h : Denotes before es q)
    (hsame : ∀ key ∈ ["filter", "order", "rows", "page"], Pairs.get? key es = Pairs.get? key fs) :
    Denotes before fs q where
  filter := hsame "filter" (by decide) ▸ h.filter
  order := hsame "order" (by decide) ▸ h.order
  rows := hsame "rows" (by decide) ▸ h.rows
  page := hsame "page" (by decide) ▸ h.page

/-- **The order of the members does not matter.** -/
theorem Denotes.perm {before q : QueryOptions} (h : Denotes before es q)
    (hkeys : (Pairs.keys es).Nodup) (hperm : es.Perm fs) : Denotes before fs q :=
  h.congr fun key _ => Pairs.get?_perm hkeys hperm key

theorem readFilter_eq_ok_iff (hdepth : o.Admits j.depth) {f : Option Filter} :
    Json.readOption (Filter.read o) (.ofJson j) = .ok f ↔ DenotesFilter j f := by
  rw [Json.readOption_eq_ok_iff]
  constructor
  · rintro (⟨rfl, rfl⟩ | ⟨-, g, hread, rfl⟩)
    · exact .null
    · exact .filter (Filter.denotes_of_read o _ hread).2
  · rintro (_ | ⟨hdenotes⟩)
    · exact Or.inl ⟨rfl, rfl⟩
    · refine Or.inr ⟨?_, _, ?_, rfl⟩
      · rintro rfl
        cases hdenotes
      · rw [← Node.depth_ofJson] at hdepth
        exact Filter.read_of_denotes hdenotes (Node.wellFormed_ofJson j) hdepth

theorem readOrder_eq_ok_iff (hdepth : o.Admits j.depth) {order : Order} :
    Order.read o (.ofJson j) = .ok order ↔ Order.Denotes j order := by
  constructor
  · intro h
    cases j with
    | null =>
      cases h
      exact .null
    | object es =>
      rw [Node.ofJson, Order.read] at h
      obtain ⟨_, keys, -, hkeys, -, rfl⟩ := Json.container_eq_ok_iff (f := id).1 h
      obtain ⟨ks, rfl, rfl⟩ := Order.readKeys_eq_ok_iff.1 hkeys
      exact .keys ks
    | array items =>
      rw [Node.ofJson, Order.read] at h
      obtain ⟨_, -, h⟩ := bind_eq_ok_iff.1 h
      cases h
    | number n => rcases n with _ | _ <;> cases h
    | _ => cases h
  · rintro (_ | ks)
    · rfl
    · obtain ⟨i, hi, -⟩ := Json.Origin.admits_succ_iff.1 hdepth
      rw [Node.ofJson, Order.read]
      exact Json.container_eq_ok_iff (f := id).2
        ⟨i, _, hi, Order.readKeys_eq_ok_iff.2 ⟨ks, rfl, rfl⟩, rfl, rfl⟩

/-- A number that may be null. -/
theorem readInt64Option_eq_ok_iff {n : Option Int64} :
    Json.readOption Json.readInt64 (.ofJson j) = .ok n
      ↔ j = .null ∧ n = none ∨ ∃ m, j = .number (.ofInt64 m) ∧ n = some m := by
  rw [Json.readOption_eq_ok_iff]
  simp only [Json.readInt64_eq_ok_iff]
  constructor
  · rintro (h | ⟨-, h⟩)
    · exact Or.inl h
    · exact Or.inr h
  · rintro (h | ⟨m, rfl, rfl⟩)
    · exact Or.inl h
    · exact Or.inr ⟨nofun, m, rfl, rfl⟩

theorem readRows_eq_ok_iff {n : Int64} :
    (Json.readOption Json.readInt64 (.ofJson j)).map (·.getD defaultRows) = .ok n
      ↔ DenotesRows j n := by
  simp only [Json.map_eq_ok_iff, readInt64Option_eq_ok_iff]
  constructor
  · rintro ⟨_, ⟨rfl, rfl⟩ | ⟨m, rfl, rfl⟩, rfl⟩
    · exact .null
    · exact .rows _
  · rintro (_ | ⟨m⟩)
    · exact ⟨none, Or.inl ⟨rfl, rfl⟩, rfl⟩
    · exact ⟨some n, Or.inr ⟨n, rfl, rfl⟩, rfl⟩

/-- The page of a number that may be null. -/
def pageOf : Option Int64 → Int64
  | some n => if n = 0 then 1 else n
  | none => 1

theorem readPage_eq_ok_iff {n : Int64} :
    (Json.readOption Json.readInt64 (.ofJson j)).map pageOf = .ok n ↔ DenotesPage j n := by
  simp only [Json.map_eq_ok_iff, readInt64Option_eq_ok_iff]
  constructor
  · rintro ⟨_, ⟨rfl, rfl⟩ | ⟨m, rfl, rfl⟩, rfl⟩
    · exact .null
    · rw [pageOf]
      split
      · rename_i hzero
        rw [hzero]
        exact .zero
      · rename_i hne
        exact .page hne
  · rintro (_ | _ | hne)
    · exact ⟨none, Or.inl ⟨rfl, rfl⟩, rfl⟩
    · exact ⟨some 0, Or.inr ⟨0, rfl, rfl⟩, rfl⟩
    · exact ⟨some n, Or.inr ⟨n, rfl, rfl⟩, (if_neg hne).symm⟩

/-! ## §3. Whole objects. -/

/-- The members of an object are read one after another, each known key once. -/
theorem readMembers_eq_ok_iff {given : List String} {before q : QueryOptions}
    (hkeys : (Pairs.keys es).Nodup) (hnew : ∀ k ∈ Pairs.keys es, k ∉ given)
    (hdepth : o.Admits (Json.membersDepth es)) :
    shape.readMembers o none given before (Node.ofMembers es) = .ok q ↔ Denotes before es q := by
  induction es generalizing given before with
  | nil =>
    rw [denotes_iff, Node.ofMembers]
    simp only [Pairs.get?, given_none_iff]
    constructor
    · rintro ⟨⟩
      exact ⟨rfl, rfl, rfl, rfl⟩
    · intro h
      obtain ⟨filter, order, rows, page⟩ := q
      obtain ⟨rfl, rfl, rfl, rfl⟩ := h
      rfl
  | cons e es ih =>
    obtain ⟨k, j⟩ := e
    obtain ⟨hj, hes⟩ := Json.Origin.admits_max_iff.1 hdepth
    obtain ⟨hk, hkeys⟩ := List.nodup_cons.1 hkeys
    obtain ⟨hknew, hnew⟩ := List.forall_mem_cons.1 hnew
    have hlater : ∀ l ∈ Pairs.keys es, l ∉ k :: given := fun l hl =>
      List.not_mem_cons_of_ne_of_not_mem (fun heq => hk (heq ▸ hl)) (hnew l hl)
    have hnone : Pairs.get? k es = none := (Pairs.get?_eq_none_iff k es).2 hk
    have hafter : ∀ {before : QueryOptions},
        shape.readMembers o none (k :: given) before (Node.ofMembers es) = .ok q
          ↔ Denotes before es q := ih hkeys hlater hes
    rw [Node.ofMembers]
    by_cases hfilter : k = "filter"
    · subst hfilter
      rw [Json.Shape.readMembers_key_iff (fun filter => { before with filter }) rfl hknew rfl
        fun _ => readFilter_eq_ok_iff hj]
      simp [hafter, denotes_iff, Pairs.get?, hnone, given_none_iff, given_some_iff]
    by_cases horder : k = "order"
    · subst horder
      rw [Json.Shape.readMembers_key_iff (fun order => { before with order }) rfl hknew rfl
        fun _ => readOrder_eq_ok_iff hj]
      simp [hafter, denotes_iff, Pairs.get?, hnone, given_none_iff, given_some_iff, and_comm,
        and_left_comm]
    by_cases hrows : k = "rows"
    · subst hrows
      rw [Json.Shape.readMembers_key_iff (fun rows => { before with rows }) rfl hknew
        (by rw [Json.map_map]; rfl) fun _ => readRows_eq_ok_iff]
      simp [hafter, denotes_iff, Pairs.get?, hnone, given_none_iff, given_some_iff, and_comm,
        and_left_comm, and_assoc]
    by_cases hpage : k = "page"
    · subst hpage
      rw [Json.Shape.readMembers_key_iff (fun page => { before with page }) rfl hknew
        (by rw [Json.map_map]; rfl) fun _ => readPage_eq_ok_iff]
      simp [hafter, denotes_iff, Pairs.get?, hnone, given_none_iff, given_some_iff, and_comm,
        and_left_comm, and_assoc]
    have hunknown : (shape.keys.find? fun key => key.name == k) = none := by
      simp [shape, Json.Key.of, Ne.symm hfilter, Ne.symm horder, Ne.symm hrows, Ne.symm hpage]
    rw [Json.Shape.readMembers_unknown hunknown, ih hkeys (fun l hl => hnew l hl) hes]
    simp [denotes_iff, Pairs.get?, hfilter, horder, hrows, hpage]

/-- **Which objects are read as which queries.** -/
theorem read_object_iff (hkeys : (Pairs.keys es).Nodup)
    (hdepth : o.Admits (Json.object es).depth) {q : QueryOptions} :
    read o (.ofJson (.object es)) = .ok q ↔ Denotes .unrestricted es q := by
  obtain ⟨i, hi, hmembers⟩ := Json.Origin.admits_succ_iff.1 hdepth
  have hentered : read o (.ofJson (.object es))
      = shape.readMembers i none [] .unrestricted (Node.ofMembers es) := by
    rw [read, Node.ofJson, Json.Shape.read, hi]
    rfl
  rw [hentered]
  exact readMembers_eq_ok_iff hkeys (fun _ _ => List.not_mem_nil) hmembers

end QueryOptions

/-! ## §4. Both ways of reading. -/

namespace ReadOptions

open Json (Origin)

variable {o : Origin} {es : List (String × Json)}

theorem ofJson_object_iff (hkeys : (Pairs.keys es).Nodup) {given : ReadOptions} :
    ofJson (.object es) = .ok given
      ↔ ∃ q, QueryOptions.Denotes .unrestricted es q ∧ given = .query q := by
  have hquery : ∀ q, Json.readValue QueryOptions.read (.object es) = .ok q
      ↔ QueryOptions.Denotes .unrestricted es q := fun _ =>
    QueryOptions.read_object_iff (o := .memory) hkeys trivial
  rw [ofJson, Json.map_eq_ok_iff]
  simp only [hquery]

/-- **Through a JSON value** the same objects are read, as the same queries. -/
theorem read_object_iff (hkeys : (Pairs.keys es).Nodup)
    (hdepth : o.Admits (Json.object es).depth) {given : ReadOptions} :
    read o (.ofJson (.object es)) = .ok given
      ↔ ∃ q, QueryOptions.Denotes .unrestricted (Json.settledMembers es) q
          ∧ given = .query q := by
  have hvalue : read o (.ofJson (.object es)) = ofJson (.object (Json.settledMembers es)) := by
    rw [read, Json.readJson_object hkeys hdepth]
    rfl
  rw [hvalue]
  exact ofJson_object_iff (by rwa [Json.keys_settledMembers])

end ReadOptions

namespace Json

/-- A text that parses as a value, none of its keys being repeated. -/
structure Parses (text : String) (j : Json) : Prop where
  parses : ofText text = .ok j
  tree : (scan text).node = .ofJson j
  distinct : j.distinct = true

variable {text : String} {j : Json}

theorem Parses.admits (h : Parses text j) : Origin.start.Admits j.depth := by
  obtain ⟨hread, -⟩ := readText_eq_ok_iff.1 h.parses
  obtain ⟨i, htree, hdepth, -⟩ := readJson_eq_ok_iff.1 hread
  have hsame : (Node.ofJson j).depth = (Node.ofJson i).depth := by rw [← h.tree, htree]
  rw [Node.depth_ofJson, Node.depth_ofJson] at hsame
  rw [hsame]
  exact hdepth

theorem Parses.readText {α : Type} (h : Parses text j) (read : Origin → Node → Reading α) {a : α} :
    readText read text = .ok a ↔ read .start (.ofJson j) = .ok a := by
  rw [readText_eq_ok_iff, h.tree, (readText_eq_ok_iff.1 h.parses).2]
  exact and_iff_left rfl

/-- What is written of a value parses as it. -/
theorem parses_text (hdistinct : j.distinct = true) (hdepth : j.depth < 128)
    (hdoubles : ∀ x ∈ j.doubles, x.ReadsBack) : Parses j.text j where
  parses := by rw [ofText_text hdepth hdoubles, settled_eq_self j hdistinct]
  tree := by rw [scan_text hdoubles]
  distinct := hdistinct

end Json

/-- **Both ways of reading a query agree**: a text that parses as an object is read straight as
a query exactly if it is read through a JSON value, and as the query that is given there. -/
theorem QueryOptions.readText_iff_given {text : String} {es : List (String × Json)}
    (h : Json.Parses text (.object es)) (q : QueryOptions) :
    Json.readText QueryOptions.read text = .ok q
      ↔ ∃ given, Json.readText ReadOptions.read text = .ok given ∧ given.toQuery = q := by
  have hkeys : (Pairs.keys es).Nodup := (Json.membersDistinct_iff.1 h.distinct).1
  have hsettled := Json.settledMembers_eq_self h.distinct
  rw [h.readText, QueryOptions.read_object_iff hkeys h.admits]
  simp only [h.readText, ReadOptions.read_object_iff hkeys h.admits, hsettled]
  constructor
  · intro hq
    exact ⟨.query q, ⟨q, hq, rfl⟩, rfl⟩
  · rintro ⟨_, ⟨q', hq, rfl⟩, rfl⟩
    exact hq

namespace QueryOptions

/-- A query with sort keys against the alphabet, a key that is skipped, and page zero. -/
def sortedText : String := "\x7b\"order\":\x7b\"b\":\"desc\",\"a\":\"asc\"\x7d,\"note\":[null],"
  ++ "\"page\":0,\"filter\":[[\"a\",\"IS\"]],\"rows\":5\x7d"

def sortedMembers : List (String × Json) :=
  [("order", .object [("b", .string "desc"), ("a", .string "asc")]), ("note", .array [.null]),
    ("page", .number (.ofInt64 0)), ("filter", .array [.array [.string "a", .string "IS"]]),
    ("rows", .number (.ofInt64 5))]

def sorted : QueryOptions where
  filter := some (.groups [(.and, [.triple ⟨"a", "IS", .null⟩])])
  order := [("b", .descending), ("a", .ascending)]
  rows := 5
  page := 1

/-- Both ways of reading it give the same query. -/
theorem readText_iff_given_sorted : Json.Parses sortedText (.object sortedMembers)
    ∧ Json.readText read sortedText = .ok sorted
    ∧ ∃ given, Json.readText ReadOptions.read sortedText = .ok given ∧ given.toQuery = sorted := by
  have hparses : Json.Parses sortedText (.object sortedMembers) := by
    have htext : sortedText = (Json.object sortedMembers).text := by decide +kernel
    have hdoubles : (Json.object sortedMembers).doubles = [] := by decide +kernel
    rw [htext]
    refine Json.parses_text (by decide +kernel) (by decide +kernel) fun x hx => ?_
    rw [hdoubles] at hx
    cases hx
  have hread : Json.readText read sortedText = .ok sorted := (hparses.readText read).2 (by rfl)
  exact ⟨hparses, hread, (readText_iff_given hparses sorted).1 hread⟩

end QueryOptions

end CardStore
