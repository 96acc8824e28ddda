/-
  CardStore.Proofs.Query.Walk
  ───────────────────────────
  **WHERE A PATH ENDS, AND WHERE IT STOPS.**

  A path walks over a schema: each of its segments but the last one crosses a
  reference of the card reached, and the last one is a member of that card.  A
  path on its own joins a table for each reference that it crosses, so that
  the card reached is the one of the last table.

      owner.department.name   ends   at the field `name` on T2
      owner.name.length       stops  at `name` on T1, which leads nowhere
      owner.wages             stops  at `wages` on T1, which is no member

  If all references lead to cards, every path does one or the other.  No path
  comes to the end of its names without an answer, as the last one always has
  one.

  Main statements:
    * `Card.names_iff` — the identifier comes first, then fields, then references.
    * `Tables.eval_walk_through` — a path on its own joins a chain of tables.
    * `exists_end` — every path ends at a member or stops at a segment.
    * `Query.resolve_walks` — what resolving a path on its own answers.
-/
import CardStore.Proofs.Query.Meaning

namespace CardStore

/-! ## §1. Members by name. -/

namespace Card

/-- **What a name is on a card**: the identifier has its own name, which no field or reference can
take from it; a field hides a reference of its name. -/
inductive Names (card : Card) : String → Member → Prop where
  | identifier : Names card idPath .identifier
  | field {name : String} {f : Field} :
    name ≠ idPath → card.field? name = some f → Names card name (.field f)
  | reference {name : String} {r : Reference} :
    name ≠ idPath → card.field? name = none → card.reference? name = some r →
      Names card name (.reference r)

theorem names_iff {card : Card} {name : String} {m : Member} :
    card.Names name m ↔ card.member? name = some m := by
  rw [member?]
  constructor
  · intro h
    cases h with
    | identifier => exact if_pos rfl
    | field hid hf => rw [if_neg hid, hf]
    | reference hid hf hr =>
      rw [if_neg hid, hf, hr]
      rfl
  · intro h
    by_cases hid : name = idPath
    · rw [if_pos hid] at h
      rw [hid, ← Option.some.inj h]
      exact .identifier
    rw [if_neg hid] at h
    cases hf : card.field? name with
    | some f =>
      rw [hf] at h
      rw [← Option.some.inj h]
      exact .field hid hf
    | none =>
      rw [hf] at h
      obtain ⟨r, hr, rfl⟩ := Option.map_eq_some_iff.1 h
      exact .reference hid hf hr

/-- **A walk stops at a segment** that is no member of the card reached, or one that does not lead
on although there is more behind it. -/
def Stops (card : Card) (segment : String) (rest : List String) : Prop :=
  ∀ m, card.Names segment m → rest ≠ [] ∧ ∀ r, m ≠ .reference r

end Card

variable {cards : String → Except Error SoundCard}

theorem Through.length_eq {card last : SoundCard} {names : List String} {hops : List Hop}
    (h : Through cards card names hops last) : names.length = hops.length := by
  induction h with
  | nil card => rfl
  | cons _ _ _ ih => rw [List.length_cons, List.length_cons, ih]

/-! ## §2. The tables of a path on its own. -/

namespace Tables

/-- **A chain of tables**, each joined to the one in front of it. -/
def alongHops (root : SoundCard) (hops : List Hop) : Tables :=
  ⟨root, hops.mapIdx fun i h => ⟨i, h.column, h.card⟩⟩

theorem size_alongHops (root : SoundCard) (hops : List Hop) :
    (alongHops root hops).size = hops.length + 1 := by
  rw [size, alongHops, List.length_mapIdx]

theorem push_alongHops (root : SoundCard) (hops : List Hop) (h : Hop) :
    (alongHops root hops).push ⟨hops.length, h.column, h.card⟩ = alongHops root (hops ++ [h]) := by
  rw [alongHops, alongHops, push, List.mapIdx_append]
  simp

/-- Nothing is joined to the last table of a chain. -/
theorem find?_alongHops (root : SoundCard) (hops : List Hop) (column : String) :
    (alongHops root hops).find? hops.length column = none := by
  rw [find?_eq_none_iff]
  rintro j hj ⟨hparent, _⟩
  obtain ⟨i, hi, rfl⟩ := List.mem_mapIdx.1 hj
  have hlast : i = hops.length := hparent
  omega

/-- The last table of a chain is that of the card that its names lead to. -/
theorem cardAt?_alongHops (root : SoundCard) {card last : SoundCard} {names : List String}
    {hops : List Hop} (h : Through cards card names hops last) : ∀ front : List Hop,
    (alongHops root front).cardAt? front.length = some card →
      (alongHops root (front ++ hops)).cardAt? (front ++ hops).length = some last := by
  induction h with
  | nil card =>
    intro front hcard
    rw [List.append_nil]
    exact hcard
  | @cons card target last name names hops r _ _ _ ih =>
    intro front _
    have hsplit : front ++ ⟨r.column, target⟩ :: hops = (front ++ [⟨r.column, target⟩]) ++ hops :=
      (List.append_assoc front [_] hops).symm
    rw [hsplit]
    apply ih
    rw [← push_alongHops, List.length_append, List.length_singleton, ← size_alongHops root front]
    exact cardAt?_push_size _ _

/-- **A path on its own** joins a chain of tables, one for each reference that it crosses. -/
theorem eval_walk_through (root : SoundCard) {card last : SoundCard} {names : List String}
    {hops : List Hop} (h : Through cards card names hops last) (path : String)
    {rest : List String} (hrest : rest ≠ []) : ∀ front : List Hop,
    (walk path front.length card (names ++ rest) (alongHops root front)).eval cards
      = (walk path (front ++ hops).length last rest
        (alongHops root (front ++ hops))).eval cards := by
  induction h with
  | nil card =>
    intro front
    rw [List.append_nil, List.nil_append]
  | @cons card target last name names hops r hcross htarget _ ih =>
    intro front
    have hmore : names ++ rest ≠ [] := List.append_ne_nil_of_right_ne_nil _ hrest
    have hsplit : front ++ ⟨r.column, target⟩ :: hops = (front ++ [⟨r.column, target⟩]) ++ hops :=
      (List.append_assoc front [_] hops).symm
    have hlength : (front ++ [(⟨r.column, target⟩ : Hop)]).length = front.length + 1 :=
      List.length_append
    have hpush := push_alongHops root front ⟨r.column, target⟩
    have hnew := find?_alongHops root front r.column
    rw [List.cons_append, eval_walk_of_crosses path hcross hmore hnew htarget, size_alongHops,
      hpush, ← hlength, ih, hsplit]

/-- The last segment names a member. -/
theorem walk_of_names (path : String) (position : Nat) {card : SoundCard} {name : String}
    {m : Member} (h : card.Names name m) (t : Tables) :
    walk path position card [name] t = .done (.ok ⟨position, m.column.1, m.column.2⟩, t) := by
  rw [walk, Card.names_iff.1 h]
  rfl

/-- A segment at which the walk stops. -/
theorem walk_of_stops (path : String) (position : Nat) {card : SoundCard} {segment : String}
    {rest : List String} (h : card.Stops segment rest) (t : Tables) :
    walk path position card (segment :: rest) t
      = .done (.error (.unresolvedPath path card.name segment), t) := by
  rw [walk]
  cases hm : card.member? segment with
  | none => rfl
  | some m =>
    obtain ⟨hrest, hreference⟩ := h m (Card.names_iff.2 hm)
    have hmore : rest.isEmpty = false := List.isEmpty_eq_false_iff.2 hrest
    dsimp only
    rw [hmore, if_neg Bool.false_ne_true]
    cases m with
    | identifier => rfl
    | field f => rfl
    | reference r => exact absurd rfl (hreference r)

/-! ## §3. The end of the names. -/

/-- The walk, with any answer in place of the one that it has for the end of the names. -/
def walkOr (after : Except Error ColumnRef) (path : String) (position : Nat) (card : SoundCard) :
    List String → Tables → Lookup (Except Error ColumnRef × Tables)
  | [], t => .done (after, t)
  | name :: rest, t =>
    match card.member? name with
    | none => .done (.error (.unresolvedPath path card.name name), t)
    | some member =>
      if rest.isEmpty then .done (.ok ⟨position, member.column.1, member.column.2⟩, t)
      else match member with
        | .reference r => match t.find? position r.column with
          | some (next, target) => walkOr after path next target rest t
          | none => .ask r.target fun answer => match answer with
            | .error e => .done (.error e, t)
            | .ok target => walkOr after path t.size target rest
                (t.push ⟨position, r.column, target⟩)
        | _ => .done (.error (.unresolvedPath path card.name name), t)

/-- **The answer for the end of the names is never the one**: the walk goes on only if there is a
name left. -/
theorem walkOr_eq_walk (after : Except Error ColumnRef) (path : String) :
    ∀ {names : List String} (position : Nat) (card : SoundCard) (t : Tables), names ≠ [] →
      walkOr after path position card names t = walk path position card names t := by
  intro names
  induction names with
  | nil => exact fun _ _ _ h => absurd rfl h
  | cons name rest ih =>
    intro position card t _
    rw [walkOr, walk]
    cases card.member? name with
    | none => rfl
    | some m =>
      dsimp only
      by_cases hrest : rest.isEmpty = true
      · rw [if_pos hrest, if_pos hrest]
      · have hmore : rest ≠ [] := fun hnil => hrest (List.isEmpty_iff.2 hnil)
        rw [if_neg hrest, if_neg hrest]
        cases m with
        | identifier => rfl
        | field f => rfl
        | reference r =>
          dsimp only
          cases t.find? position r.column with
          | some found => exact ih found.1 found.2 t hmore
          | none =>
            refine congrArg (Script.ask r.target) (funext fun answer => ?_)
            cases answer with
            | error e => rfl
            | ok target => exact ih t.size target _ hmore

end Tables

/-! ## §4. Every path ends or stops. -/

/-- **Every path ends at a member or stops at a segment**, if all references lead to cards.  The
induction is on the segments that are left. -/
theorem exists_end (hclosed : ∀ name card, cards name = .ok card → ∀ r ∈ card.references,
    ∃ target, cards r.target = .ok target) : ∀ {segments : List String} {card : SoundCard},
    segments ≠ [] → (∀ segment ∈ segments, '.' ∉ segment.toList) →
    (∃ name, cards name = .ok card) →
      (∃ names last hops reached m, segments = names ++ [last]
        ∧ Through cards card names hops reached ∧ reached.Names last m)
      ∨ ∃ names segment rest hops reached, segments = names ++ segment :: rest
        ∧ Through cards card names hops reached ∧ reached.Stops segment rest := by
  intro segments
  induction segments with
  | nil => exact fun h => absurd rfl h
  | cons segment rest ih =>
    rintro card - hsegments ⟨own, hcard⟩
    obtain ⟨hsegment, hrests⟩ := List.forall_mem_cons.1 hsegments
    by_cases hstops : card.Stops segment rest
    · exact .inr ⟨[], segment, rest, [], card, rfl, .nil card, hstops⟩
    -- the segment is a member, and either the last one or a reference
    rw [Card.Stops, not_forall] at hstops
    obtain ⟨m, hstops⟩ := hstops
    rw [Classical.not_imp, not_and_or, not_not, not_forall] at hstops
    obtain ⟨hm, hnil | ⟨r, hr⟩⟩ := hstops
    · subst hnil
      exact .inl ⟨[], segment, [], card, m, rfl, .nil card, hm⟩
    · rw [not_not] at hr
      subst hr
      by_cases hnil : rest = []
      · subst hnil
        exact .inl ⟨[], segment, [], card, _, rfl, .nil card, hm⟩
      have hcross : card.Crosses segment r := ⟨hsegment, Card.names_iff.1 hm⟩
      obtain ⟨target, htarget⟩ :=
        hclosed own card hcard r (Card.mem_references_of_member? hcross.2)
      rcases ih hnil hrests ⟨_, htarget⟩ with hend | hend
      · obtain ⟨names, last, hops, reached, m, rfl, hthrough, hnames⟩ := hend
        exact .inl ⟨segment :: names, last, _, reached, m, rfl, .cons hcross htarget hthrough,
          hnames⟩
      · obtain ⟨names, last, rest', hops, reached, rfl, hthrough, hstops⟩ := hend
        exact .inr ⟨segment :: names, last, rest', _, reached, rfl, .cons hcross htarget hthrough,
          hstops⟩

namespace Query

theorem pathSegments_ne_nil (path : String) : pathSegments path ≠ [] := by
  rw [pathSegments, Text.splitAt, ne_eq, List.map_eq_nil_iff]
  exact Text.splitFrom_ne_nil '.' [] path.toList

/-- A path that ends at a member. -/
theorem eval_resolve_of_names {root reached : SoundCard} {path last : String} {names : List String}
    {hops : List Hop} {m : Member} (hpath : pathSegments path = names ++ [last])
    (hthrough : Through cards root names hops reached) (hm : reached.Names last m) :
    (resolve ⟨root, []⟩ path).run.eval cards
      = .ok (⟨names.length, m.column.1, m.column.2⟩, Tables.alongHops root hops) := by
  have hwalk := Tables.eval_walk_through root hthrough path (List.cons_ne_nil last []) []
  rw [List.nil_append, Tables.walk_of_names path _ hm, ← hpath] at hwalk
  have heval : ((Tables.mk root []).resolve path).eval cards
      = (.ok ⟨names.length, m.column.1, m.column.2⟩, Tables.alongHops root hops) := by
    rw [hthrough.length_eq]
    exact hwalk
  rw [eval_resolve, heval]
  rfl

/-- A path that stops at a segment. -/
theorem eval_resolve_of_stops {root reached : SoundCard} {path segment : String}
    {names rest : List String} {hops : List Hop}
    (hpath : pathSegments path = names ++ segment :: rest)
    (hthrough : Through cards root names hops reached) (hstops : reached.Stops segment rest) :
    (resolve ⟨root, []⟩ path).run.eval cards
      = .error (.unresolvedPath path reached.name segment) := by
  have hwalk := Tables.eval_walk_through root hthrough path
    (List.cons_ne_nil segment rest) []
  rw [List.nil_append, Tables.walk_of_stops path _ hstops, ← hpath] at hwalk
  have heval : ((Tables.mk root []).resolve path).eval cards
      = (.error (.unresolvedPath path reached.name segment), Tables.alongHops root hops) := hwalk
  rw [eval_resolve, heval]
  rfl

/-- **Resolving a path is walking the schema.**  On a store that answers from a set of cards in
which all references lead to cards, and with nothing resolved before, a path has a column exactly if
every segment but the last crosses a reference of the card reached, and the last names a member of
it; the column is that of the member, on the table of the card reached.  Otherwise the error names
the path, the first segment at which the walk stops, and the card reached there.  What the walk
would answer behind the last segment is never the answer. -/
theorem resolve_walks {σ : Type} (b : Backend σ) (cards : String → Except Error SoundCard)
    (c : Context σ) (hsteady : Cards.Steady b cards c)
    (hclosed : ∀ name card, cards name = .ok card → ∀ r ∈ card.references,
      ∃ target, cards r.target = .ok target)
    (name : String) (root : SoundCard) (hroot : cards name = .ok root) (path : String) :
    (∀ ref t, ((Cards.withLoads b (resolve ⟨root, []⟩ path)).run c).1 = .ok (ref, t) ↔
      ∃ names last hops reached m, pathSegments path = names ++ [last]
        ∧ Through cards root names hops reached ∧ reached.Names last m
        ∧ ref = ⟨names.length, m.column.1, m.column.2⟩ ∧ t = Tables.alongHops root hops
        ∧ t.cardAt? names.length = some reached)
    ∧ (∀ e, ((Cards.withLoads b (resolve ⟨root, []⟩ path)).run c).1 = .error e ↔
      ∃ names segment rest hops reached, pathSegments path = names ++ segment :: rest
        ∧ Through cards root names hops reached ∧ reached.Stops segment rest
        ∧ e = .unresolvedPath path reached.name segment)
    ∧ ∀ after, Tables.walkOr after path 0 root (pathSegments path) ⟨root, []⟩
      = Tables.resolve ⟨root, []⟩ path := by
  have hends := exists_end hclosed (pathSegments_ne_nil path) (not_mem_pathSegments path)
    ⟨name, hroot⟩
  rw [(hsteady.run_withLoads _).1]
  refine ⟨?_, ?_, fun after => Tables.walkOr_eq_walk after path 0 root _ (pathSegments_ne_nil path)⟩
  · intro ref t
    constructor
    · intro hok
      rcases hends with ⟨names, last, hops, reached, m, hpath, hthrough, hm⟩
        | ⟨names, segment, rest, hops, reached, hpath, hthrough, hstops⟩
      · rw [eval_resolve_of_names hpath hthrough hm] at hok
        obtain ⟨rfl, rfl⟩ := Prod.mk.inj (Except.ok.inj hok)
        have hcard := Tables.cardAt?_alongHops root hthrough [] rfl
        rw [List.nil_append, ← hthrough.length_eq] at hcard
        exact ⟨names, last, hops, reached, m, hpath, hthrough, hm, rfl, rfl, hcard⟩
      · rw [eval_resolve_of_stops hpath hthrough hstops] at hok
        cases hok
    · rintro ⟨names, last, hops, reached, m, hpath, hthrough, hm, rfl, rfl, _⟩
      exact eval_resolve_of_names hpath hthrough hm
  · intro e
    constructor
    · intro herror
      rcases hends with ⟨names, last, hops, reached, m, hpath, hthrough, hm⟩
        | ⟨names, segment, rest, hops, reached, hpath, hthrough, hstops⟩
      · rw [eval_resolve_of_names hpath hthrough hm] at herror
        cases herror
      · rw [eval_resolve_of_stops hpath hthrough hstops] at herror
        exact ⟨names, segment, rest, hops, reached, hpath, hthrough, hstops,
          (Except.error.inj herror).symm⟩
    · rintro ⟨names, segment, rest, hops, reached, hpath, hthrough, hstops, rfl⟩
      exact eval_resolve_of_stops hpath hthrough hstops

end Query

/-! ## §5. People and departments. -/

/-- A path from a person that stops at the department, which has no wages. -/
theorem resolve_walks_staff :
    Cards.Steady .unreachable staffByName staffContext
      ∧ (∀ name card, staffByName name = .ok card → ∀ r ∈ card.references,
        ∃ target, staffByName r.target = .ok target)
      ∧ staffByName "person" = .ok personCard
      ∧ ((Cards.withLoads .unreachable (Query.resolve ⟨personCard, []⟩ "department.wages.x")).run
        staffContext).1 = .error (.unresolvedPath "department.wages.x" "department" "wages") := by
  have hsteady : Cards.Steady .unreachable staffByName staffContext :=
    Cards.steady_of_descriptors .unreachable rfl
  have htargets : ∀ d ∈ (OrderedMap.ofList (staffCards.map fun c => (c.name, c))).toList,
      ∀ r ∈ d.2.references, (staffByName r.target).isOk = true := by decide +kernel
  have hclosed : ∀ name card, staffByName name = .ok card → ∀ r ∈ card.references,
      ∃ target, staffByName r.target = .ok target := by
    intro name card hcard r hr
    have hok := htargets _ (Card.Store.mem_of_described hcard) r hr
    cases htarget : staffByName r.target with
    | error e =>
      rw [htarget] at hok
      cases hok
    | ok target => exact ⟨target, rfl⟩
  have hroot : staffByName "person" = .ok personCard := rfl
  have hcross : personCard.Crosses "department"
      ⟨none, "department", "DEPT_ID", "department", idType⟩ := ⟨by decide, rfl⟩
  have hdepartments : ∀ d ∈ (OrderedMap.ofList (staffCards.map fun c => (c.name, c))).toList,
      d.1 = "department" → d.2.name = "department" ∧ d.2.member? "wages" = none := by
    decide +kernel
  obtain ⟨department, hdepartment⟩ := hclosed _ _ hroot _ (Card.mem_references_of_member? hcross.2)
  obtain ⟨hname, hnone⟩ := hdepartments _ (Card.Store.mem_of_described hdepartment) rfl
  have hstops : department.Stops "wages" ["x"] := by
    intro m hm
    rw [Card.names_iff.1 hm] at hnone
    cases hnone
  have hpath : pathSegments "department.wages.x" = ["department"] ++ "wages" :: ["x"] := by decide
  have hwalks := Query.resolve_walks .unreachable staffByName staffContext hsteady hclosed "person"
    personCard hroot "department.wages.x"
  exact ⟨hsteady, hclosed, hroot, (hwalks.2.1 _).2 ⟨["department"], "wages", ["x"], _, department,
    hpath, .cons hcross hdepartment (.nil department), hstops, by rw [hname]⟩⟩

end CardStore
