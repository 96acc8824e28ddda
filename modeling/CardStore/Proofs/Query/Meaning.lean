/-
  CardStore.Proofs.Query.Meaning
  ──────────────────────────────
  **WHEN A PATH MEANS THE SAME WHATEVER WAS RESOLVED BEFORE IT.**

  On tables that nothing is joined to yet, a path leads where its references
  lead, each of them to the table of its own target.  Behind other paths it
  leads there too if the card is unforked.  If it is not, two of its paths
  cross one column for different targets, and the second one of them goes
  along the table that was joined for the first.

  Main statements:
    * `Query.destinationOf_root` — a path on its own leads where its references lead.
    * `Query.destination_resolve` — so does a path behind others of an unforked card.
    * `Query.unforked_of_same` — only these paths mean the same behind all others.
    * `Query.sameMeaning_iff_unforked` — when paths mean the same behind all others.
-/
import CardStore.Proofs.Query.Outlast

namespace CardStore

namespace Query

variable {σ : Type} {cards : String → Except Error SoundCard}

/-! ## §1. Destinations. -/

/-- Where a path leads that is resolved behind others, which have left some tables: the references
that are crossed, each with the card of the table behind it, and the column. -/
def destinationOf (b : Backend σ) (c : Context σ) (t : Tables) (path : String) :
    Except Error Destination :=
  ((Cards.withLoads b (resolve t path)).run c).1.map fun (ref, t') => t'.destination ref

/-- The cards of a steady store alone decide where a path leads. -/
theorem destinationOf_of_steady {b : Backend σ} {c : Context σ} (h : Cards.Steady b cards c)
    (t : Tables) (path : String) : destinationOf b c t path
      = ((t.resolve path).eval cards).1.map ((t.resolve path).eval cards).2.destination := by
  rw [destinationOf, (h.run_withLoads _).1, eval_resolve]
  cases ((t.resolve path).eval cards).1 with
  | ok ref => rfl
  | error e => rfl

/-- **A path on its own** leads where its references lead. -/
theorem destinationOf_root {b : Backend σ} {c : Context σ} (h : Cards.Steady b cards c)
    (root : SoundCard) (path : String) :
    destinationOf b c ⟨root, []⟩ path = follow cards root path := by
  rw [destinationOf_of_steady h]
  exact Tables.guides_last.walk path _ 0 root ⟨root, []⟩ _ _ (not_mem_pathSegments path)
    ⟨Tables.charted_root root, rfl, rfl⟩ rfl

/-! ## §2. Unforked cards. -/

/-- **A path behind others** of an unforked card leads where its references lead. -/
theorem destination_resolve {root : SoundCard} (hfork : Unforked cards root) {t : Tables}
    (ht : t.Faithful cards root) (path : String) :
    ((t.resolve path).eval cards).1.map ((t.resolve path).eval cards).2.destination
      = follow cards root path := by
  refine ((Tables.guides_faithful hfork).walk path _ 0 t.root t _ _ (not_mem_pathSegments path)
    ⟨ht, rfl⟩ rfl).trans ?_
  rw [ht.charted.trail_zero, ht.root_eq]
  rfl

/-! ## §3. Forked cards. -/

/-- The path of names behind one another. -/
def pathOf (names : List String) : String := Text.joined (String.singleton '.') names

theorem pathSegments_pathOf {names : List String} (hne : names ≠ [])
    (hnames : ∀ name ∈ names, '.' ∉ name.toList) : pathSegments (pathOf names) = names :=
  Text.splitAt_joined hne hnames

/-- The segments of a path behind names that lead to a card. -/
theorem pathSegments_through {root card : SoundCard} {names rest : List String} {hops : List Hop}
    (h : Through cards root names hops card) (hne : rest ≠ [])
    (hrest : ∀ name ∈ rest, '.' ∉ name.toList) :
    pathSegments (pathOf (names ++ rest)) = names ++ rest := by
  refine pathSegments_pathOf (List.append_ne_nil_of_right_ne_nil _ hne) ?_
  intro segment hsegment
  rcases List.mem_append.1 hsegment with hsegment | hsegment
  · exact h.not_mem_names segment hsegment
  · exact hrest segment hsegment

/-- The segments of a path to the identifier behind a member of a card that names lead to. -/
theorem pathSegments_behind {root card : SoundCard} {names : List String} {hops : List Hop}
    (h : Through cards root names hops card) {name : String} (hname : '.' ∉ name.toList) :
    pathSegments (pathOf (names ++ [name, idPath])) = names ++ [name, idPath] := by
  refine pathSegments_through h (List.cons_ne_nil _ _) ?_
  intro segment hsegment
  rcases List.mem_pair.1 hsegment with rfl | rfl
  · exact hname
  · decide

/-- **Two paths to one column** of a card, the first of which joins the table behind it: the
second one leads to the same table, whatever the target of its own reference is. -/
theorem exists_fork {root card target : SoundCard} {names : List String} {hops : List Hop}
    (h : Through cards root names hops card) {name name' : String} {r r' : Reference}
    (hname : card.Crosses name r) (hname' : card.Crosses name' r') (hcolumn : r.column = r'.column)
    (htarget : cards r.target = .ok target) :
    ∃ ref t, (Tables.resolve ⟨root, []⟩ (pathOf (names ++ [name, idPath]))).eval cards
        = (.ok ref, t)
      ∧ ((t.resolve (pathOf (names ++ [name', idPath]))).eval cards).1.map
          ((t.resolve (pathOf (names ++ [name', idPath]))).eval cards).2.destination
        = .ok ⟨hops ++ [⟨r.column, target⟩], idPath, idType⟩ := by
  obtain ⟨t', ht', hroot, hcard, htrail, hwalk, _, hagain⟩ :=
    Tables.exists_walk_of_through h (Tables.charted_root root) rfl
  have hnew := ht'.find?_last r.column
  have hfound : (t'.push ⟨t'.joins.length, r.column, target⟩).find? t'.joins.length r'.column
      = some (t'.size, target) := by
    rw [← hcolumn]
    exact Tables.find?_push_self _ hnew
  refine ⟨⟨t'.size, idPath, idType⟩, t'.push ⟨t'.joins.length, r.column, target⟩, ?_, ?_⟩
  -- the first path joins the table behind the column
  · rw [Tables.resolve, pathSegments_behind h hname.1]
    refine (hwalk _ _ (List.cons_ne_nil _ _)).trans ?_
    rw [Tables.eval_walk_of_crosses _ hname (List.cons_ne_nil _ _) hnew htarget]
    rfl
  -- the second path finds it there
  · have hgrows : t'.Grows (t'.push ⟨t'.joins.length, r.column, target⟩) :=
      .join hcard (Card.mem_references_of_member? hname.2) hnew (.refl _)
    have hresolve : (Tables.resolve (t'.push ⟨t'.joins.length, r.column, target⟩)
        (pathOf (names ++ [name', idPath]))).eval cards
          = (.ok ⟨t'.size, idPath, idType⟩, t'.push ⟨t'.joins.length, r.column, target⟩) := by
      have hstart : (t'.push ⟨t'.joins.length, r.column, target⟩).root = root := hroot
      rw [Tables.resolve, pathSegments_behind h hname'.1, hstart]
      refine (congrArg _ (hagain _ _ _ (List.cons_ne_nil _ _) hgrows)).trans ?_
      rw [Tables.walk_of_find? _ hname'.2 (List.cons_ne_nil _ _) hfound]
      rfl
    have hhops : (t'.push ⟨t'.joins.length, r.column, target⟩).trail t'.size
        = hops ++ [⟨r.column, target⟩] := by
      rw [ht'.trail_push_size, htrail]
      rfl
    rw [hresolve]
    show Except.ok (Tables.destination _ ⟨t'.size, idPath, idType⟩) = _
    rw [Tables.destination, hhops]

/-- **Only the paths of an unforked card** mean the same behind all others. -/
theorem unforked_of_same {b : Backend σ} {c c' : Context σ} (hc : Cards.Steady b cards c)
    (hc' : Cards.Steady b cards c') {root : SoundCard}
    (hsame : ∀ before refs t c₁,
      (Cards.withLoads b (resolveModel before [] ⟨root, []⟩)).run c = (.ok (refs, t), c₁) →
        ∀ path, destinationOf b c₁ t path = destinationOf b c' ⟨root, []⟩ path) :
    Unforked cards root := by
  intro names hops card hthrough name name' r r' target hname hname' hcolumn htarget
  obtain ⟨ref, t, hfirst, hsecond⟩ := exists_fork hthrough hname hname' hcolumn htarget
  have hrun : ((Cards.withLoads b (resolveModel [pathOf (names ++ [name, idPath])] []
      ⟨root, []⟩)).run c).1 = .ok ([ref], t) := by
    rw [(hc.run_withLoads _).1, resolveModel]
    refine Script.eval_bind_eq_ok_iff.2 ⟨(ref, t), ?_, rfl⟩
    rw [eval_resolve, hfirst]
    rfl
  have hpath := hsame _ _ _ _ (Prod.ext hrun rfl) (pathOf (names ++ [name', idPath]))
  rw [destinationOf_of_steady (hc.run_withLoads _).2, hsecond, destinationOf_root hc', follow,
    pathSegments_behind hthrough hname'.1,
    hthrough.followFrom_append _ _ (List.cons_ne_nil _ _)] at hpath
  -- on its own the second path leads to the target of its own reference
  cases htarget' : cards r'.target with
  | error e =>
    rw [followFrom, hname'.2] at hpath
    dsimp only at hpath
    rw [List.isEmpty_cons, if_neg Bool.false_ne_true, htarget'] at hpath
    cases hpath
  | ok target' =>
    rw [followFrom_of_crosses _ _ _ hname' (List.cons_ne_nil _ _) htarget'] at hpath
    have hhops : hops ++ [⟨r.column, target⟩] = [] ++ hops ++ [⟨r'.column, target'⟩] :=
      congrArg Destination.hops (Except.ok.inj hpath)
    rw [List.nil_append, List.append_cancel_left_eq, List.singleton_inj, Hop.mk.injEq] at hhops
    rw [hhops.2]

/-! ## §4. Paths behind others. -/

/-- **What a path means.** On a steady store, a path on its own leads where its references lead,
each of them to the table of its own target, and says so if one of its names or cards is not
there.  Behind all paths that have been resolved before it, it leads to the same column over the
same columns and tables, or fails in the same way, exactly if the references of a card that lie
over one column lead to one card, wherever references lead from the root. -/
theorem sameMeaning_iff_unforked (b : Backend σ) (cards : String → Except Error SoundCard)
    (c c' : Context σ) (hc : Cards.Steady b cards c) (hc' : Cards.Steady b cards c')
    (root : SoundCard) :
    (∀ path, destinationOf b c' ⟨root, []⟩ path = follow cards root path)
      ∧ ((∀ before refs t c₁,
          (Cards.withLoads b (resolveModel before [] ⟨root, []⟩)).run c = (.ok (refs, t), c₁) →
            ∀ path, destinationOf b c₁ t path = destinationOf b c' ⟨root, []⟩ path)
        ↔ Unforked cards root) := by
  refine ⟨destinationOf_root hc' root, unforked_of_same hc hc', ?_⟩
  intro hfork before refs t c₁ hrun path
  have heval : (resolveModel before [] ⟨root, []⟩).run.eval cards = .ok (refs, t) := by
    rw [← (hc.run_withLoads _).1, hrun]
  have hlater : Cards.Steady b cards c₁ := by
    have hsteady := (hc.run_withLoads (resolveModel before [] ⟨root, []⟩)).2
    rw [hrun] at hsteady
    exact hsteady
  have ht := outlasts_resolveModel (Tables.outlasts_faithful root) _ (Tables.faithful_root root) heval
  rw [destinationOf_of_steady hlater, destination_resolve hfork ht path,
    destinationOf_root hc']

end Query

/-! ## §5. People, and a card that is forked. -/

/-- The cards of people and departments by their names. -/
def staffByName : String → Except Error SoundCard :=
  staffContext.cards.described (.ofList (staffCards.map fun c => (c.name, c)))

/-- A path from a person means the same behind all others. -/
theorem sameMeaning_staff :
    Cards.Steady .unreachable staffByName staffContext
      ∧ ∀ before refs t c₁, (Cards.withLoads .unreachable
          (Query.resolveModel before [] ⟨personCard, []⟩)).run staffContext
            = (.ok (refs, t), c₁) →
        ∀ path, Query.destinationOf .unreachable c₁ t path
          = Query.destinationOf .unreachable staffContext ⟨personCard, []⟩ path := by
  have hsteady : Cards.Steady .unreachable staffByName staffContext :=
    Cards.steady_of_descriptors .unreachable rfl
  have hdescriptors : ∀ d ∈ (OrderedMap.ofList (staffCards.map fun c => (c.name, c))).toList,
      ∀ r ∈ d.2.references, ∀ r' ∈ d.2.references, r.column = r'.column → r.target = r'.target := by
    decide +kernel
  have hunforked : Unforked staffByName personCard := by
    apply unforked_of_targets
    rintro card (rfl | ⟨name, hname⟩)
    · decide +kernel
    · exact hdescriptors _ (Card.Store.mem_of_described hname)
  exact ⟨hsteady, (Query.sameMeaning_iff_unforked .unreachable staffByName staffContext
    staffContext hsteady hsteady personCard).2.2 hunforked⟩

/-- A card with two references over one column. -/
def forkedCard : SoundCard :=
  ⟨((Card.ofTable "K" "KT").withReference "a" "X_ID" "L").withReference "b" "X_ID" "R",
    by decide +kernel⟩

/-- The two targets of the forked card, with a field of one name in different columns. -/
def forkedContext : Context Unit :=
  { Context.ofBackend () default with
    cards := .ofSource (.ofCards [forkedCard.toCard,
      (Card.ofTable "L" "LT").withField "x" "LX" "Text",
      (Card.ofTable "R" "RT").withField "x" "RX" "Text"]) }

/-- The tables that a path crosses, and the column that it leads to. -/
def Destination.summary (d : Destination) : List String × String :=
  (d.hops.map (·.card.table), d.column)

/-- Behind a path over the one reference, a path over the other one leads to the wrong table. -/
theorem not_sameMeaning_forked :
    ∃ refs t c₁, (Cards.withLoads .unreachable
        (Query.resolveModel ["a.x"] [] ⟨forkedCard, []⟩)).run forkedContext
          = (.ok (refs, t), c₁)
      ∧ (Query.destinationOf .unreachable c₁ t "b.x").toOption.map Destination.summary
        = some (["LT"], "LX")
      ∧ (Query.destinationOf .unreachable forkedContext ⟨forkedCard, []⟩ "b.x").toOption.map
          Destination.summary = some (["RT"], "RX") := by
  have hbehind : (match (Cards.withLoads .unreachable
        (Query.resolveModel ["a.x"] [] ⟨forkedCard, []⟩)).run forkedContext with
      | (.ok (_, t), c₁) =>
        (Query.destinationOf .unreachable c₁ t "b.x").toOption.map Destination.summary
      | _ => none) = some (["LT"], "LX") := by decide +kernel
  have halone : (Query.destinationOf .unreachable forkedContext ⟨forkedCard, []⟩ "b.x").toOption.map
      Destination.summary = some (["RT"], "RX") := by decide +kernel
  cases hrun : (Cards.withLoads .unreachable
      (Query.resolveModel ["a.x"] [] ⟨forkedCard, []⟩)).run forkedContext with
  | mk answer c₁ =>
    rw [hrun] at hbehind
    cases answer with
    | error e => cases hbehind
    | ok resolved => exact ⟨resolved.1, resolved.2, c₁, rfl, hbehind, halone⟩

end CardStore
