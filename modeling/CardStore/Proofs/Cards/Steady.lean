/-
  CardStore.Proofs.Cards.Steady
  ─────────────────────────────
  **STORES THAT ANSWER THE SAME CARDS THROUGHOUT.**

  A card that is loaded is kept, so a load changes the store for the loads
  behind it.  A store is steady if nobody can tell: each load answers from one
  set of cards, whatever has been loaded before.  A script of look-ups then
  yields what it yields against the set of cards itself.

  A store of descriptors is steady, whatever is in its cache: a cached card
  comes first anyway, and a descriptor that is kept is kept as it was answered.

  Main statements:
    * `Steady.run_withLoads` — a script of look-ups against a steady store.
    * `steady_of_descriptors` — a store of descriptors is steady.
-/
import CardStore.Cards.Load
import CardStore.Proofs.Context

namespace CardStore

/-! ## §1. What a store of descriptors answers. -/

/-- The answer of a store of descriptors: the card that is cached, or else the descriptor of the
name if it is sound. -/
def Card.Store.described (s : Card.Store) (descriptors : OrderedMap Card) (name : String) :
    Except Error SoundCard :=
  match s.cached? name with
  | some card => .ok card
  | none => match descriptors.get? name with
    | none => .error (.cardNotFound name)
    | some card => card.checked

/-- A card that is kept where there was none is the answer from then on. -/
theorem Card.Store.keep_of_none {s : Card.Store} {name : String} (card : SoundCard)
    (h : s.cached? name = none) :
    s.keep name card = (card, { s with cache := s.cache.set name card }) := by
  rw [keep, h]

/-- A card that was answered changes nothing when it is kept. -/
theorem Card.Store.described_keep {s : Card.Store} {descriptors : OrderedMap Card} {name : String}
    {card : SoundCard} (hcached : s.cached? name = none)
    (h : s.described descriptors name = .ok card) :
    (s.keep name card).2.described descriptors = s.described descriptors := by
  funext other
  by_cases hother : other = name
  · rw [hother, h, described, cached?_keep, if_pos rfl, keep_of_none card hcached]
  · rw [described, described, cached?_keep, if_neg hother]

theorem Card.eq_of_checked {card : Card} {sound : SoundCard} (h : card.checked = .ok sound) :
    sound.toCard = card := by
  unfold checked at h
  split at h
  · rw [← Except.ok.inj h]
  · cases h

/-- The answers of a store with an empty cache are descriptors. -/
theorem Card.Store.mem_of_described {descriptors : OrderedMap Card} {name : String}
    {card : SoundCard} (h : (ofSource (.descriptors descriptors)).described descriptors name
      = .ok card) : (name, card.toCard) ∈ descriptors.toList := by
  have hnone : (ofSource (.descriptors descriptors)).cached? name = none := rfl
  rw [described, hnone] at h
  cases hfound : descriptors.get? name with
  | none =>
    rw [hfound] at h
    cases h
  | some descriptor =>
    rw [hfound] at h
    rw [Card.eq_of_checked h]
    exact Pairs.mem_of_get? hfound

/-- **Nothing but the cards that are kept and the log** is different afterwards, and the store
answers from the descriptors as it did. -/
structure Context.Undisturbed {σ : Type} (descriptors : OrderedMap Card) (c c' : Context σ) :
    Prop where
  rest : c' = { c with cards := c'.cards, log := c'.log }
  source : c'.cards.source = .descriptors descriptors
  described : c'.cards.described descriptors = c.cards.described descriptors

/-- The context after the descriptors have been asked once more. -/
def Context.asked {σ : Type} (c : Context σ) : Context σ :=
  { c with cards := { c.cards with lookups := c.cards.lookups + 1 } }

namespace Cards

variable {σ : Type}

theorem run_load_of_cached (b : Backend σ) {c : Context σ} {name : String} {card : SoundCard}
    (h : c.cards.cached? name = some card) : (load b name).run c = (.ok card, c) := by
  have hget : (get : Action σ (Context σ)).run c = (.ok c, c) := rfl
  rw [load, Action.run_bind_ok hget, h]
  rfl

theorem run_lookUp_of_descriptors (b : Backend σ) {c : Context σ} {descriptors : OrderedMap Card}
    (h : c.cards.source = .descriptors descriptors) (name : String) :
    (lookUp b name).run c = (.ok (descriptors.get? name), c.asked) := by
  have hget : (get : Action σ (Context σ)).run c = (.ok c, c) := rfl
  rw [lookUp, Action.run_bind_ok hget, h]
  rfl

/-- **A load from descriptors** answers what the store answers, and disturbs nothing. -/
theorem run_load_of_descriptors (b : Backend σ) {c : Context σ} {descriptors : OrderedMap Card}
    (h : c.cards.source = .descriptors descriptors) (name : String) :
    ∃ c', (load b name).run c = (c.cards.described descriptors name, c')
      ∧ c.Undisturbed descriptors c' := by
  cases hcached : c.cards.cached? name with
  | some card =>
    refine ⟨c, ?_, rfl, h, rfl⟩
    rw [run_load_of_cached b hcached, Card.Store.described, hcached]
  | none =>
    have hget : (get : Action σ (Context σ)).run c = (.ok c, c) := rfl
    have hdescribed : c.cards.described descriptors name = match descriptors.get? name with
        | none => .error (.cardNotFound name)
        | some card => card.checked := by
      rw [Card.Store.described, hcached]
    rw [load, Action.run_bind_ok hget, hcached]
    dsimp only
    rw [Action.run_bind_ok (run_lookUp_of_descriptors b h name)]
    cases hfound : descriptors.get? name with
    | none =>
      rw [hfound] at hdescribed
      rw [hdescribed]
      exact ⟨c.asked, rfl, rfl, h, rfl⟩
    | some card =>
      rw [hfound] at hdescribed
      dsimp only at hdescribed ⊢
      cases hchecked : card.checked with
      -- a card that is not sound is not kept
      | error e =>
        rw [hdescribed, hchecked]
        exact ⟨c.asked, rfl, rfl, h, rfl⟩
      | ok sound =>
        rw [hchecked] at hdescribed
        have hkeep : c.asked.cards.keep name sound
            = (sound, { c.asked.cards with cache := c.cards.cache.set name sound }) :=
          Card.Store.keep_of_none sound hcached
        refine ⟨{ c.asked.note (loadedEvent sound.toCard) with
          cards := (c.asked.cards.keep name sound).2 }, ?_, rfl, ?_, ?_⟩
        · rw [hdescribed]
          have hanswer : (.ok (c.asked.cards.keep name sound).1 : Except Error SoundCard)
              = .ok sound := by rw [hkeep]
          exact Prod.ext hanswer rfl
        · rw [hkeep]
          exact h
        · exact Card.Store.described_keep (s := c.asked.cards) hcached hdescribed

/-! ## §2. Steady stores. -/

/-- The context after some cards have been loaded, one after another. -/
def afterLoads (b : Backend σ) (names : List String) (c : Context σ) : Context σ :=
  names.foldl (fun c name => ((load b name).run c).2) c

/-- **A steady store** answers loads from one set of cards, whatever has been loaded before. -/
def Steady (b : Backend σ) (cards : String → Except Error SoundCard) (c : Context σ) : Prop :=
  ∀ names name, ((load b name).run (afterLoads b names c)).1 = cards name

variable {b : Backend σ} {cards : String → Except Error SoundCard} {c : Context σ}

theorem Steady.run_load (h : Steady b cards c) (name : String) :
    ((load b name).run c).1 = cards name ∧ Steady b cards ((load b name).run c).2 :=
  ⟨h [] name, fun names => h (name :: names)⟩

/-- **A script of look-ups** yields against a steady store what it yields against its cards, and
leaves the store steady. -/
theorem Steady.run_script {α : Type} (script : Lookup α) : ∀ {c : Context σ}, Steady b cards c →
    (script.run (fun name c => (load b name).run c) c).1 = script.eval cards
      ∧ Steady b cards (script.run (fun name c => (load b name).run c) c).2 := by
  induction script with
  | done a =>
    intro c h
    exact ⟨rfl, h⟩
  | ask name k ih =>
    intro c h
    obtain ⟨hanswer, hlater⟩ := h.run_load name
    rw [Script.run, Script.eval, ← hanswer]
    exact ih _ hlater

theorem Steady.run_withLoads {α : Type} (h : Steady b cards c) (script : ExceptT Error Lookup α) :
    ((withLoads b script).run c).1 = script.run.eval cards
      ∧ Steady b cards ((withLoads b script).run c).2 :=
  h.run_script script.run

/-- **A store of descriptors is steady**, whatever it has in its cache. -/
theorem steady_of_descriptors (b : Backend σ) {c : Context σ} {descriptors : OrderedMap Card}
    (h : c.cards.source = .descriptors descriptors) :
    Steady b (c.cards.described descriptors) c := by
  intro names
  induction names generalizing c with
  | nil =>
    intro name
    obtain ⟨c', hrun, _⟩ := run_load_of_descriptors b h name
    show ((load b name).run c).1 = _
    rw [hrun]
  | cons first names ih =>
    obtain ⟨c', hrun, hlast⟩ := run_load_of_descriptors b h first
    have hlater : afterLoads b (first :: names) c = afterLoads b names c' := by
      rw [afterLoads, List.foldl_cons, hrun, afterLoads]
    rw [hlater, ← hlast.described]
    exact ih hlast.source

end Cards

end CardStore
