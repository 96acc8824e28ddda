/-
  CardStore.Proofs.Cards.Loading
  ──────────────────────────────
  **ALL WHO LOAD CARDS AT ONCE.**

  Any number of loads share a store of cards, and others drop cards from it
  meanwhile.  A load reads the cache, asks the source if the cache has
  nothing, and keeps what it was answered.  Between any two of these steps
  any others may come, and the source may answer each time as it likes: with
  a card, another one, none or an error.

  Main statements:
    * `move_iff` — what a turn can do.
    * `playAll_settled` — a load that is done stays as it is.
    * `Supplied.playAll` — where the cards in a cache and in the hands of loads come from.
    * `load_plays` — a load that nobody comes between is a run of its steps.
-/
import CardStore.Proofs.Cards.Steady
import CardStore.Proofs.Database.Statement
import CardStore.Proofs.Lists

namespace CardStore.Cards

open Card (Store)

/-! ## §1. Loads. -/

/-- How far a load has got. -/
inductive Loading where
  /-- It has not looked yet whether the card is cached. -/
  | arriving
  /-- It is not, and the source is asked. -/
  | asking
  /-- The source has answered with a sound card, which is not kept yet. -/
  | keeping (card : SoundCard)
  | loaded (card : SoundCard)
  | failed (e : Error)

/-- Somebody who loads the card of a name. -/
structure Load where
  name : String
  phase : Loading

/-- What the answer of the source is to a load. -/
def Loading.ofAnswer (name : String) : Except Error (Option Card) → Loading
  | .error e => .failed e
  | .ok none => .failed (.cardNotFound name)
  | .ok (some card) => match card.checked with
    | .error e => .failed e
    | .ok card => .keeping card

/-- How a load ends. -/
def Loading.ofResult : Except Error SoundCard → Loading
  | .ok card => .loaded card
  | .error e => .failed e

/-- One step of a load; none when it is done, or has to be answered. -/
def Load.step (s : Store) : Load → Option (Load × Store)
  | ⟨name, .arriving⟩ => match s.cached? name with
    | some card => some (⟨name, .loaded card⟩, s)
    | none => some (⟨name, .asking⟩, s)
  | ⟨name, .keeping card⟩ =>
    let (card, s) := s.keep name card
    some (⟨name, .loaded card⟩, s)
  | _ => none

/-- A store and all who load from it, in the order in which they came. -/
structure Loads where
  store : Store
  loads : List Load

/-- A store that nobody loads from. -/
def Loads.quiet (s : Store) : Loads := ⟨s, []⟩

/-- Who is next. -/
inductive Turn where
  /-- Somebody comes to load a card. -/
  | come (name : String)
  /-- The load at a position does a step. -/
  | act (i : Nat)
  /-- The source answers the load at a position, which asks for a name. -/
  | answer (i : Nat) (name : String) (found : Except Error (Option Card))
  | invalidate (name : String)
  | clear

namespace Turn

/-- What is under way after a turn; none if the turn cannot be taken. -/
def play (s : Loads) : Turn → Option Loads
  | .come name => some ⟨s.store, s.loads ++ [⟨name, .arriving⟩]⟩
  | .act i => match s.loads[i]? with
    | some load => (load.step s.store).map fun (load, store) => ⟨store, s.loads.set i load⟩
    | none => none
  | .answer i name found => match s.loads[i]? with
    | some ⟨asked, .asking⟩ =>
      if asked = name then some ⟨s.store, s.loads.set i ⟨name, .ofAnswer name found⟩⟩ else none
    | _ => none
  | .invalidate name => some ⟨(s.store.invalidate name).2, s.loads⟩
  | .clear => some ⟨s.store.clear, s.loads⟩

/-- The card that the source serves under a name. -/
def served? (name : String) : Turn → Option Card
  | .answer _ asked found => if asked = name then found.toOption.join else none
  | _ => none

/-- A turn that drops the card of a name from the cache. -/
def drops (name : String) : Turn → Bool
  | .invalidate other => other == name
  | .clear => true
  | _ => false

/-- A turn of the load at a position. -/
def isOf (i : Nat) : Turn → Bool
  | .act j | .answer j _ _ => j == i
  | _ => false

end Turn

/-- What is under way after some turns. -/
def playAll (turns : List Turn) (s : Loads) : Option Loads :=
  turns.foldlM (fun s turn => turn.play s) s

/-- The cards that the source serves under a name. -/
def served (name : String) (turns : List Turn) : List Card := turns.filterMap (Turn.served? name)

theorem playAll_cons (turn : Turn) (turns : List Turn) (s : Loads) :
    playAll (turn :: turns) s = (turn.play s).bind (playAll turns) := rfl

theorem playAll_append (front back : List Turn) (s : Loads) :
    playAll (front ++ back) s = (playAll front s).bind (playAll back) := List.foldlM_append

/-! ## §2. What a turn can do. -/

/-- **What a turn can do.** -/
inductive Move (s : Loads) : Turn → Loads → Prop where
  | come (name : String) : Move s (.come name) ⟨s.store, s.loads ++ [⟨name, .arriving⟩]⟩
  | hit {i : Nat} {name : String} {card : SoundCard} : s.loads[i]? = some ⟨name, .arriving⟩ →
      s.store.cached? name = some card →
      Move s (.act i) ⟨s.store, s.loads.set i ⟨name, .loaded card⟩⟩
  | miss {i : Nat} {name : String} : s.loads[i]? = some ⟨name, .arriving⟩ →
      s.store.cached? name = none → Move s (.act i) ⟨s.store, s.loads.set i ⟨name, .asking⟩⟩
  | refuse {i : Nat} {name : String} {found : Except Error (Option Card)} {e : Error} :
      s.loads[i]? = some ⟨name, .asking⟩ → Loading.ofAnswer name found = .failed e →
      Move s (.answer i name found) ⟨s.store, s.loads.set i ⟨name, .failed e⟩⟩
  | find {i : Nat} {name : String} (card : SoundCard) : s.loads[i]? = some ⟨name, .asking⟩ →
      Move s (.answer i name (.ok (some card.toCard)))
        ⟨s.store, s.loads.set i ⟨name, .keeping card⟩⟩
  | keep {i : Nat} {name : String} {card : SoundCard} : s.loads[i]? = some ⟨name, .keeping card⟩ →
      Move s (.act i)
        ⟨(s.store.keep name card).2, s.loads.set i ⟨name, .loaded (s.store.keep name card).1⟩⟩
  | drop (name : String) : Move s (.invalidate name) ⟨(s.store.invalidate name).2, s.loads⟩
  | clear : Move s .clear ⟨s.store.clear, s.loads⟩

variable {s s' : Loads} {turn : Turn} {turns : List Turn} {name : String}

/-- A sound card passes the check as it is. -/
theorem checked_sound (card : SoundCard) : card.toCard.checked = .ok card := by
  have hsound : card.toCard.check = .ok () := card.check_eq_ok_iff.2 card.sound
  unfold Card.checked
  split
  · rfl
  · rename_i e h
    rw [hsound] at h
    cases h

theorem Loading.ofAnswer_sound (name : String) (card : SoundCard) :
    ofAnswer name (.ok (some card.toCard)) = .keeping card := by
  rw [ofAnswer, checked_sound]

/-- The answer of the source either fails the load or is a sound card. -/
theorem Loading.ofAnswer_cases (name : String) (found : Except Error (Option Card)) :
    (∃ e, ofAnswer name found = .failed e)
      ∨ ∃ card : SoundCard, found = .ok (some card.toCard)
        ∧ ofAnswer name found = .keeping card := by
  cases found with
  | error e => exact .inl ⟨e, rfl⟩
  | ok answer =>
    cases answer with
    | none => exact .inl ⟨_, rfl⟩
    | some card =>
      cases hchecked : card.checked with
      | error e => exact .inl ⟨e, by rw [ofAnswer, hchecked]⟩
      | ok sound =>
        refine .inr ⟨sound, ?_, by rw [ofAnswer, hchecked]⟩
        rw [Card.eq_of_checked hchecked]

theorem move_of_act {i : Nat} (h : (Turn.act i).play s = some s') : Move s (.act i) s' := by
  rw [Turn.play] at h
  split at h
  · rename_i load hload
    obtain ⟨⟨load', store'⟩, hstep, hs'⟩ := Option.map_eq_some_iff.1 h
    cases hs'
    obtain ⟨name, phase⟩ := load
    cases phase with
    | arriving =>
      rw [Load.step] at hstep
      split at hstep
      · rename_i card hcached
        cases hstep
        exact .hit hload hcached
      · rename_i hcached
        cases hstep
        exact .miss hload hcached
    | keeping card =>
      cases hstep
      exact .keep hload
    | asking | loaded _ | failed _ => cases hstep
  · cases h

theorem move_of_answer {i : Nat} {found : Except Error (Option Card)}
    (h : (Turn.answer i name found).play s = some s') : Move s (.answer i name found) s' := by
  rw [Turn.play] at h
  split at h
  · rename_i asked hload
    split at h
    · rename_i hasked
      subst hasked
      cases h
      rcases Loading.ofAnswer_cases asked found with ⟨e, hfailed⟩ | ⟨card, rfl, hkeeping⟩
      · rw [hfailed]
        exact .refuse hload hfailed
      · rw [hkeeping]
        exact .find card hload
    · cases h
  · cases h

/-- **What a turn can do**, whatever the source answers. -/
theorem move_iff : Move s turn s' ↔ turn.play s = some s' := by
  constructor
  · intro h
    cases h with
    | come name => rfl
    | hit hload hcached => simp [Turn.play, hload, Load.step, hcached]
    | miss hload hcached => simp [Turn.play, hload, Load.step, hcached]
    | refuse hload hfailed => simp [Turn.play, hload, hfailed]
    | find card hload => simp [Turn.play, hload, Loading.ofAnswer_sound]
    | keep hload => simp [Turn.play, hload, Load.step]
    | drop name => rfl
    | clear => rfl
  · intro h
    cases turn with
    | come name =>
      cases h
      exact .come name
    | act i => exact move_of_act h
    | answer i name found => exact move_of_answer h
    | invalidate name =>
      cases h
      exact .drop name
    | clear =>
      cases h
      exact .clear

/-- **A law that each move keeps** is kept by a run whose turns it admits. -/
theorem keeps_of_playAll {Law : Loads → Prop} {Admits : Turn → Prop}
    (hmove : ∀ {s s' : Loads} {turn : Turn}, Admits turn → Move s turn s' → Law s → Law s')
    (turns : List Turn) (hadmits : ∀ turn ∈ turns, Admits turn) (h : playAll turns s = some s')
    (hs : Law s) : Law s' :=
  keeps_of_foldlM Law turns (fun turn hturn _ _ hplay => hmove (hadmits turn hturn)
    (move_iff.2 hplay)) h hs

/-! ## §3. Loads that are done. -/

/-- A load that is done. -/
def Loading.Settled : Loading → Prop
  | .loaded _ | .failed _ => True
  | _ => False

/-- Another load than the one at a position stays where that one goes on. -/
theorem getElem?_set_of_ne {i j : Nat} {load load' load'' : Load}
    (hi : s.loads[i]? = some load) (hj : s.loads[j]? = some load') (h : load ≠ load') :
    (s.loads.set j load'')[i]? = some load := by
  have hne : j ≠ i := by
    rintro rfl
    rw [hi] at hj
    exact h (Option.some.inj hj)
  rw [List.getElem?_set_ne hne, hi]

/-- A load that is done has no turn any more. -/
theorem Move.settled {i : Nat} {phase : Loading} (hphase : phase.Settled) (h : Move s turn s')
    (hs : s.loads[i]? = some ⟨name, phase⟩) : s'.loads[i]? = some ⟨name, phase⟩ := by
  cases h with
  | come other =>
    obtain ⟨hlt, _⟩ := List.getElem?_eq_some_iff.1 hs
    exact (List.getElem?_append_left hlt).trans hs
  | hit hload _ | miss hload _ | refuse hload _ | find _ hload | keep hload =>
    refine getElem?_set_of_ne hs hload ?_
    rintro ⟨⟩
    exact hphase
  | drop _ | clear => exact hs

/-- **A load that is done stays as it is.** -/
theorem playAll_settled {i : Nat} {phase : Loading} (hphase : phase.Settled)
    (h : playAll turns s = some s') (hs : s.loads[i]? = some ⟨name, phase⟩) :
    s'.loads[i]? = some ⟨name, phase⟩ :=
  keeps_of_foldlM (fun s => s.loads[i]? = some ⟨name, phase⟩) turns
    (fun _ _ _ _ hplay => (move_iff.2 hplay).settled hphase) h hs

/-! ## §4. Where cards come from. -/

/-- **Whatever is cached** is of some kind, and whatever loads have been answered; and whatever
was returned to those that came at a position or later. -/
structure Supplied (Kind : String → SoundCard → Prop) (since : Nat) (s : Loads) : Prop where
  cached : ∀ {name : String} {card : SoundCard}, s.store.cached? name = some card → Kind name card
  keeping : ∀ {i : Nat} {name : String} {card : SoundCard},
    s.loads[i]? = some ⟨name, .keeping card⟩ → Kind name card
  loaded : ∀ {i : Nat} {name : String} {card : SoundCard}, since ≤ i →
    s.loads[i]? = some ⟨name, .loaded card⟩ → Kind name card

variable {Kind : String → SoundCard → Prop} {since : Nat}

/-- What stands in a list after one position was written. -/
theorem getElem?_set_cases {α : Type} {l : List α} {i j : Nat} {a a' : α}
    (h : (l.set i a)[j]? = some a') : a' = a ∨ l[j]? = some a' := by
  rw [List.getElem?_set] at h
  split at h
  · split at h
    · exact .inl (Option.some.inj h).symm
    · cases h
  · exact .inr h

namespace Supplied

/-- A store that nobody loads from. -/
theorem quiet {store : Store}
    (h : ∀ {name : String} {card : SoundCard}, store.cached? name = some card → Kind name card) :
    Supplied Kind since (.quiet store) := ⟨h, nofun, nofun⟩

/-- A load goes on, with nothing that is not of the kind. -/
theorem set (hs : Supplied Kind since s) {store : Store} (i : Nat) (load : Load)
    (hcached : ∀ {name : String} {card : SoundCard}, store.cached? name = some card →
      Kind name card)
    (hkeeping : ∀ {name : String} {card : SoundCard}, load = ⟨name, .keeping card⟩ →
      Kind name card)
    (hloaded : ∀ {name : String} {card : SoundCard}, load = ⟨name, .loaded card⟩ →
      Kind name card) :
    Supplied Kind since ⟨store, s.loads.set i load⟩ where
  cached := hcached
  keeping := fun h => (getElem?_set_cases h).elim (fun heq => hkeeping heq.symm) hs.keeping
  loaded := fun hsince h =>
    (getElem?_set_cases h).elim (fun heq => hloaded heq.symm) (hs.loaded hsince)

/-- A card that is kept is of the kind, and so is the one that stays. -/
theorem kept {store : Store} {card : SoundCard}
    (hcached : ∀ {name : String} {card : SoundCard}, store.cached? name = some card →
      Kind name card)
    (hcard : Kind name card) : Kind name (store.keep name card).1 := by
  rw [Store.keep]
  split
  · rename_i earlier hearlier
    exact hcached hearlier
  · exact hcard

/-- **What the source serves** is all that is new. -/
theorem move (hturn : ∀ {name : String} {card : SoundCard},
      turn.served? name = some card.toCard → Kind name card)
    (h : Move s turn s') (hs : Supplied Kind since s) : Supplied Kind since s' := by
  cases h with
  | come name =>
    refine ⟨hs.cached, fun {i name card} h => ?_, fun {i name card} hsince h => ?_⟩
    · rw [List.getElem?_append] at h
      split at h
      · exact hs.keeping h
      · cases List.mem_singleton.1 (List.mem_of_getElem? h)
    · rw [List.getElem?_append] at h
      split at h
      · exact hs.loaded hsince h
      · cases List.mem_singleton.1 (List.mem_of_getElem? h)
  | @hit i name card _ hcached =>
    refine hs.set i _ hs.cached nofun ?_
    rintro _ _ ⟨⟩
    exact hs.cached hcached
  | @miss i _ _ _ => exact hs.set i _ hs.cached nofun nofun
  | @refuse i _ _ _ _ _ => exact hs.set i _ hs.cached nofun nofun
  | @find i name card _ =>
    refine hs.set i _ hs.cached ?_ nofun
    rintro _ _ ⟨⟩
    exact hturn (if_pos rfl)
  | @keep i name card hload =>
    have hcard : Kind name card := hs.keeping hload
    refine hs.set i _ ?_ nofun ?_
    · intro other cached h
      rw [Store.cached?_keep] at h
      split at h
      · rename_i hother
        subst hother
        cases h
        exact kept hs.cached hcard
      · exact hs.cached h
    · rintro _ _ ⟨⟩
      exact kept hs.cached hcard
  | drop name =>
    refine ⟨fun {other card} h => ?_, hs.keeping, hs.loaded⟩
    rw [Store.cached?_invalidate] at h
    split at h
    · cases h
    · exact hs.cached h
  | clear => exact ⟨nofun, hs.keeping, hs.loaded⟩

theorem playAll (hs : Supplied Kind since s)
    (hserved : ∀ {name : String} {card : SoundCard}, card.toCard ∈ served name turns →
      Kind name card)
    (h : playAll turns s = some s') : Supplied Kind since s' := by
  have hturns : ∀ turn ∈ turns, ∀ {name : String} {card : SoundCard},
      turn.served? name = some card.toCard → Kind name card :=
    fun turn hturn _ _ hcard => hserved (List.mem_filterMap.2 ⟨turn, hturn, hcard⟩)
  exact keeps_of_playAll (fun hturn hmove => move hturn hmove) turns hturns h hs

end Supplied

/-! ## §5. A load that nobody comes between. -/

variable {σ α β : Type}

/-- An operation leaves the cache alone. -/
def SparesCache (act : Action σ α) : Prop :=
  ∀ c : Context σ, (act.run c).2.cards.cache = c.cards.cache

theorem SparesCache.bind {act : Action σ α} {f : α → Action σ β} (h : SparesCache act)
    (hf : ∀ a, SparesCache (f a)) : SparesCache (act >>= f) := by
  intro c
  have hact := h c
  rw [Action.run_bind]
  cases hrun : act.run c with
  | mk answer c₁ =>
    rw [hrun] at hact
    cases answer with
    | ok a => exact (hf a c₁).trans hact
    | error e => exact hact

theorem sparesCache_ofExcept (answer : Except Error α) :
    SparesCache (σ := σ) (ExceptT.mk (pure answer)) := fun _ => rfl

/-- A query uses the pool and the backend of its database. -/
theorem sparesCache_query (b : Backend σ) (db : Database) (sql : String) (params : List Value) :
    SparesCache (Database.query b db sql params) := by
  intro c
  have hborrow : ((Database.borrow b db.name).run c).2.cards = c.cards :=
    (Database.tended_borrow b db.name c).cards_eq
  rw [Database.query]
  cases hrun : (Database.borrow b db.name).run c with
  | mk answer c₁ =>
    rw [hrun] at hborrow
    cases answer with
    | ok lent =>
      rw [Database.run_withConnection_served _ hrun, Database.run_send]
      exact congrArg Store.cache hborrow
    | error e =>
      rw [Database.run_withConnection_refused _ hrun]
      exact congrArg Store.cache hborrow

theorem sparesCache_find (b : Backend σ) (db : Database) (name : String) :
    SparesCache (CardTables.find b db name) := by
  refine (sparesCache_query b db _ _).bind fun cards => ?_
  split
  · exact fun _ => rfl
  · refine (sparesCache_ofExcept _).bind fun card => ?_
    refine (sparesCache_query b db _ _).bind fun fields => ?_
    refine (sparesCache_ofExcept _).bind fun fields => ?_
    refine (sparesCache_query b db _ _).bind fun references => ?_
    exact (sparesCache_ofExcept _).bind fun references => fun _ => rfl

/-- The source is asked without the cache. -/
theorem sparesCache_lookUp (b : Backend σ) (name : String) : SparesCache (lookUp b name) := by
  intro c
  have hget : (get : Action σ (Context σ)).run c = (.ok c, c) := rfl
  rw [lookUp, Action.run_bind_ok hget]
  cases c.cards.source with
  | descriptors cards => rfl
  | database database =>
    exact SparesCache.bind (fun _ => rfl) (fun db => sparesCache_find b db name) c

section

variable {b : Backend σ} {c c₁ : Context σ} {found : Except Error (Option Card)}

/-- A load whose answer fails it. -/
theorem run_load_of_failed {e : Error} (hcached : c.cards.cached? name = none)
    (hrun : (lookUp b name).run c = (found, c₁)) (h : Loading.ofAnswer name found = .failed e) :
    (load b name).run c = (.error e, c₁) := by
  have hget : (get : Action σ (Context σ)).run c = (.ok c, c) := rfl
  rw [load, Action.run_bind_ok hget, hcached]
  dsimp only
  rw [Action.run_bind, hrun]
  cases found with
  | error e =>
    cases h
    rfl
  | ok answer =>
    cases answer with
    | none =>
      cases h
      rfl
    | some card =>
      rw [Loading.ofAnswer] at h
      dsimp only
      cases hchecked : card.checked with
      | error e =>
        rw [hchecked] at h
        cases h
        rfl
      | ok sound =>
        rw [hchecked] at h
        cases h

/-- A load that is answered with a sound card keeps it. -/
theorem run_load_of_keeping {card : SoundCard} (hcached : c.cards.cached? name = none)
    (hrun : (lookUp b name).run c = (.ok (some card.toCard), c₁)) :
    (load b name).run c = (.ok (c₁.cards.keep name card).1,
      { c₁.note (loadedEvent card.toCard) with cards := (c₁.cards.keep name card).2 }) := by
  have hget : (get : Action σ (Context σ)).run c = (.ok c, c) := rfl
  rw [load, Action.run_bind_ok hget, hcached]
  dsimp only
  rw [Action.run_bind_ok hrun]
  dsimp only
  rw [checked_sound]
  rfl

/-- The steps of a load that finds nothing in the cache and is answered. -/
theorem playAll_answered (found : Except Error (Option Card)) {store : Store}
    (h : store.cached? name = none) :
    playAll [.come name, .act 0, .answer 0 name found] (.quiet store)
      = some ⟨store, [⟨name, .ofAnswer name found⟩]⟩ := by
  simp [CardStore.Cards.playAll, Turn.play, Loads.quiet, Load.step, h]

end

/-- **A load that nobody comes between** is a run of its steps: it looks whether the card is cached,
and if it is not, the source is asked, and a sound card is kept. -/
theorem load_plays (b : Backend σ) (name : String) (c : Context σ) :
    ∃ turns store, playAll (.come name :: .act 0 :: turns) (.quiet c.cards)
        = some ⟨store, [⟨name, .ofResult ((load b name).run c).1⟩]⟩
      ∧ store.cache = ((load b name).run c).2.cards.cache
      ∧ (turns = [] ∨ turns = [.answer 0 name ((lookUp b name).run c).1]
        ∨ turns = [.answer 0 name ((lookUp b name).run c).1, .act 0]) := by
  cases hcached : c.cards.cached? name with
  | some card =>
    rw [run_load_of_cached b hcached]
    refine ⟨[], c.cards, ?_, rfl, .inl rfl⟩
    simp [CardStore.Cards.playAll, Turn.play, Loads.quiet, Load.step, hcached, Loading.ofResult]
  | none =>
    have hspares := sparesCache_lookUp b name c
    cases hrun : (lookUp b name).run c with
    | mk found c₁ =>
      rw [hrun] at hspares
      have hanswered := playAll_answered found hcached
      rcases Loading.ofAnswer_cases name found with ⟨e, hfailed⟩ | ⟨card, rfl, hkeeping⟩
      · rw [run_load_of_failed hcached hrun hfailed]
        rw [hfailed] at hanswered
        exact ⟨_, c.cards, hanswered, hspares.symm, .inr (.inl rfl)⟩
      · -- nobody was faster, so it is this card that stays
        have hcached₁ : c₁.cards.cached? name = none :=
          (congrArg (·.get? name) hspares).trans hcached
        rw [run_load_of_keeping hcached hrun, Card.Store.keep_of_none card hcached₁]
        rw [hkeeping] at hanswered
        refine ⟨[.answer 0 name (.ok (some card.toCard)), .act 0], (c.cards.keep name card).2,
          ?_, ?_, .inr (.inr rfl)⟩
        · show playAll ([.come name, .act 0, .answer 0 name _] ++ [.act 0]) _ = _
          rw [playAll_append, hanswered]
          simp [CardStore.Cards.playAll, Turn.play, Load.step, Loading.ofResult,
            Card.Store.keep_of_none card hcached]
        · rw [Card.Store.keep_of_none card hcached]
          exact congrArg (·.set name card) hspares.symm

/-! ## §6. A card that changes. -/

/-- A store that has nothing yet. -/
def noCards : Store := .ofSource (.ofCards [])

theorem cached?_noCards (name : String) : noCards.cached? name = none := rfl

/-- The card of a unit. -/
def unitBefore : SoundCard := ⟨Card.ofTable "unit" "UNIT", by decide +kernel⟩

/-- The card of a unit after its table was renamed. -/
def unitAfter : SoundCard := ⟨Card.ofTable "unit" "UNIT2", by decide +kernel⟩

end CardStore.Cards
