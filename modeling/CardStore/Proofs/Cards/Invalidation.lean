/-
  CardStore.Proofs.Cards.Invalidation
  ───────────────────────────────────
  **CARDS THAT ARE DROPPED, AND LOADS THAT ARE UNDER WAY.**

  A card is dropped from the cache when it has changed at its source, so that
  the next load asks the source again.  But a load that was answered before
  and has not kept its card yet is not told: it keeps the card that was
  dropped, and from then on every load returns it.

  So a load that comes after a card was dropped returns what the source serves
  after that, or what a load that was under way then had in its hands.

  Main statements:
    * `returned_stale_iff` — the cards from before a drop that later loads return.
    * `returned_stale_overtaken` — a load that is overtaken by a drop.
-/
import CardStore.Proofs.Cards.Loading

namespace CardStore.Cards

open Card (Store)

/-- Some turns after which a load that came with them has returned a card. -/
def ReturnedBy (name : String) (after : List Turn) (s : Loads) (card : SoundCard) : Prop :=
  ∃ (s' : Loads) (i : Nat), playAll after s = some s' ∧ s.loads.length ≤ i
    ∧ s'.loads[i]? = some ⟨name, .loaded card⟩

/-- A load has been answered with a card and has not kept it. -/
def InHand (name : String) (s : Loads) (card : SoundCard) : Prop :=
  ∃ i : Nat, s.loads[i]? = some ⟨name, .keeping card⟩

variable {s s' : Loads} {turn : Turn} {turns : List Turn} {name : String} {card : SoundCard}

/-! ## §1. What a load had in hand. -/

/-- A card that is dropped is not cached, and nobody who loads it is told. -/
theorem Move.dropped (hturn : turn.drops name = true) (h : Move s turn s') :
    s'.store.cached? name = none ∧ s'.loads = s.loads := by
  cases h with
  | drop other =>
    have hother : other = name := by simpa [Turn.drops] using hturn
    refine ⟨?_, rfl⟩
    rw [Store.cached?_invalidate, if_pos hother.symm]
  | clear => exact ⟨rfl, rfl⟩
  | come _ | hit _ _ | miss _ _ | refuse _ _ | find _ _ | keep _ => cases hturn

/-- Cards in hand were served by the source. -/
theorem served_of_inHand {source : CardSource}
    (h : playAll turns (.quiet (.ofSource source)) = some s) (hcard : InHand name s card) :
    card.toCard ∈ served name turns := by
  obtain ⟨i, hkeeping⟩ := hcard
  have hsupplied : Supplied (fun name card => card.toCard ∈ served name turns) 0 s :=
    (Supplied.quiet nofun).playAll (fun hserved => hserved) h
  exact hsupplied.keeping hkeeping

/-- Without a card in the cache, loads that come return what the source serves from then on, or
what others had in hand. -/
theorem ReturnedBy.source (hnone : s.store.cached? name = none)
    (h : ReturnedBy name turns s card) : card.toCard ∈ served name turns ∨ InHand name s card := by
  obtain ⟨s', i, hplay, hlate, hloaded⟩ := h
  have hsupplied : Supplied (fun other card => other = name →
      card.toCard ∈ served name turns ∨ InHand name s card) s.loads.length s := by
    refine ⟨?_, ?_, ?_⟩
    · rintro other card hcached rfl
      rw [hnone] at hcached
      cases hcached
    · rintro i other card hkeeping rfl
      exact .inr ⟨i, hkeeping⟩
    · rintro i other card hlate hloaded
      rw [List.getElem?_eq_none hlate] at hloaded
      cases hloaded
  refine (hsupplied.playAll ?_ hplay).loaded hlate hloaded rfl
  rintro other card hserved rfl
  exact .inl hserved

/-! ## §2. What it does with it. -/

/-- Where no card is cached, a load keeps what it has in hand, and whoever comes next gets it. -/
theorem returnedBy_of_inHand (hnone : s.store.cached? name = none) {i : Nat}
    (h : s.loads[i]? = some ⟨name, .keeping card⟩) :
    ReturnedBy name [.act i, .come name, .act s.loads.length] s card := by
  have hkept : (s.store.keep name card).2.cached? name = some card := by
    rw [Store.cached?_keep, if_pos rfl, Store.keep_of_none card hnone]
  let kept : Loads :=
    ⟨(s.store.keep name card).2, s.loads.set i ⟨name, .loaded (s.store.keep name card).1⟩⟩
  let came : Loads := ⟨kept.store, kept.loads ++ [⟨name, .arriving⟩]⟩
  have hlength : kept.loads.length = s.loads.length := List.length_set
  have hcame : came.loads[s.loads.length]? = some ⟨name, .arriving⟩ := by
    rw [← hlength]
    exact List.getElem?_concat_length
  have hplay : playAll [.act i, .come name, .act s.loads.length] s
      = some ⟨came.store, came.loads.set s.loads.length ⟨name, .loaded card⟩⟩ := by
    rw [playAll_cons, move_iff.1 (.keep h), Option.bind_some, playAll_cons,
      move_iff.1 (.come name), Option.bind_some, playAll_cons, move_iff.1 (.hit hcame hkept)]
    rfl
  refine ⟨_, s.loads.length, hplay, Nat.le_refl _, ?_⟩
  have hlt : s.loads.length < came.loads.length := (List.getElem?_eq_some_iff.1 hcame).1
  exact List.getElem?_set_self hlt

/-! ## §3. Loads that come after a drop. -/

/-- **The cards from before a drop that later loads return.** Take any run of a new store, and let
the card of a name be dropped then.  A load that comes after that can return a card that the source
does not serve after that exactly if some load was under way that had been answered with it and
had not kept it; the source served it before. -/
theorem returned_stale_iff (source : CardSource) (before : List Turn) (drop : Turn) (s₀ s : Loads)
    (name : String) (hbefore : playAll before (.quiet (.ofSource source)) = some s₀)
    (hdrop : drop.play s₀ = some s) (hdrops : drop.drops name = true) (card : SoundCard) :
    ((∃ after, ReturnedBy name after s card ∧ card.toCard ∉ served name after)
        ↔ InHand name s₀ card)
      ∧ (InHand name s₀ card → card.toCard ∈ served name before) := by
  obtain ⟨hnone, hloads⟩ := (move_iff.2 hdrop).dropped hdrops
  refine ⟨⟨?_, ?_⟩, served_of_inHand hbefore⟩
  · rintro ⟨after, hreturned, hstale⟩
    rcases hreturned.source hnone with hserved | ⟨i, hkeeping⟩
    · exact absurd hserved hstale
    · exact ⟨i, hloads ▸ hkeeping⟩
  · rintro ⟨i, hkeeping⟩
    rw [← hloads] at hkeeping
    exact ⟨_, returnedBy_of_inHand hnone hkeeping, List.not_mem_nil⟩

/-- A load is answered, and has not kept its card yet. -/
def answered : List Turn := [.come "unit", .act 0, .answer 0 "unit" (.ok (some unitBefore.toCard))]

theorem playAll_answeredUnit :
    playAll answered (.quiet noCards) = some ⟨noCards, [⟨"unit", .keeping unitBefore⟩]⟩ := by
  rw [answered, playAll_answered _ (cached?_noCards "unit"), Loading.ofAnswer_sound]

/-- The card is dropped, and it is returned to a load that comes afterwards and that the source
would have told of the change; another card is not. -/
theorem returned_stale_iff_answered : ∃ s₀ s : Loads,
    playAll answered (.quiet (.ofSource (.ofCards []))) = some s₀
    ∧ Turn.clear.play s₀ = some s ∧ Turn.clear.drops "unit" = true
    ∧ (∃ after, ReturnedBy "unit" after s unitBefore ∧ unitBefore.toCard ∉ served "unit" after)
    ∧ unitBefore.toCard ∈ served "unit" answered
    ∧ ¬ ∃ after, ReturnedBy "unit" after s unitAfter ∧ unitAfter.toCard ∉ served "unit" after := by
  let s₀ : Loads := ⟨noCards, [⟨"unit", .keeping unitBefore⟩]⟩
  have hheld : InHand "unit" s₀ unitBefore := ⟨0, rfl⟩
  have hother : ¬ InHand "unit" s₀ unitAfter := by
    rintro ⟨i, hi⟩
    have hphase := (Load.mk.inj (List.mem_singleton.1 (List.mem_of_getElem? hi))).2
    exact absurd (Loading.keeping.inj hphase) (by decide)
  have hstale := returned_stale_iff (.ofCards []) answered .clear s₀ _ "unit" playAll_answeredUnit
    rfl rfl
  exact ⟨s₀, _, playAll_answeredUnit, rfl, rfl, (hstale unitBefore).1.2 hheld,
    (hstale unitBefore).2 hheld, fun h => hother ((hstale unitAfter).1.1 h)⟩

/-- A load that is overtaken by a drop: it was answered, the card is dropped, it keeps the card, and
the load that comes then returns what the source served before the drop and not after it. -/
theorem returned_stale_overtaken : ∃ s₀ s s' : Loads,
    playAll [.come "unit", .act 0, .answer 0 "unit" (.ok (some unitBefore.toCard))]
        (.quiet (.ofSource (.ofCards []))) = some s₀
      ∧ (Turn.invalidate "unit").play s₀ = some s
      ∧ playAll [.act 0, .come "unit", .act 1] s = some s'
      ∧ s.loads = [⟨"unit", .keeping unitBefore⟩]
      ∧ s'.loads = [⟨"unit", .loaded unitBefore⟩, ⟨"unit", .loaded unitBefore⟩] := by
  let dropped : Store := (noCards.invalidate "unit").2
  let kept : Store := { dropped with cache := dropped.cache.set "unit" unitBefore }
  have hkeep : dropped.keep "unit" unitBefore = (unitBefore, kept) :=
    Store.keep_of_none unitBefore rfl
  have hcached : kept.cached? "unit" = some unitBefore := by
    simp [kept, Store.cached?, OrderedMap.get?_set]
  have hplay : playAll [.act 0, .come "unit", .act 1] ⟨dropped, [⟨"unit", .keeping unitBefore⟩]⟩
      = some ⟨kept, [⟨"unit", .loaded unitBefore⟩, ⟨"unit", .loaded unitBefore⟩]⟩ := by
    simp [playAll, Turn.play, Load.step, hkeep, hcached]
  exact ⟨_, _, _, playAll_answeredUnit, rfl, hplay, rfl, rfl⟩

end CardStore.Cards
