/-
  CardStore.Proofs.Cards.Agreement
  ────────────────────────────────
  **LOADS AGREE.**

  Two loads of a name may both find nothing in the cache, and the source may
  answer them with different cards.  The first one that keeps its card
  settles it: a card that is cached stays until somebody drops it, whoever
  comes second gets it too, and so do all who come later.

  Main statements:
    * `firstCached?_eq` — the first card in the cache is the one in it at the end.
    * `loads_agree` — loads of a name that nobody drops.
-/
import CardStore.Proofs.Cards.Loading

namespace CardStore.Cards

open Card (Store)

/-- The first card that the cache has under a name in the course of some turns. -/
def firstCached? (name : String) : List Turn → Loads → Option SoundCard
  | [], s => s.store.cached? name
  | turn :: turns, s => match s.store.cached? name with
    | some card => some card
    | none => (turn.play s).bind (firstCached? name turns)

/-- Nobody drops a card. -/
def Undropped (turns : List Turn) : Prop := ∀ turn ∈ turns, ∀ name, turn.drops name = false

variable {s s' : Loads} {turn : Turn} {turns : List Turn} {name : String}

/-! ## §1. What is cached stays. -/

theorem cached?_keep_of_some {store : Store} {card : SoundCard} (kept : String) (new : SoundCard)
    (h : store.cached? name = some card) : (store.keep kept new).2.cached? name = some card := by
  rw [Store.cached?_keep]
  split
  · rename_i hname
    subst hname
    rw [Store.keep, h]
  · exact h

theorem Move.cached (hturn : ∀ name, turn.drops name = false) (h : Move s turn s')
    {card : SoundCard} (hs : s.store.cached? name = some card) :
    s'.store.cached? name = some card := by
  cases h with
  | keep _ => exact cached?_keep_of_some _ _ hs
  | drop other => exact absurd (hturn other) (by simp [Turn.drops])
  | clear => exact absurd (hturn name) (by simp [Turn.drops])
  | come _ | hit _ _ | miss _ _ | refuse _ _ | find _ _ => exact hs

theorem playAll_cached (hturns : Undropped turns) (h : playAll turns s = some s')
    {card : SoundCard} (hs : s.store.cached? name = some card) :
    s'.store.cached? name = some card :=
  keeps_of_playAll (fun hturn hmove => hmove.cached hturn) turns hturns h hs

/-- **The first card in the cache** is the one in it at the end. -/
theorem firstCached?_eq : ∀ (turns : List Turn) {s s' : Loads}, Undropped turns →
    playAll turns s = some s' → firstCached? name turns s = s'.store.cached? name := by
  intro turns
  induction turns with
  | nil =>
    intro s s' _ h
    rw [← Option.some.inj h]
    rfl
  | cons turn turns ih =>
    intro s s' hturns h
    rw [firstCached?]
    cases hs : s.store.cached? name with
    | some card => exact (playAll_cached hturns h hs).symm
    | none =>
      rw [playAll_cons] at h
      obtain ⟨s'', hturn, hrest⟩ := Option.bind_eq_some_iff.1 h
      dsimp only
      rw [hturn]
      exact ih (fun t ht => hturns t (.tail _ ht)) hrest

/-! ## §2. What is returned is cached. -/

/-- What a load has returned is what the cache has. -/
def Settling (s : Loads) : Prop :=
  ∀ (i : Nat) (name : String) (card : SoundCard), s.loads[i]? = some ⟨name, .loaded card⟩ →
    s.store.cached? name = some card

theorem Move.settling (hturn : ∀ name, turn.drops name = false) (h : Move s turn s')
    (hs : Settling s) : Settling s' := by
  intro j other card hj
  -- a load that had returned before is settled, and its card stays
  have hbefore (hj : s.loads[j]? = some ⟨other, .loaded card⟩) :
      s'.store.cached? other = some card := h.cached hturn (hs j other card hj)
  cases h with
  | come name =>
    rw [List.getElem?_append] at hj
    split at hj
    · exact hbefore hj
    · cases List.mem_singleton.1 (List.mem_of_getElem? hj)
  | hit hload hcached =>
    rcases getElem?_set_cases hj with hnew | hj
    · cases hnew
      exact hcached
    · exact hbefore hj
  | keep hload =>
    rcases getElem?_set_cases hj with hnew | hj
    · cases hnew
      rw [Store.cached?_keep, if_pos rfl]
    · exact hbefore hj
  | miss _ _ | refuse _ _ | find _ _ =>
    rcases getElem?_set_cases hj with hnew | hj
    · cases hnew
    · exact hbefore hj
  | drop _ | clear => exact hbefore hj

/-! ## §3. Loads that fail. -/

/-- A turn of a load leaves the store alone, unless the load returns a card then. -/
theorem Move.store_eq_or {i : Nat} (hturn : turn.isOf i = true) (h : Move s turn s') :
    s'.store = s.store ∨ ∃ name card, s'.loads[i]? = some ⟨name, .loaded card⟩ := by
  cases h with
  | @keep j name card hload =>
    have hi : j = i := by simpa [Turn.isOf] using hturn
    subst hi
    obtain ⟨hlt, _⟩ := List.getElem?_eq_some_iff.1 hload
    exact .inr ⟨name, _, List.getElem?_set_self hlt⟩
  | drop _ | clear => cases hturn
  | come _ | hit _ _ | miss _ _ | refuse _ _ | find _ _ => exact .inl rfl

/-- No turn of a load that fails in the end changes the store. -/
theorem store_eq_of_failed {i : Nat} {e : Error} {front back : List Turn} {mid after : Loads}
    (h : playAll (front ++ turn :: back) s = some s') (hfront : playAll front s = some mid)
    (hturn : turn.play mid = some after) (hi : turn.isOf i = true)
    (hfailed : s'.loads[i]? = some ⟨name, .failed e⟩) : after.store = mid.store := by
  have hback : playAll back after = some s' := by
    rw [playAll_append, hfront, Option.bind_some, playAll_cons, hturn] at h
    exact h
  rcases (move_iff.2 hturn).store_eq_or hi with hstore | ⟨name, card, hloaded⟩
  · exact hstore
  · -- it would have returned a card in the end
    have hreturned := playAll_settled (by exact trivial) hback hloaded
    rw [hfailed] at hreturned
    cases hreturned

/-! ## §4. Loads that nobody drops. -/

/-- **Loads agree.** Take any run of loads, whatever the source answers to each, in which nobody
drops a card.  Every load that returns a card returns the first one that the cache had under its
name.  Every card that is cached or returned passes the check, and was in the cache before or was
served by the source under this name.  No turn of a load that fails changes the store. -/
theorem loads_agree (store : Store) (turns : List Turn) (s : Loads) (hturns : Undropped turns)
    (h : playAll turns (.quiet store) = some s) :
    (∀ (i : Nat) (name : String) (card : SoundCard), s.loads[i]? = some ⟨name, .loaded card⟩ →
        firstCached? name turns (.quiet store) = some card)
      ∧ (∀ (name : String) (card : SoundCard), (s.store.cached? name = some card
            ∨ ∃ i : Nat, s.loads[i]? = some ⟨name, .loaded card⟩) →
          card.check = .ok ()
            ∧ (store.cached? name = some card ∨ card.toCard ∈ served name turns))
      ∧ ∀ (i : Nat) (name : String) (e : Error), s.loads[i]? = some ⟨name, .failed e⟩ →
        ∀ front turn back mid after, turns = front ++ turn :: back →
          playAll front (.quiet store) = some mid → turn.play mid = some after →
          turn.isOf i = true → after.store = mid.store := by
  have hsettling : Settling s := keeps_of_playAll (fun hturn hmove => hmove.settling hturn) turns
    hturns h nofun
  have hsupplied : Supplied (fun name card => store.cached? name = some card
      ∨ card.toCard ∈ served name turns) 0 s := by
    refine Supplied.playAll (Supplied.quiet fun hcached => .inl hcached) ?_ h
    exact fun hserved => .inr hserved
  refine ⟨fun i name card hloaded => ?_, fun name card hsome => ?_, ?_⟩
  · rw [firstCached?_eq turns hturns h]
    exact hsettling i name card hloaded
  · refine ⟨card.check_eq_ok_iff.2 card.sound, ?_⟩
    rcases hsome with hcached | ⟨i, hloaded⟩
    · exact hsupplied.cached hcached
    · exact hsupplied.loaded (Nat.zero_le i) hloaded
  · rintro i name e hfailed front turn back mid after rfl hfront hturn hi
    exact store_eq_of_failed h hfront hturn hi hfailed

/-- Three loads of a card find nothing in the cache.  The source answers the first one, has another
card for the second, and none for the third; then the second keeps its card before the first. -/
def race : List Turn :=
  [.come "unit", .come "unit", .come "unit", .act 0, .act 1, .act 2,
    .answer 0 "unit" (.ok (some unitBefore.toCard)), .answer 1 "unit" (.ok (some unitAfter.toCard)),
    .answer 2 "unit" (.ok none), .act 1, .act 0]

/-- The second card is the answer of both, and it is the one in the cache. -/
theorem loads_agree_race : Undropped race ∧ ∃ s, playAll race (.quiet noCards) = some s
    ∧ s.loads = [⟨"unit", .loaded unitAfter⟩, ⟨"unit", .loaded unitAfter⟩,
      ⟨"unit", .failed (.cardNotFound "unit")⟩]
    ∧ firstCached? "unit" race (.quiet noCards) = some unitAfter
    ∧ unitAfter.check = .ok ()
    ∧ (noCards.cached? "unit" = some unitAfter ∨ unitAfter.toCard ∈ served "unit" race) := by
  have hundropped : Undropped race := by
    intro turn hturn name
    simp only [race, List.mem_cons, List.not_mem_nil, or_false] at hturn
    rcases hturn with rfl | rfl | rfl | rfl | rfl | rfl | rfl | rfl | rfl | rfl | rfl <;> rfl
  let store : Store := { noCards with cache := noCards.cache.set "unit" unitAfter }
  have hfirst : noCards.keep "unit" unitAfter = (unitAfter, store) :=
    Store.keep_of_none unitAfter (cached?_noCards "unit")
  have hsecond : store.keep "unit" unitBefore = (unitAfter, store) := by
    rw [Store.keep, show store.cached? "unit" = some unitAfter by simp [store, Store.cached?,
      OrderedMap.get?_set]]
  have hplay : playAll race (.quiet noCards) = some ⟨store, [⟨"unit", .loaded unitAfter⟩,
      ⟨"unit", .loaded unitAfter⟩, ⟨"unit", .failed (.cardNotFound "unit")⟩]⟩ := by
    simp [race, playAll, Turn.play, Loads.quiet, Load.step, Loading.ofAnswer, checked_sound,
      cached?_noCards, hfirst, hsecond]
  obtain ⟨hagree, hsound, _⟩ := loads_agree noCards race _ hundropped hplay
  obtain ⟨hcheck, hsource⟩ := hsound "unit" unitAfter (.inr ⟨0, rfl⟩)
  exact ⟨hundropped, _, hplay, rfl, hagree 0 "unit" unitAfter rfl, hcheck, hsource⟩

end CardStore.Cards
