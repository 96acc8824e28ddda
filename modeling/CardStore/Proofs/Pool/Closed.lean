/-
  CardStore.Proofs.Pool.Closed
  ────────────────────────────
  **AFTER THE CLOSING OF A POOL.**

  Whether a pool is shut down is looked at twice: by a borrower when it comes,
  before it asks for a permit, and by a connection on its way back, before it
  is made idle.  Neither looks again, and the closing neither takes the
  permits away nor waits for anybody.

  So a closing holds for all who come later.  A borrower that is past its
  check when the closing ends may still be served, and a connection on its
  way back that is past its check becomes idle and stays so.

  Main statements:
    * `shut_of_closes` — the pool at the end of a closing.
    * `closed_holds_iff` — when a pool that is closed stays so.
-/
import CardStore.Proofs.Pool.Books

namespace CardStore.Pool

open Relation (ReflTransGen)

/-! ## §1. What is past its check. -/

namespace Share

/-- Borrowers past their check that are neither served nor refused yet. -/
def passed : Share where
  amount
    | .borrower .queued | .borrower .admitted | .borrower .scanning | .borrower (.retiring _)
    | .borrower (.probing _) | .borrower .connecting => 1
    | _ => 0
  borrower := rfl
  closer := rfl
  letGo _ := rfl

/-- Connections on their way back that are about to be made idle. -/
def storing : Share where
  amount
    | .returner (.storing _) => 1
    | _ => 0
  borrower := rfl
  closer := rfl
  letGo _ := rfl

/-- Closings that have shut the pool down. -/
def shutting : Share where
  amount
    | .closer .starting => 0
    | .closer _ => 1
    | _ => 0
  borrower := rfl
  closer := rfl
  letGo _ := rfl

end Share

/-- A step in which a party goes on from one phase to another. -/
def Advances (party party' : Party) (s s' : Traffic) : Prop :=
  ∃ front back now, Party.Move s.pool now party party' s'.pool
    ∧ s.parties = front ++ party :: back ∧ s'.parties = front ++ party' :: back

/-- A step in which a closing comes to its end. -/
def Closes : Traffic → Traffic → Prop := Advances (.closer .draining) (.closer .closed)

/-- A step in which a borrower is handed a connection. -/
def Serves (s s' : Traffic) : Prop :=
  ∃ w c, Advances (.borrower w) (.borrower (.served c)) s s'

/-- No connection is on its way back. -/
def Traffic.Settled (s : Traffic) : Prop := ∀ w, Party.returner w ∈ s.parties → w = .returned

variable {p p' : Pool} {now : Nat} {party party' : Party} {s s' : Traffic}

theorem Advances.step (h : Advances party party' s s') : Step s s' := by
  obtain ⟨front, back, now, hmove, hs, hs'⟩ := h
  have hstep := step_of_move now hmove front back
  rw [← hs, ← hs'] at hstep
  exact hstep

/-! ## §2. What a closing leaves. -/

/-- Whoever goes on with a closing has shut the pool down. -/
theorem Party.Move.closed_of_shutting (others : Nat) (h : Move p now party party' p')
    (hp : 0 < Share.shutting.amount party + others → p.closed = true) :
    0 < Share.shutting.amount party' + others → p'.closed = true := by
  cases h with
  | shut => exact fun _ => rfl
  | _ => exact hp

/-- A pool that is shut down, without idle connections, and nobody has his turn at them. -/
structure Shut (s : Traffic) : Prop where
  closed : s.pool.closed = true
  idle : s.pool.idle = []
  idleCount : s.pool.idleCount = 0
  locked : s.pool.locked = false
  turn : s.total .turn = 0

/-- **What a closing leaves.** -/
theorem shut_of_closes {c : PoolConfig} {s₀ : Traffic} (hs₀ : Sound c s₀)
    (hnone : s₀.total .shutting = 0) (h : Reaches s₀ s) (hclose : Closes s s') : Shut s' := by
  have hs' : Sound c s' := (sound_of_reaches hs₀ h).step hclose.step
  have hshutting : 0 < s'.total .shutting → s'.pool.closed = true :=
    keeps_of_reaches _ (fun p n => 0 < n → p.closed = true)
      (fun others hmove => hmove.closed_of_shutting others) (h.tail hclose.step)
      (fun hsome => absurd hsome (by omega))
  obtain ⟨front, back, now, hmove, _, hafter⟩ := hclose
  have htotal := Traffic.total_of_parties hafter .shutting
  have hclosed : s'.pool.closed = true := hshutting (htotal ▸ Nat.lt_add_right _ Nat.one_pos)
  have hturn := hs'.turn
  cases s' with
  | mk p' parties' =>
    cases hmove with
    | finish hidle => exact ⟨hclosed, hidle, congrArg List.length hidle, rfl, hturn⟩

/-! ## §3. What holds after it. -/

/-- What is shut down stays so. -/
theorem Party.Move.closed_mono (h : Move p now party party' p') (hp : p.closed = true) :
    p'.closed = true := by
  cases h with
  | shut => rfl
  | _ => exact hp

/-- As long as no borrower is past its check, none gets past it. -/
theorem Party.Move.passed_eq_zero (others : Nat) (h : Move p now party party' p')
    (hp : p.closed = true ∧ Share.passed.amount party + others = 0) :
    p'.closed = true ∧ Share.passed.amount party' + others = 0 := by
  refine ⟨h.closed_mono hp.1, ?_⟩
  have hnone := hp.2
  cases h with
  | queue hopen => exact absurd hp.1 (ne_true_of_eq_false hopen)
  | grant | giveUp | scan | findNone | findStale | findUntested | take | retire | findHealthy
    | findUnhealthy | connect | failToConnect =>
    have hsome : 1 + others = 0 := hnone
    omega
  | _ => exact hnone

theorem Party.Move.passed_of_served {w : Borrowing} {c : Lent}
    (h : Move p now (.borrower w) (.borrower (.served c)) p') :
    Share.passed.amount (.borrower w) = 1 := by
  cases h <;> rfl

/-- Who is served was past his check. -/
theorem passed_of_serves (h : Serves s s') : s.total .passed ≠ 0 := by
  obtain ⟨w, c, front, back, now, hmove, hs, _⟩ := h
  rw [Traffic.total_of_parties hs, hmove.passed_of_served]
  omega

/-- As long as no connection is about to be made idle, none becomes idle. -/
theorem Party.Move.storing_eq_zero (others : Nat) (h : Move p now party party' p')
    (hp : p.closed = true ∧ p.idle = [] ∧ p.idleCount = 0
      ∧ (Share.storing + Share.picked).amount party + others = 0) :
    p'.closed = true ∧ p'.idle = [] ∧ p'.idleCount = 0
      ∧ (Share.storing + Share.picked).amount party' + others = 0 := by
  obtain ⟨hclosed, hidle, hcount, hnone⟩ := hp
  refine ⟨h.closed_mono hclosed, ?_⟩
  cases h with
  | findOpen hopen => exact absurd hclosed (ne_true_of_eq_false hopen)
  | findStale hfound | findUntested hfound | take hfound | drain hfound =>
    rw [hidle] at hfound
    cases hfound
  | findNone | finish => exact ⟨hidle, congrArg List.length hidle, hnone⟩
  | retire | findHealthy | findUnhealthy | disposeIdle | store =>
    have hsome : 1 + others = 0 := hnone
    omega
  | _ => exact ⟨hidle, hcount, hnone⟩

/-- Where no connection is on its way back, those that are open are idle, lent or picked up. -/
theorem Sound.size_of_settled {c : PoolConfig} (hs : Sound c s) (hsettled : s.Settled) :
    s.pool.size = s.pool.idle.length + s.total .lent + s.total .picked := by
  have hafloat : s.total .afloat = 0 := by
    rw [Traffic.total_eq_zero_iff]
    intro party hparty
    cases party with
    | borrower w => rfl
    | returner w =>
      rw [hsettled w hparty]
      rfl
    | closer w => rfl
  rw [hs.size, Traffic.total_add, Traffic.total_add, hafloat]
  omega

/-! ## §4. Who was past his check. -/

theorem exists_serves_of_connecting (p : Pool) (front back : List Party) :
    ∃ s', Serves ⟨p, front ++ .borrower .connecting :: back⟩ s' :=
  ⟨⟨p.noteOpened.noteAcquired, _⟩, _, ⟨0, 0⟩, front, back, 0, .connect 0, rfl, rfl⟩

/-- A borrower with a permit is served if nobody has his turn and no connection is idle: it opens
one. -/
theorem exists_serves_of_admitted {p : Pool} (hlocked : p.locked = false) (hidle : p.idle = [])
    (front back : List Party) :
    ∃ s' s'', Reaches ⟨p, front ++ .borrower .admitted :: back⟩ s' ∧ Serves s' s'' := by
  obtain ⟨s'', hserves⟩ := exists_serves_of_connecting p.lock.unlock front back
  have hscan := step_of_move 0 (.scan hlocked) front back
  have hfind := step_of_move 0 (Party.Move.findNone (p := p.lock) hidle) front back
  exact ⟨_, s'', (ReflTransGen.single hscan).tail hfind, hserves⟩

/-- A borrower that waits for a permit is served if there is one. -/
theorem exists_serves_of_queued {p : Pool} (hpermits : p.permits ≠ 0) (hlocked : p.locked = false)
    (hidle : p.idle = []) (front back : List Party) :
    ∃ s' s'', Reaches ⟨p, front ++ .borrower .queued :: back⟩ s' ∧ Serves s' s'' := by
  obtain ⟨s', s'', hreach, hserves⟩ :=
    exists_serves_of_admitted (p := p.takePermit) hlocked hidle front back
  exact ⟨s', s'', hreach.head (step_of_move 0 (.grant hpermits) front back), hserves⟩

/-- A connection that is lent can go back, and then its permit is free. -/
theorem exists_releasePermit (hlent : s.total .lent ≠ 0)
    (hqueued : Party.borrower .queued ∈ s.parties) :
    ∃ s', Reaches s s' ∧ s'.pool = s.pool.releasePermit
      ∧ Party.borrower .queued ∈ s'.parties := by
  obtain ⟨front, party, back, hs, hamount⟩ := Traffic.exists_of_total_ne_zero hlent
  obtain ⟨p, parties⟩ := s
  dsimp only at hs hqueued
  subst hs
  -- who waits is not the one whose connection goes back
  have hstays (c : Lent) (hother : party ≠ .borrower .queued) :
      Party.borrower .queued ∈ front ++ Party.returner (.checking c) :: back := by
    simpa [hother.symm] using hqueued
  have hreleased (c : Lent) := step_of_move 0 (Party.Move.release (p := p) (c := c)) front back
  unfold Share.lent at hamount
  dsimp only at hamount
  split at hamount
  · rename_i c
    exact ⟨_, (ReflTransGen.single (step_letGo p front back c)).tail (hreleased c), rfl,
      hstays c (by simp)⟩
  · rename_i c
    exact ⟨_, .single (hreleased c), rfl, hstays c (by simp)⟩
  · exact absurd rfl hamount

/-- Who has a permit is served after a closing. -/
theorem exists_serves_of_held (hshut : Shut s) (hheld : s.total .held ≠ 0) :
    ∃ s' s'', Reaches s s' ∧ Serves s' s'' := by
  obtain ⟨front, party, back, hs, hamount⟩ := Traffic.exists_of_total_ne_zero hheld
  have hturn := hshut.turn
  rw [Traffic.total_of_parties hs] at hturn
  have hnotTurn : Share.turn.amount party = 0 := by omega
  obtain ⟨p, parties⟩ := s
  dsimp only at hs
  subst hs
  unfold Share.held at hamount
  dsimp only at hamount
  split at hamount
  · exact exists_serves_of_admitted hshut.locked hshut.idle front back
  -- nobody has his turn
  · cases hnotTurn
  · cases hnotTurn
  · cases hnotTurn
  · obtain ⟨s', hserves⟩ := exists_serves_of_connecting p front back
    exact ⟨_, s', .refl, hserves⟩
  · exact absurd rfl hamount

/-- Who is past his check has a permit or waits for one. -/
theorem queued_of_passed (hpassed : s.total .passed ≠ 0) (hheld : s.total .held = 0) :
    Party.borrower .queued ∈ s.parties := by
  obtain ⟨front, party, back, hs, hamount⟩ := Traffic.exists_of_total_ne_zero hpassed
  have hmem : party ∈ s.parties := hs ▸ List.mem_append_right _ List.mem_cons_self
  have hnotHeld := (Traffic.total_eq_zero_iff s .held).1 hheld party hmem
  unfold Share.passed at hamount
  dsimp only at hamount
  split at hamount
  · exact hmem
  · cases hnotHeld
  · cases hnotHeld
  · cases hnotHeld
  · cases hnotHeld
  · cases hnotHeld
  · exact absurd rfl hamount

/-- **Who is past his check may still be served** after a closing: some permit is free, or held
by a borrower that is served, or comes free when a connection goes back. -/
theorem exists_serves_of_passed {c : PoolConfig} (hpositive : 0 < c.maxSize) (hs : Sound c s)
    (hshut : Shut s) (hpassed : s.total .passed ≠ 0) :
    ∃ s' s'', Reaches s s' ∧ Serves s' s'' := by
  by_cases hheld : s.total .held = 0
  · have hqueued := queued_of_passed hpassed hheld
    by_cases hpermits : s.pool.permits = 0
    · have hlent : s.total .lent ≠ 0 := by
        have hall := hs.permits
        rw [Traffic.total_add] at hall
        omega
      obtain ⟨⟨p, parties⟩, hreach, hpool, hqueued⟩ := exists_releasePermit hlent hqueued
      dsimp only at hpool hqueued
      subst hpool
      obtain ⟨front, back, hparties⟩ := List.append_of_mem hqueued
      subst hparties
      obtain ⟨s', s'', hlater, hserves⟩ := exists_serves_of_queued (p := s.pool.releasePermit)
        (Nat.succ_ne_zero _) hshut.locked hshut.idle front back
      exact ⟨s', s'', hreach.trans hlater, hserves⟩
    · obtain ⟨front, back, hparties⟩ := List.append_of_mem hqueued
      obtain ⟨p, parties⟩ := s
      dsimp only at hparties
      subst hparties
      exact exists_serves_of_queued hpermits hshut.locked hshut.idle front back
  · exact exists_serves_of_held hshut hheld

/-! ## §5. What was on its way back. -/

/-- A pool that is shut down while nobody has his turn at the idle connections. -/
structure Still (p : Pool) : Prop where
  closed : p.closed = true
  locked : p.locked = false
  published : p.idleCount = p.idle.length

/-- A connection on its way back arrives: it is closed, or made idle if it was past its check. -/
theorem settle_one (front back : List Party) (party : Party) (hp : Still p) :
    ∃ p' party', Reaches ⟨p, front ++ party :: back⟩ ⟨p', front ++ party' :: back⟩ ∧ Still p'
      ∧ (∀ w, party' = .returner w → w = .returned)
      ∧ p'.idle.length = p.idle.length + Share.storing.amount party := by
  -- closing comes after the check, and the check after the release
  have hclosing (p : Pool) (c : Lent) :=
    step_of_move 0 (Party.Move.dispose (p := p) (c := c)) front back
  have hchecking (p : Pool) (hclosed : p.closed = true) (c : Lent) :=
    step_of_move 0 (.findShut (c := c) hclosed) front back
  have hreturned : ∀ w, Party.returner .returned = .returner w → w = .returned := by
    rintro w ⟨⟩
    rfl
  cases party with
  | borrower w => exact ⟨p, _, .refl, hp, nofun, rfl⟩
  | closer w => exact ⟨p, _, .refl, hp, nofun, rfl⟩
  | returner w =>
    cases w with
    | arriving c =>
      have hrelease := step_of_move 0 (Party.Move.release (p := p) (c := c)) front back
      exact ⟨p.releasePermit.noteClosed, _, ((ReflTransGen.single hrelease).tail
        (hchecking p.releasePermit hp.closed c)).tail (hclosing _ c),
        ⟨hp.closed, hp.locked, hp.published⟩, hreturned, rfl⟩
    | checking c =>
      exact ⟨p.noteClosed, _, (ReflTransGen.single (hchecking p hp.closed c)).tail (hclosing p c),
        ⟨hp.closed, hp.locked, hp.published⟩, hreturned, rfl⟩
    | closing c =>
      exact ⟨p.noteClosed, _, .single (hclosing p c), ⟨hp.closed, hp.locked, hp.published⟩,
        hreturned, rfl⟩
    | storing c =>
      have hstore := step_of_move 0 (.store (c := c) hp.locked) front back
      exact ⟨_, _, .single hstore, ⟨hp.closed, hp.locked, rfl⟩, hreturned, rfl⟩
    | returned => exact ⟨p, _, .refl, hp, hreturned, rfl⟩

/-- All connections on their way back arrive. -/
theorem settle_all : ∀ (back front : List Party) (p : Pool), Still p →
    ∃ p' back', Reaches ⟨p, front ++ back⟩ ⟨p', front ++ back'⟩ ∧ Still p'
      ∧ (∀ w, Party.returner w ∈ back' → w = .returned)
      ∧ p'.idle.length = p.idle.length + (back.map Share.storing.amount).sum := by
  intro back
  induction back with
  | nil =>
    intro front p hp
    exact ⟨p, [], .refl, hp, nofun, rfl⟩
  | cons party back ih =>
    intro front p hp
    obtain ⟨p₁, party', hreach₁, hp₁, hparty', hidle₁⟩ := settle_one front back party hp
    obtain ⟨p', back', hreach', hp', hback', hidle'⟩ := ih (front ++ [party']) p₁ hp₁
    refine ⟨p', party' :: back', ?_, hp', ?_, ?_⟩
    · rw [List.append_assoc, List.append_assoc] at hreach'
      exact hreach₁.trans hreach'
    · intro w hw
      rcases List.mem_cons.1 hw with hw | hw
      · exact hparty' w hw.symm
      · exact hback' w hw
    · rw [hidle', hidle₁, List.map_cons, List.sum_cons, Nat.add_assoc]

/-! ## §6. A pool that was closed. -/

/-- **When a pool that is closed stays so.** Take any run of a new pool up to the end of a closing.
No connection is handed out any more exactly if no borrower under way is past its check then; and
no connection is ever idle again, with only those open that are lent, whenever none is on its way
back, exactly if no connection on its way back is past its check then. -/
theorem closed_holds_iff {σ : Type} (b : Backend σ) (database : String) (c : PoolConfig)
    (backend : σ) (clock : Nat) (events : List Event) (run : Run σ)
    (hstart : Run.start b database c backend clock = .ok (events, run)) (s₀ s : Traffic)
    (hrun : Reaches (.quiet run.pool) s₀) (hclose : Closes s₀ s) :
    ((∀ s' s'', Reaches s s' → ¬ Serves s' s'') ↔ s.total .passed = 0)
      ∧ ((∀ s', Reaches s s' → s'.Settled →
          s'.pool.idleCount = 0 ∧ s'.pool.size = s'.total .lent) ↔ s.total .storing = 0) := by
  have hsound := sound_of_start hstart (hrun.tail hclose.step)
  have hshut : Shut s := shut_of_closes (Run.fresh_of_start hstart).1.sound rfl hrun hclose
  refine ⟨⟨?_, ?_⟩, ⟨?_, ?_⟩⟩
  · intro hnever
    by_contra hpassed
    obtain ⟨s', s'', hreach, hserves⟩ :=
      exists_serves_of_passed (Run.fresh_of_start hstart).2.2 hsound hshut hpassed
    exact hnever s' s'' hreach hserves
  · intro hpassed s' s'' hreach hserves
    have hnone := keeps_of_reaches _ (fun p n => p.closed = true ∧ n = 0)
      (fun others hmove => hmove.passed_eq_zero others) hreach ⟨hshut.closed, hpassed⟩
    exact passed_of_serves hserves hnone.2
  · intro hstays
    obtain ⟨p, parties⟩ := s
    obtain ⟨p', parties', hreach, hp', hsettled, hidle⟩ := settle_all parties [] p
      ⟨hshut.closed, hshut.locked, hshut.idleCount.trans (congrArg List.length hshut.idle).symm⟩
    have hcount := (hstays _ hreach hsettled).1
    rw [hp'.published, hidle] at hcount
    exact Nat.eq_zero_of_add_eq_zero_left hcount
  · intro hstoring s' hreach hsettled
    have hpicked : s.total .picked = 0 :=
      Nat.le_zero.1 (hshut.turn ▸ s.total_le Share.picked_le_turn)
    obtain ⟨_, hidle, hcount, hnone⟩ := keeps_of_reaches (.storing + .picked)
      (fun p n => p.closed = true ∧ p.idle = [] ∧ p.idleCount = 0 ∧ n = 0)
      (fun others hmove => hmove.storing_eq_zero others) hreach
      ⟨hshut.closed, hshut.idle, hshut.idleCount, by rw [Traffic.total_add, hstoring, hpicked]⟩
    have hsize := (sound_of_reaches hsound hreach).size_of_settled hsettled
    rw [Traffic.total_add] at hnone
    refine ⟨hcount, ?_⟩
    rw [hsize, hidle, List.length_nil]
    omega

/-- A borrower is served, lets its connection go and is past the check on the way back; another
has come and waits for a permit.  Then the pool is closed, as far as to the end. -/
def lateBorrower : List Turn :=
  [.borrow, .act 0 1 .go, .act 0 2 .go, .act 0 3 .go, .act 0 4 .go, .act 0 5 (.connected (.ok 8)),
    .borrow, .act 1 6 .go, .letGo 0, .act 0 7 .go, .act 0 8 .go, .close, .act 2 9 .go,
    .act 2 10 .go]

/-- The late borrower is served by the closed pool, and the connection on its way back is idle in
it. -/
theorem closed_holds_iff_lateBorrower :
    ∃ (run : Run Unit) (s₀ s : Traffic),
      Run.start willing "default" ⟨0, 1, 5, 60000, 60000, true⟩ () 0 = .ok ([], run)
        ∧ Reaches (.quiet run.pool) s₀ ∧ Closes s₀ s
        ∧ (∃ s' s'', Reaches s s' ∧ Serves s' s'')
        ∧ ∃ s', Reaches s s' ∧ s'.Settled
          ∧ ¬ (s'.pool.idleCount = 0 ∧ s'.pool.size = s'.total .lent) := by
  let c : PoolConfig := ⟨0, 1, 5, 60000, 60000, true⟩
  let p : Pool := ⟨c, [], 0, 1, 1, ⟨1, 0, 1, 0, 0⟩, true, true⟩
  let s₀ : Traffic :=
    ⟨p, [.returner (.storing ⟨8, 5⟩), .borrower .queued, .closer .draining]⟩
  let s : Traffic :=
    ⟨p.unlock, [.returner (.storing ⟨8, 5⟩), .borrower .queued, .closer .closed]⟩
  have hstart : Run.start willing "default" c () 0 = .ok ([], ⟨ofConfig c, (), 0⟩) := rfl
  have hplay : playAll lateBorrower (.quiet (ofConfig c)) = some s₀ := by cbv
  have hrun : Reaches (.quiet (ofConfig c)) s₀ := reaches_of_playAll lateBorrower hplay
  have hclose : Closes s₀ s :=
    ⟨[.returner (.storing ⟨8, 5⟩), .borrower .queued], [], 0, .finish rfl, rfl, rfl⟩
  obtain ⟨hserves, hstays⟩ := closed_holds_iff willing "default" c () 0 [] _ hstart s₀ s hrun hclose
  refine ⟨⟨ofConfig c, (), 0⟩, s₀, s, hstart, hrun, hclose, ?_, ?_⟩
  · by_contra hnever
    push Not at hnever
    cases hserves.1 hnever
  · by_contra hnever
    push Not at hnever
    cases hstays.1 hnever

end CardStore.Pool
