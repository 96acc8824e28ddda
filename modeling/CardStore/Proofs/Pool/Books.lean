/-
  CardStore.Proofs.Pool.Books
  ───────────────────────────
  **THE BOOKS OF A POOL.**

  A permit is free, or belongs to a borrower under way, or to a connection
  that is lent.  An open connection is idle, or lent, or on its way back, or
  in the hands of somebody who tests it or closes it.  Whoever has taken the
  idle connections for himself is one of the parties, and as long as nobody
  has, their number is the one that was published last.

  These laws hold at a new pool, each move of a party keeps them, and so they
  hold in every run, whatever fails on the way.

  A pool keeps its size, how many connections it has opened and how many it
  has closed, each on its own.  A move of a party changes none of them, or
  enters a connection that was opened, or strikes out one that the party has
  in its hands.  So the size is always what was opened less what was closed,
  and a number is only lowered for something that was counted before.

  Main statements:
    * `fresh_of_start` — a new pool.
    * `sound_of_start` — the laws in every run of a new pool.
    * `permits_accounted` — no permit is lost or made up.
    * `Party.Move.books`, `Sound.booked` — what a move and a step enter in the books.
    * `books_balance` — the books of every run of a new pool.
-/
import CardStore.Pool.Run
import CardStore.Proofs.Pool.Traffic

namespace CardStore.Pool

/-! ## §1. What is counted. -/

namespace Share

/-- Permits of borrowers that are neither served nor refused yet. -/
def held : Share where
  amount
    | .borrower .admitted | .borrower .scanning | .borrower (.retiring _) | .borrower (.probing _)
    | .borrower .connecting => 1
    | _ => 0
  borrower := rfl
  closer := rfl
  letGo _ := rfl

/-- Connections that are lent; one that was let go is lent until its permit is released. -/
def lent : Share where
  amount
    | .borrower (.served _) | .returner (.arriving _) => 1
    | _ => 0
  borrower := rfl
  closer := rfl
  letGo _ := rfl

/-- Connections on their way back whose permit is released. -/
def afloat : Share where
  amount
    | .returner (.checking _) | .returner (.closing _) | .returner (.storing _) => 1
    | _ => 0
  borrower := rfl
  closer := rfl
  letGo _ := rfl

/-- Idle connections that somebody has picked up. -/
def picked : Share where
  amount
    | .borrower (.retiring _) | .borrower (.probing _) | .closer (.closing _) => 1
    | _ => 0
  borrower := rfl
  closer := rfl
  letGo _ := rfl

/-- Connections that are being opened. -/
def opening : Share where
  amount
    | .borrower .connecting => 1
    | _ => 0
  borrower := rfl
  closer := rfl
  letGo _ := rfl

/-- Turns at the idle connections. -/
def turn : Share where
  amount
    | .borrower .scanning | .borrower (.retiring _) | .borrower (.probing _) | .closer .draining
    | .closer (.closing _) => 1
    | _ => 0
  borrower := rfl
  closer := rfl
  letGo _ := rfl

theorem opening_le_held (party : Party) : opening.amount party ≤ held.amount party := by
  unfold opening held
  dsimp only
  split
  · exact le_rfl
  · exact Nat.zero_le _

/-- Only somebody whose turn it is picks up an idle connection. -/
theorem picked_le_turn (party : Party) : picked.amount party ≤ turn.amount party := by
  unfold picked turn
  dsimp only
  split
  · exact le_rfl
  · exact le_rfl
  · exact le_rfl
  · exact Nat.zero_le _

end Share

/-! ## §2. The laws. -/

/-- **What holds at a pool** and all who are at it. -/
structure Sound (c : PoolConfig) (s : Traffic) : Prop where
  config : s.pool.config = c
  permits : s.pool.permits + s.total (.held + .lent) = c.maxSize
  size : s.pool.size = s.pool.idle.length + s.total (.lent + .afloat + .picked)
  turn : s.total .turn = s.pool.locked.toNat
  published : s.pool.locked = false → s.pool.idleCount = s.pool.idle.length

variable {p p' : Pool} {now : Nat} {party party' : Party}

theorem Party.Move.config_eq (h : Move p now party party' p') : p'.config = p.config := by
  cases h <;> rfl

/-- A permit is passed on, and never dropped. -/
theorem Party.Move.permits_eq {total : Nat} (others : Nat) (h : Move p now party party' p')
    (hp : p.permits + ((Share.held + Share.lent).amount party + others) = total) :
    p'.permits + ((Share.held + Share.lent).amount party' + others) = total := by
  cases h <;>
    simp only [Share.amount_add, Share.held, Share.lent, takePermit, releasePermit, noteExhausted,
      lock, unlock, noteClosed, noteUnhealthy, noteOpened, noteAcquired, push] at hp ⊢ <;>
    omega

/-- A connection is passed on, or opened or closed and counted. -/
theorem Party.Move.size_eq (others : Nat) (h : Move p now party party' p')
    (hp : p.size = p.idle.length + ((Share.lent + Share.afloat + Share.picked).amount party
      + others)) :
    p'.size = p'.idle.length + ((Share.lent + Share.afloat + Share.picked).amount party'
      + others) := by
  cases h <;>
    simp_all only [Share.amount_add, Share.lent, Share.afloat, Share.picked, takePermit,
      releasePermit, noteExhausted, lock, unlock, noteClosed, noteUnhealthy, noteOpened,
      noteAcquired, push, List.length_cons, List.length_nil] <;>
    omega

/-- Whoever takes his turn locks, and unlocks when he is done. -/
theorem Party.Move.turn_eq (others : Nat) (h : Move p now party party' p')
    (hp : Share.turn.amount party + others = p.locked.toNat) :
    Share.turn.amount party' + others = p'.locked.toNat := by
  have hle := p.locked.toNat_le
  cases h <;>
    simp_all only [Share.turn, takePermit, releasePermit, noteExhausted, lock, unlock, noteClosed,
      noteUnhealthy, noteOpened, noteAcquired, push, Bool.toNat_true, Bool.toNat_false] <;>
    omega

/-- As long as nobody has his turn at them, the idle connections are those that were counted
last. -/
theorem Party.Move.published (others : Nat) (h : Move p now party party' p')
    (hturn : Share.turn.amount party + others = p.locked.toNat)
    (hp : p.locked = false → p.idleCount = p.idle.length) (hfree : p'.locked = false) :
    p'.idleCount = p'.idle.length := by
  cases h with
  -- whoever takes an idle connection has his turn
  | findStale | findUntested | drain =>
    have hnone : 1 + others = 0 := hturn.trans (congrArg Bool.toNat hfree)
    omega
  | scan | enter => cases hfree
  | findNone | take | findHealthy | finish | store => rfl
  | _ => exact hp hfree

/-- **Every step keeps the laws.** -/
theorem Sound.step {c : PoolConfig} {s s' : Traffic} (hs : Sound c s) (h : Step s s') :
    Sound c s' := by
  have hturn : s'.total .turn = s'.pool.locked.toNat :=
    h.keeps .turn (fun p n => n = p.locked.toNat)
      (fun others hmove => hmove.turn_eq others) hs.turn
  constructor
  · rcases h.total_eq_or with ⟨hpool, _⟩ | ⟨_, _, _, _, hmove, _⟩
    · rw [hpool, hs.config]
    · rw [hmove.config_eq, hs.config]
  · exact h.keeps _ (fun p n => p.permits + n = c.maxSize)
      (fun others hmove => hmove.permits_eq others) hs.permits
  · exact h.keeps _ (fun p n => p.size = p.idle.length + n)
      (fun others hmove => hmove.size_eq others) hs.size
  · exact hturn
  · rcases h.total_eq_or with ⟨hpool, _⟩ | ⟨rest, party, party', now, hmove, htotal⟩
    · rw [hpool]
      exact hs.published
    · have hbefore := hs.turn
      rw [(htotal .turn).1] at hbefore
      exact hmove.published _ hbefore hs.published

theorem sound_of_reaches {c : PoolConfig} {s s' : Traffic} (hs : Sound c s) (h : Reaches s s') :
    Sound c s' := by
  induction h with
  | refl => exact hs
  | tail _ hstep ih => exact ih.step hstep

/-! ## §3. A new pool. -/

/-- **A new pool**: it has all its permits, and the connections opened at its start are idle. -/
structure Fresh (c : PoolConfig) (p : Pool) : Prop where
  config : p.config = c
  permits : p.permits = c.maxSize
  size : p.size = p.idle.length
  published : p.idleCount = p.idle.length
  locked : p.locked = false
  closed : p.closed = false

theorem fresh_ofConfig (c : PoolConfig) : Fresh c (ofConfig c) := ⟨rfl, rfl, rfl, rfl, rfl, rfl⟩

namespace Run

variable {σ : Type} {c : PoolConfig}

/-- Connections opened ahead of use are idle, and no more of them than were asked for. -/
theorem fresh_preopen (b : Backend σ) (database : String) : ∀ (n : Nat) (s : Run σ),
    Fresh c s.pool → Fresh c (preopen b database n s).2.pool
      ∧ (preopen b database n s).2.pool.idle.length ≤ s.pool.idle.length + n := by
  intro n
  induction n with
  | zero =>
    intro s hs
    exact ⟨hs, Nat.le_refl _⟩
  | succ n ih =>
    intro s hs
    rw [preopen]
    dsimp only
    split
    · rename_i connection _
      have hpushed : Fresh c (s.pool.noteOpened.push ⟨connection, s.clock + 1, s.clock + 1⟩) := by
        refine ⟨hs.config, hs.permits, ?_, rfl, hs.locked, hs.closed⟩
        show s.pool.size + 1 = s.pool.idle.length + 1
        rw [hs.size]
      obtain ⟨hfresh, hlength⟩ := ih ⟨_, (b.connect database s.backend).2, s.clock + 1⟩ hpushed
      refine ⟨hfresh, hlength.trans ?_⟩
      show s.pool.idle.length + 1 + n ≤ s.pool.idle.length + (n + 1)
      omega
    · exact ⟨hs, Nat.le_add_right _ _⟩

/-- **What is started is a new pool**, and no more connections are opened than it may hold. -/
theorem fresh_of_start {b : Backend σ} {database : String} {backend : σ} {clock : Nat}
    {events : List Event} {run : Run σ}
    (h : start b database c backend clock = .ok (events, run)) :
    Fresh c run.pool ∧ run.pool.idle.length ≤ c.maxSize ∧ 0 < c.maxSize := by
  rw [start] at h
  split at h
  · cases h
  · rename_i hcheck
    obtain ⟨hpositive, hle⟩ := c.check_eq_ok_iff.1 hcheck
    have hrun := Except.ok.inj h
    obtain ⟨hfresh, hlength⟩ := fresh_preopen b database c.minSize
      ⟨ofConfig c, backend, clock⟩ (fresh_ofConfig c)
    rw [hrun] at hfresh hlength
    refine ⟨hfresh, hlength.trans ?_, hpositive⟩
    show 0 + c.minSize ≤ c.maxSize
    omega

end Run

theorem Fresh.sound {c : PoolConfig} {p : Pool} (h : Fresh c p) : Sound c (.quiet p) where
  config := h.config
  permits := h.permits
  size := h.size
  turn := by
    show 0 = p.locked.toNat
    rw [h.locked]
    rfl
  published _ := h.published

variable {σ : Type}

/-- **The laws hold in every run** of a new pool. -/
theorem sound_of_start {b : Backend σ} {database : String} {c : PoolConfig} {backend : σ}
    {clock : Nat} {events : List Event} {run : Run σ}
    (h : Run.start b database c backend clock = .ok (events, run)) {s : Traffic}
    (hs : Reaches (.quiet run.pool) s) : Sound c s :=
  sound_of_reaches (Run.fresh_of_start h).1.sound hs

/-! ## §4. Permits. -/

/-- Whether a party has nothing of the pool any more and will not ask for anything. -/
def Party.isGone : Party → Bool
  | .borrower (.refused _) | .returner .returned | .closer .closed => true
  | _ => false

/-- **No permit is lost or made up.** In every run of a new pool, whatever is answered on the way,
each permit is free, or held by a borrower that is neither served nor refused yet, or belongs to a
connection that is lent and has not been released.  So all of them are free once nobody is at the
pool any more. -/
theorem permits_accounted (b : Backend σ) (database : String) (c : PoolConfig) (backend : σ)
    (clock : Nat) (events : List Event) (run : Run σ)
    (hstart : Run.start b database c backend clock = .ok (events, run)) (s : Traffic)
    (hrun : Reaches (.quiet run.pool) s) :
    s.pool.permits + s.total .held + s.total .lent = c.maxSize
      ∧ ((∀ party ∈ s.parties, party.isGone) → s.pool.permits = c.maxSize) := by
  have hpermits := (sound_of_start hstart hrun).permits
  constructor
  · rw [← hpermits, Traffic.total_add, Nat.add_assoc]
  · intro hgone
    have hnone : s.total (.held + .lent) = 0 := by
      rw [Traffic.total_eq_zero_iff]
      intro party hparty
      have hparty := hgone party hparty
      unfold Party.isGone at hparty
      split at hparty
      · rfl
      · rfl
      · rfl
      · cases hparty
    rw [← hpermits, hnone, Nat.add_zero]

/-- A backend whose connections all open, answer and close. -/
def willing : Backend Unit where
  connect _ s := (.ok 7, s)
  query _ _ _ _ s := (.ok .empty, s)
  execute _ _ _ _ s := (.ok (.ofAffected 0), s)
  begin _ s := (.ok (), s)
  commit _ s := (.ok (), s)
  rollback _ s := (.ok (), s)
  isValid _ s := (true, s)
  close _ s := (.ok (), s)

/-- Three borrowers at two permits: the first is served, the second cannot open a connection, and
the third, who comes before that, has no permit and gives up.  Then the first lets its connection
go. -/
def threeBorrowers : List Turn :=
  [.borrow, .borrow, .borrow, .act 0 1 .go, .act 1 1 .go, .act 2 1 .go, .act 0 2 .go, .act 1 2 .go,
    .act 0 3 .go, .act 0 4 .go, .act 1 5 .go, .act 1 6 .go, .act 0 7 (.connected (.ok 8)),
    .act 2 8 .timedOut, .act 1 9 (.connected (.error (.connection "gone away" none))), .letGo 0,
    .act 0 10 .go, .act 0 11 .go, .act 0 12 .go]

/-- Both permits are free when all three are gone. -/
theorem permits_accounted_threeBorrowers :
    ∃ (run : Run Unit) (s : Traffic),
      Run.start willing "default" ⟨0, 2, 5, 60000, 60000, true⟩ () 0 = .ok ([], run)
        ∧ playAll threeBorrowers (.quiet run.pool) = some s ∧ s.parties.length = 3
        ∧ s.pool.permits = 2 := by
  let c : PoolConfig := ⟨0, 2, 5, 60000, 60000, true⟩
  have hstart : Run.start willing "default" c () 0 = .ok ([], ⟨ofConfig c, (), 0⟩) := rfl
  have hdone : (playAll threeBorrowers (.quiet (ofConfig c))).any fun s =>
      s.parties.length == 3 && s.parties.all (·.isGone) := by decide +kernel
  obtain ⟨s, hplay, hs⟩ := (Option.any_eq_true _ _).1 hdone
  obtain ⟨hlength, hgone⟩ := Bool.and_eq_true_iff.1 hs
  have hpermits := permits_accounted willing "default" c () 0 [] _ hstart s
    (reaches_of_playAll _ hplay)
  exact ⟨_, s, hstart, hplay, eq_of_beq hlength, hpermits.2 (List.all_eq_true.1 hgone)⟩

/-! ## §5. Who has a connection. -/

/-- Whether a party is a borrower that has its connection. -/
def Party.borrows : Party → Bool
  | .borrower (.served _) => true
  | _ => false

/-- Whether a party is in the middle of something and has a connection in its hands. -/
def Party.handles : Party → Bool
  | .borrower (.retiring _) | .borrower (.probing _) => true
  | .returner (.arriving _) | .returner (.checking _) | .returner (.closing _)
  | .returner (.storing _) => true
  | .closer (.closing _) => true
  | _ => false

/-- How many connections borrowers have. -/
def Traffic.borrowed (s : Traffic) : Nat := s.parties.countP Party.borrows

/-- How many connections are in the hands of a borrowing, a return or a closing under way. -/
def Traffic.inHand (s : Traffic) : Nat := s.parties.countP Party.handles

theorem Party.amount_eq_toNat (party : Party) :
    (Share.lent + Share.afloat + Share.picked).amount party
      = party.borrows.toNat + party.handles.toNat := by
  rcases party with w | w | w <;> cases w <;> rfl

/-- What is lent, on its way back or picked up is what borrowers and others have. -/
theorem Traffic.total_eq_borrowed_add (s : Traffic) :
    s.total (.lent + .afloat + .picked) = s.borrowed + s.inHand := by
  obtain ⟨p, parties⟩ := s
  induction parties with
  | nil => rfl
  | cons party parties ih =>
    have hrest : (parties.map (Share.lent + Share.afloat + Share.picked).amount).sum
        = parties.countP Party.borrows + parties.countP Party.handles := ih
    have hparty := party.amount_eq_toNat
    simp only [Traffic.total, Traffic.borrowed, Traffic.inHand, List.map_cons, List.sum_cons,
      List.countP_cons, hrest, hparty]
    cases party.borrows <;> cases party.handles <;>
      simp only [Bool.toNat_true, Bool.toNat_false, if_true, if_false, reduceCtorEq] <;>
      omega

/-! ## §6. What is entered. -/

variable {s s' : Traffic} {c : PoolConfig}

/-- **What a move enters in the books**: nothing, or a connection that was opened, or that one was
closed that the party had in its hands. -/
theorem Party.Move.books (h : Move p now party party' p') :
    (p'.size = p.size ∧ p'.stats.created = p.stats.created ∧ p'.stats.closed = p.stats.closed)
      ∨ (p'.size = p.size + 1 ∧ p'.stats.created = p.stats.created + 1
        ∧ p'.stats.closed = p.stats.closed)
      ∨ (party.handles = true ∧ p'.size = p.size - 1 ∧ p'.stats.created = p.stats.created
        ∧ p'.stats.closed = p.stats.closed + 1) := by
  cases h with
  | connect => exact .inr (.inl ⟨rfl, rfl, rfl⟩)
  | retire | findUnhealthy | dispose | disposeIdle => exact .inr (.inr ⟨rfl, rfl, rfl, rfl⟩)
  | _ => exact .inl ⟨rfl, rfl, rfl⟩

/-- Whoever takes a permit takes one that is free. -/
theorem Party.Move.permits_of_held_lt (h : Move p now party party' p')
    (hmore : Share.held.amount party < Share.held.amount party') :
    p'.permits + 1 = p.permits := by
  cases h with
  | grant hfree => exact Nat.succ_pred hfree
  | _ =>
    simp only [Share.held] at hmore
    omega

/-- **What a step enters in the books.** What is struck out was counted. -/
theorem Sound.booked (hs : Sound c s) (h : Step s s') :
    (s'.pool.size = s.pool.size ∧ s'.pool.stats.created = s.pool.stats.created
        ∧ s'.pool.stats.closed = s.pool.stats.closed)
      ∨ (s'.pool.size = s.pool.size + 1 ∧ s'.pool.stats.created = s.pool.stats.created + 1
        ∧ s'.pool.stats.closed = s.pool.stats.closed)
      ∨ (s'.pool.size + 1 = s.pool.size ∧ s'.pool.stats.created = s.pool.stats.created
        ∧ s'.pool.stats.closed = s.pool.stats.closed + 1) := by
  rcases h.total_eq_or with ⟨hpool, _⟩ | ⟨rest, party, party', now, hmove, htotal⟩
  · rw [hpool]
    exact .inl ⟨rfl, rfl, rfl⟩
  · rcases hmove.books with hnothing | hopened | ⟨hhandles, hsize, hcreated, hclosed⟩
    · exact .inl hnothing
    · exact .inr (.inl hopened)
    · -- the connection that the party has is one of those that are open
      have hopen := hs.size
      rw [(htotal _).1, party.amount_eq_toNat, hhandles, Bool.toNat_true] at hopen
      exact .inr (.inr ⟨by omega, hcreated, hclosed⟩)

theorem Step.permits_of_held_lt (h : Step s s') (hmore : s.total .held < s'.total .held) :
    s'.pool.permits + 1 = s.pool.permits := by
  rcases h.total_eq_or with ⟨_, htotal⟩ | ⟨rest, party, party', now, hmove, htotal⟩
  · rw [htotal] at hmore
    exact absurd hmore (lt_irrefl _)
  · rw [(htotal .held).1, (htotal .held).2] at hmore
    exact hmove.permits_of_held_lt (Nat.lt_of_add_lt_add_right hmore)

/-! ## §7. The balance. -/

/-- What was opened is open or was closed. -/
def Balanced (p : Pool) : Prop := p.stats.created = p.size + p.stats.closed

namespace Run

variable {σ : Type}

/-- What is opened ahead of use is counted, up to the first failure. -/
theorem balanced_preopen (b : Backend σ) (database : String) : ∀ (n : Nat) (s : Run σ),
    Balanced s.pool → Balanced (preopen b database n s).2.pool := by
  intro n
  induction n with
  | zero =>
    intro s hs
    exact hs
  | succ n ih =>
    intro s hs
    rw [preopen]
    dsimp only
    split
    · refine ih _ ?_
      show s.pool.stats.created + 1 = s.pool.size + 1 + s.pool.stats.closed
      rw [hs, Nat.add_right_comm]
    · exact hs

theorem balanced_of_start {b : Backend σ} {database : String} {backend : σ} {clock : Nat}
    {events : List Event} {run : Run σ}
    (h : start b database c backend clock = .ok (events, run)) : Balanced run.pool := by
  rw [start] at h
  split at h
  · cases h
  · have hrun := Except.ok.inj h
    have hpool := balanced_preopen b database c.minSize ⟨ofConfig c, backend, clock⟩ rfl
    rw [hrun] at hpool
    exact hpool

end Run

/-- **The balance is kept** by every run. -/
theorem balanced_of_reaches (hs : Sound c s) (hbalanced : Balanced s.pool) (h : Reaches s s') :
    Balanced s'.pool := by
  induction h with
  | refl => exact hbalanced
  | tail hreach hstep ih =>
    have hbooked := (sound_of_reaches hs hreach).booked hstep
    unfold Balanced at ih ⊢
    omega

/-- **The books of a pool balance.** In every run of a new pool, whatever is answered on the way
and however borrowers, returns and closings take turns, the size of the pool is what it has opened
less what it has closed; each connection that is open is idle, or a borrower has it, or it is in
the hands of somebody in the middle of borrowing, returning or closing; and the published number of
idle connections is theirs whenever nobody has them to himself.  A connection that is struck out of
the size was in it, and a permit that is taken was free. -/
theorem books_balance {σ : Type} (b : Backend σ) (database : String) (c : PoolConfig) (backend : σ)
    (clock : Nat) (events : List Event) (run : Run σ)
    (hstart : Run.start b database c backend clock = .ok (events, run)) (s : Traffic)
    (hrun : Reaches (.quiet run.pool) s) :
    s.pool.stats.closed ≤ s.pool.stats.created
      ∧ s.pool.size = s.pool.stats.created - s.pool.stats.closed
      ∧ s.pool.size = s.pool.idle.length + s.borrowed + s.inHand
      ∧ (s.pool.locked = false → s.pool.idleCount = s.pool.idle.length)
      ∧ ∀ s', Step s s' →
          (s.pool.stats.closed < s'.pool.stats.closed → s'.pool.size + 1 = s.pool.size)
          ∧ (s.total .held < s'.total .held → s'.pool.permits + 1 = s.pool.permits) := by
  have hsound := sound_of_start hstart hrun
  have hbalanced : s.pool.stats.created = s.pool.size + s.pool.stats.closed :=
    balanced_of_reaches (Run.fresh_of_start hstart).1.sound (Run.balanced_of_start hstart) hrun
  have hsize : s.pool.size = s.pool.idle.length + s.borrowed + s.inHand := by
    rw [Nat.add_assoc, ← s.total_eq_borrowed_add]
    exact hsound.size
  refine ⟨by omega, by omega, hsize, hsound.published, fun s' hstep => ⟨fun hclosed => ?_, ?_⟩⟩
  · rcases hsound.booked hstep with hnothing | hopened | hstruck <;> omega
  · exact hstep.permits_of_held_lt

/-- The connection opened at the start does not answer its test, and another is opened, is lent and
let go, and has released its permit. -/
def secondBest : List Turn :=
  [.borrow, .act 0 1 .go, .act 0 2 .go, .act 0 3 .go, .act 0 4 .go, .act 0 5 (.healthy false),
    .act 0 6 .go, .act 0 7 (.connected (.ok 8)), .letGo 0, .act 0 8 .go]

/-- Two were opened and one was closed; the other is on its way back. -/
theorem books_balance_secondBest :
    ∃ (run : Run Unit) (s : Traffic),
      Run.start willing "default" ⟨1, 2, 5, 60000, 60000, true⟩ () 0 = .ok ([], run)
        ∧ playAll secondBest (.quiet run.pool) = some s ∧ s.inHand = 1
        ∧ s.pool.size = s.pool.stats.created - s.pool.stats.closed
        ∧ s.pool.size = s.pool.idle.length + s.borrowed + 1 := by
  let c : PoolConfig := ⟨1, 2, 5, 60000, 60000, true⟩
  let p : Pool := ⟨c, [⟨7, 1, 1⟩], 1, 2, 1, ⟨1, 0, 0, 0, 0⟩, false, false⟩
  have hstart : Run.start willing "default" c () 0 = .ok ([], ⟨p, (), 1⟩) := rfl
  have hplay : playAll secondBest (.quiet p) = some
      ⟨⟨c, [], 0, 2, 1, ⟨2, 1, 1, 0, 1⟩, false, false⟩,
        [.returner (.checking ⟨8, 7⟩)]⟩ := by cbv
  obtain ⟨_, hsize, hplaces, _⟩ := books_balance willing "default" c () 0 [] _ hstart _
    (reaches_of_playAll secondBest hplay)
  exact ⟨_, _, hstart, hplay, rfl, hsize, hplaces⟩

end CardStore.Pool
