/-
  CardStore.Proofs.Pool.Size
  ──────────────────────────
  **HOW MANY CONNECTIONS A POOL HAS OPEN.**

  Permits count borrowers, and a connection on its way back has released its
  permit before it is idle.  In between another borrower may take the permit,
  find no connection idle and open one, so that one more is open than there
  are permits.  The same can happen to the next connection that goes back.

  A pool exceeds its permits by no more connections than were on their way
  back when a borrower found none idle, and by so many it can.

  Main statements:
    * `Sound.surplus_le` — one step.
    * `size_exceeds_by` — the largest size of a pool.
-/
import CardStore.Proofs.Pool.Books

namespace CardStore.Pool

open Relation (ReflTransGen)

/-! ## §1. Runs with few connections on their way back. -/

/-- A step in which a borrower turns to opening a connection only while at most so many are on
their way back with their permits released. -/
def StepWithin (k : Nat) (s s' : Traffic) : Prop :=
  Step s s' ∧ (s.total .opening < s'.total .opening → s.total .afloat ≤ k)

abbrev ReachesWithin (k : Nat) : Traffic → Traffic → Prop := ReflTransGen (StepWithin k)

variable {p p' : Pool} {now k : Nat} {party party' : Party} {s s' : Traffic} {c : PoolConfig}

theorem reaches_of_within (h : ReachesWithin k s s') : Reaches s s' :=
  ReflTransGen.mono (fun _ _ hstep => hstep.1) _ _ h

/-! ## §2. The bound. -/

/-- Connections that are open or being opened get more only when none is found idle. -/
theorem Party.Move.size_opening_le (others : Nat) (h : Move p now party party' p') :
    p'.size + (Share.opening.amount party' + others)
        ≤ p.size + (Share.opening.amount party + others)
      ∨ (p.idle = [] ∧ p' = p.unlock ∧ party = .borrower .scanning
        ∧ party' = .borrower .connecting) := by
  cases h with
  | findNone hidle => exact .inr ⟨hidle, rfl, rfl, rfl⟩
  | _ =>
    refine .inl ?_
    simp only [Share.opening, takePermit, releasePermit, noteExhausted, lock, unlock, noteClosed,
      noteUnhealthy, noteOpened, noteAcquired, push]
    omega

/-- Where a borrower finds no connection idle, those that are open are lent or on their way back,
and its own permit is not used yet. -/
theorem Sound.size_opening_lt (hs : Sound c s) (hidle : s.pool.idle = []) (others : Traffic)
    (htotal : ∀ share : Share,
      s.total share = share.amount (.borrower .scanning) + others.total share) :
    s.pool.size + s.total .opening < c.maxSize + s.total .afloat := by
  have hsize := hs.size
  have hpermits := hs.permits
  rw [hidle, List.length_nil, Traffic.total_add, Traffic.total_add] at hsize
  rw [Traffic.total_add] at hpermits
  -- nobody else has his turn, so nobody has picked up a connection
  have hpicked : s.total .picked = 0 := by
    have hturn : 1 + others.total .turn = s.pool.locked.toNat := (htotal .turn).symm.trans hs.turn
    have hother : s.total .picked = 0 + others.total .picked := htotal .picked
    have hle := others.total_le Share.picked_le_turn
    have hone := s.pool.locked.toNat_le
    omega
  have hheld : s.total .opening < s.total .held := by
    have hopening : s.total .opening = 0 + others.total .opening := htotal .opening
    have hown : s.total .held = 1 + others.total .held := htotal .held
    have hle := others.total_le Share.opening_le_held
    omega
  omega

/-- **One step** keeps the excess over the permits within what is on its way back. -/
theorem Sound.excess_le (hs : Sound c s) (h : StepWithin k s s')
    (hle : s.pool.size + s.total .opening ≤ c.maxSize + k) :
    s'.pool.size + s'.total .opening ≤ c.maxSize + k := by
  obtain ⟨hstep, hwithin⟩ := h
  rcases hstep.total_eq_or with ⟨hpool, htotal⟩ | ⟨rest, party, party', now, hmove, htotal⟩
  · rw [hpool, htotal]
    exact hle
  · rcases hmove.size_opening_le (rest.map Share.opening.amount).sum with
      hfewer | ⟨hidle, hpool, rfl, rfl⟩
    · rw [(htotal .opening).2]
      rw [(htotal .opening).1] at hle
      exact hfewer.trans hle
    · have hlt := hs.size_opening_lt hidle ⟨s.pool, rest⟩ fun share => (htotal share).1
      have hsize : s'.pool.size = s.pool.size := hpool ▸ rfl
      have hopening : s'.total .opening = s.total .opening + 1 := by
        rw [(htotal .opening).1, (htotal .opening).2]
        show 1 + _ = 0 + _ + 1
        omega
      have hafloat := hwithin (hopening ▸ Nat.lt_succ_self _)
      omega

/-- **Every run** of a pool that has no more connections open than it has permits. -/
theorem Sound.size_le (hs : Sound c s) (hsize : s.pool.size + s.total .opening ≤ c.maxSize)
    (h : ReachesWithin k s s') : s'.pool.size + s'.total .opening ≤ c.maxSize + k := by
  induction h with
  | refl => exact hsize.trans (Nat.le_add_right _ _)
  | tail hreach hstep ih =>
    exact (sound_of_reaches hs (reaches_of_within hreach)).excess_le hstep ih

/-! ## §3. A run that reaches it. -/

/-- A pool that is not shut down, and nobody has his turn at its idle connections. -/
structure Open (p : Pool) : Prop where
  closed : p.closed = false
  locked : p.locked = false

/-- At the beginning of all time nothing is too old. -/
theorem isStale_zero (p : Pool) (e : Idle) : p.isStale 0 e = false := by
  simp [isStale, exceeds]

/-- One more borrower comes and is served, with an idle connection if there is one. -/
theorem serve_one (parties : List Party) (hp : Open p) (hpermits : p.permits ≠ 0)
    (hafloat : Traffic.total ⟨p, parties⟩ .afloat ≤ k) :
    ∃ p' lent, ReachesWithin k ⟨p, parties⟩ ⟨p', parties ++ [.borrower (.served lent)]⟩ ∧ Open p'
      ∧ p'.permits + 1 = p.permits ∧ p'.idle = p.idle.tail := by
  have hstep {q q' : Pool} {w w' : Borrowing} (h : Party.Move q 0 (.borrower w) (.borrower w') q') :
      StepWithin k ⟨q, parties ++ [.borrower w]⟩ ⟨q', parties ++ [.borrower w']⟩ := by
    refine ⟨step_of_move 0 h parties [], fun _ => ?_⟩
    have hown : Share.afloat.amount (.borrower w) = 0 := by cases h <;> rfl
    rw [Traffic.total_append (s := ⟨p, parties⟩) rfl, hown]
    exact hafloat
  have hcome : StepWithin k ⟨p, parties⟩ ⟨p, parties ++ [.borrower .arriving]⟩ :=
    ⟨step_borrow p parties, fun _ => hafloat⟩
  have hscanning : ReachesWithin k ⟨p, parties⟩
      ⟨p.takePermit.lock, parties ++ [.borrower .scanning]⟩ :=
    (((ReflTransGen.single hcome).tail (hstep (.queue hp.closed))).tail
      (hstep (.grant hpermits))).tail (hstep (.scan hp.locked))
  have hcount : p.permits - 1 + 1 = p.permits := Nat.succ_pred hpermits
  cases hidle : p.idle with
  | nil =>
    exact ⟨_, ⟨0, 0⟩, (hscanning.tail (hstep (.findNone hidle))).tail (hstep (.connect 0)),
      ⟨hp.closed, rfl⟩, hcount, hidle⟩
  | cons e rest =>
    cases htest : p.config.testOnBorrow with
    | false =>
      exact ⟨_, _, hscanning.tail (hstep (.take hidle (isStale_zero _ e) htest)),
        ⟨hp.closed, rfl⟩, hcount, rfl⟩
    | true =>
      exact ⟨_, _, (hscanning.tail (hstep (.findUntested hidle (isStale_zero _ e) htest))).tail
        (hstep .findHealthy), ⟨hp.closed, rfl⟩, hcount, rfl⟩

/-- Connections on their way back before they are idle, and others that are lent. -/
def crowd (back lent : List Lent) : List Party :=
  back.map (fun c => .returner (.checking c)) ++ lent.map fun c => .borrower (.served c)

theorem total_crowd (p : Pool) (back lent : List Lent) (share : Share) :
    Traffic.total ⟨p, crowd back lent⟩ share
      = (back.map fun c => share.amount (.returner (.checking c))).sum
        + (lent.map fun c => share.amount (.borrower (.served c))).sum := by
  simp [Traffic.total, crowd, Function.comp_def]

theorem afloat_crowd (p : Pool) (back lent : List Lent) :
    Traffic.total ⟨p, crowd back lent⟩ .afloat = back.length := by
  simp [total_crowd, Share.afloat]

/-- Where none is idle, those that are open are lent or on their way back. -/
theorem Sound.size_crowd {back lent : List Lent} (hs : Sound c ⟨p, crowd back lent⟩)
    (hidle : p.idle = []) : p.size = lent.length + back.length := by
  have hsize := hs.size
  simpa [hidle, Traffic.total_add, total_crowd, Share.lent, Share.afloat, Share.picked] using hsize

theorem crowd_concat (back lent : List Lent) (c : Lent) :
    crowd back lent ++ [.borrower (.served c)] = crowd back (lent ++ [c]) := by
  simp [crowd]

/-- As many borrowers as there are permits come and are served. -/
theorem serve_all (back : List Lent) (hback : back.length ≤ k) : ∀ (n : Nat) (p : Pool)
    (lent : List Lent), Open p → p.permits = n →
    ∃ p' lent', ReachesWithin k ⟨p, crowd back lent⟩ ⟨p', crowd back lent'⟩ ∧ Open p'
      ∧ p'.permits = 0 ∧ lent'.length = lent.length + n ∧ p'.idle = p.idle.drop n := by
  intro n
  induction n with
  | zero =>
    intro p lent hp hpermits
    exact ⟨p, lent, .refl, hp, hpermits, rfl, rfl⟩
  | succ n ih =>
    intro p lent hp hpermits
    obtain ⟨p₁, c, hreach₁, hp₁, hpermits₁, hidle₁⟩ := serve_one (crowd back lent) hp (by omega)
      ((afloat_crowd p back lent).trans_le hback)
    rw [crowd_concat] at hreach₁
    obtain ⟨p', lent', hreach', hp', hpermits', hlent', hidle'⟩ :=
      ih p₁ (lent ++ [c]) hp₁ (by omega)
    refine ⟨p', lent', hreach₁.trans hreach', hp', hpermits', ?_, ?_⟩
    · rw [hlent', List.length_append, List.length_singleton]
      omega
    · rw [hidle', hidle₁, List.drop_tail]

/-- A borrower lets its connection go, which then is on its way back without its permit. -/
theorem letGo_crowd (p : Pool) (back lent : List Lent) (c : Lent) :
    ReachesWithin k ⟨p, crowd back (c :: lent)⟩ ⟨p.releasePermit, crowd (back ++ [c]) lent⟩ := by
  let front : List Party := back.map fun c => .returner (.checking c)
  let behind : List Party := lent.map fun c => .borrower (.served c)
  have hletGo : StepWithin k ⟨p, front ++ .borrower (.served c) :: behind⟩
      ⟨p, front ++ .returner (.arriving c) :: behind⟩ := by
    refine ⟨step_letGo p front behind c, fun hmore => absurd hmore ?_⟩
    rw [Traffic.total_of_parties rfl, Traffic.total_of_parties rfl, Share.letGo]
    exact lt_irrefl _
  have hrelease : StepWithin k ⟨p, front ++ .returner (.arriving c) :: behind⟩
      ⟨p.releasePermit, front ++ .returner (.checking c) :: behind⟩ := by
    refine ⟨step_of_move 0 .release front behind, fun hmore => absurd hmore ?_⟩
    rw [Traffic.total_of_parties rfl, Traffic.total_of_parties rfl]
    exact lt_irrefl _
  have hreach := (ReflTransGen.single hletGo).tail hrelease
  simpa [crowd, front, behind] using hreach

/-- One after another lets its connection go, and before that is idle another borrower takes the
permit and opens one. -/
theorem overtake_all : ∀ (n : Nat) (p : Pool) (back lent : List Lent), Open p → p.permits = 0 →
    p.idle = [] → lent ≠ [] → back.length + n ≤ k →
    ∃ p' back' lent', ReachesWithin k ⟨p, crowd back lent⟩ ⟨p', crowd back' lent'⟩
      ∧ p'.idle = [] ∧ back'.length = back.length + n ∧ lent'.length = lent.length := by
  intro n
  induction n with
  | zero =>
    intro p back lent _ _ hidle _ _
    exact ⟨p, back, lent, .refl, hidle, rfl, rfl⟩
  | succ n ih =>
    intro p back lent hp hpermits hidle hlent hback
    obtain ⟨c, others, rfl⟩ := List.exists_cons_of_ne_nil hlent
    obtain ⟨p₁, c₁, hreach₁, hp₁, hpermits₁, hidle₁⟩ := serve_one (k := k)
      (p := p.releasePermit) (crowd (back ++ [c]) others) ⟨hp.closed, hp.locked⟩
      (Nat.succ_ne_zero _) (by rw [afloat_crowd, List.length_append, List.length_singleton]; omega)
    rw [crowd_concat] at hreach₁
    have hnone : p₁.permits = 0 := Nat.succ.inj (hpermits₁.trans (congrArg Nat.succ hpermits))
    obtain ⟨p', back', lent', hreach', hidle', hback', hlent'⟩ := ih p₁ (back ++ [c])
      (others ++ [c₁]) hp₁ hnone (hidle₁.trans (congrArg List.tail hidle)) (by simp)
      (by rw [List.length_append, List.length_singleton]; omega)
    refine ⟨p', back', lent', ((letGo_crowd p back others c).trans hreach₁).trans hreach', hidle',
      ?_, ?_⟩
    · rw [hback', List.length_append, List.length_singleton]
      omega
    · rw [hlent', List.length_append, List.length_singleton, List.length_cons]

/-! ## §4. The largest size. -/

/-- **How many connections a pool has open at most.** In a run in which no more than `k`
connections are on their way back without their permits whenever a borrower finds none idle, a new
pool has at most `k` more open than it has permits; and some such run gets that far. -/
theorem size_exceeds_by {σ : Type} (b : Backend σ) (database : String) (c : PoolConfig)
    (backend : σ) (clock : Nat) (events : List Event) (run : Run σ)
    (hstart : Run.start b database c backend clock = .ok (events, run)) (k : Nat) :
    (∀ s, ReachesWithin k (.quiet run.pool) s → s.pool.size ≤ c.maxSize + k)
      ∧ ∃ s, ReachesWithin k (.quiet run.pool) s ∧ s.pool.size = c.maxSize + k := by
  obtain ⟨hfresh, hidle, hpositive⟩ := Run.fresh_of_start hstart
  constructor
  · intro s hreach
    have hle := hfresh.sound.size_le (hfresh.size.trans_le hidle) hreach
    omega
  · obtain ⟨p₁, lent₁, hreach₁, hp₁, hpermits₁, hlent₁, hidle₁⟩ := serve_all [] k.zero_le c.maxSize
      run.pool [] ⟨hfresh.closed, hfresh.locked⟩ hfresh.permits
    have hnone : p₁.idle = [] := hidle₁.trans (List.drop_eq_nil_of_le hidle)
    have hsome : lent₁ ≠ [] := List.ne_nil_of_length_pos (by rw [hlent₁]; omega)
    obtain ⟨p', back, lent, hreach', hidle', hback, hlent⟩ := overtake_all (k := k) k p₁ [] lent₁
      hp₁ hpermits₁ hnone hsome (by rw [List.length_nil, Nat.zero_add])
    have hreach := hreach₁.trans hreach'
    have hsize := (sound_of_reaches hfresh.sound (reaches_of_within hreach)).size_crowd hidle'
    refine ⟨_, hreach, ?_⟩
    rw [hlent, hlent₁, hback] at hsize
    simpa using hsize

/-- A pool with one permit.  Its only borrower has let its connection go, which has released the
permit; before it is idle another borrower takes the permit and opens a connection. -/
def overtaking : List Turn :=
  [.borrow, .act 0 1 .go, .act 0 2 .go, .act 0 3 .go, .act 0 4 .go, .act 0 5 (.connected (.ok 7)),
    .letGo 0, .act 0 6 .go, .act 0 7 .go, .borrow, .act 1 8 .go, .act 1 9 .go, .act 1 10 .go,
    .act 1 11 .go, .act 1 12 (.connected (.ok 8)), .act 0 13 .go]

/-- Then two connections are open: a pool may exceed its maximal size. -/
theorem size_exceeds_overtaking :
    ¬ ∀ (c : PoolConfig) (events : List Event) (run : Run Unit),
      Run.start willing "default" c () 0 = .ok (events, run) →
        ∀ s, Reaches (.quiet run.pool) s → s.pool.size ≤ c.maxSize := by
  intro hbound
  let c : PoolConfig := ⟨0, 1, 5, 60000, 60000, true⟩
  have hplay : playAll overtaking (.quiet (ofConfig c)) = some
      ⟨⟨c, [⟨7, 5, 13⟩], 1, 0, 2, ⟨2, 0, 2, 0, 0⟩, false, false⟩,
        [.returner .returned, .borrower (.served ⟨8, 12⟩)]⟩ := by cbv
  have hle : 2 ≤ 1 := hbound c [] ⟨ofConfig c, (), 0⟩ rfl _ (reaches_of_playAll overtaking hplay)
  omega

/-- The same with three connections on their way back one after the other. -/
theorem size_exceeds_by_three :
    ∃ (run : Run Unit) (s : Traffic),
      Run.start willing "default" ⟨1, 1, 5, 60000, 60000, true⟩ () 0 = .ok ([], run)
        ∧ Reaches (.quiet run.pool) s ∧ s.pool.size = 4 := by
  let c : PoolConfig := ⟨1, 1, 5, 60000, 60000, true⟩
  have hstart : Run.start willing "default" c () 0
      = .ok ([], ⟨(ofConfig c).noteOpened.push ⟨7, 1, 1⟩, (), 1⟩) := rfl
  obtain ⟨s, hreach, hsize⟩ :=
    (size_exceeds_by willing "default" c () 0 [] _ hstart 3).2
  exact ⟨_, s, hstart, reaches_of_within hreach, hsize⟩

end CardStore.Pool
