/-
  CardStore.Proofs.Pool.Search
  ────────────────────────────
  **THE SEARCH FOR A CONNECTION.**

  A borrower with a permit looks at the idle connections one after another,
  the latest returned first.  It throws away what is too old, which is closed,
  and what does not answer its test, which is counted, up to the first that is
  fit.  That one it is lent; what lies below is as it was.  Only when all are
  thrown away does it open a connection.

  Each connection thrown away takes two steps of the borrower, so the i-th is
  looked at at a known reading of the clock.  What the clock reads there, and
  what is answered to the tests, is arbitrary.

  Main statements:
    * `driveBy_id`, `goOnBy_id` — a run is a run by the clock that counts its readings.
    * `exists_sifts` — what is thrown away, by induction on the idle connections.
    * `lends_newest_fit` — what a borrower with a permit gets, and what is left.
    * `undisturbed_of_playAll` — nobody else touches the idle connections in the meantime.
-/
import CardStore.Proofs.Backend
import CardStore.Proofs.Pool.Books

namespace CardStore.Pool

/-! ## §1. Any clock. -/

namespace Run

variable {σ : Type}

/-- Drive a borrower by a clock that reads what it likes: the time at each of its readings. -/
def driveBy (b : Backend σ) (database : String) (time : Nat → Nat) :
    Nat → Borrowing → Run σ → Borrowing × Run σ
  | 0, w, s => (w, s)
  | fuel + 1, w, s =>
    let (answer, s) := s.reply b database w
    let s := s.tick
    match w.step s.pool (time s.clock) answer with
    | some (w, pool) => driveBy b database time fuel w { s with pool }
    | none => (w, s)

/-- Drive a borrower by any clock until it is served or refused, or has to wait. -/
def goOnBy (b : Backend σ) (database : String) (time : Nat → Nat) (w : Borrowing) (s : Run σ) :
    Borrowing × Run σ :=
  driveBy b database time (borrowingSteps s.pool) w s

theorem driveBy_id (b : Backend σ) (database : String) : ∀ (fuel : Nat) (w : Borrowing)
    (s : Run σ), driveBy b database id fuel w s = drive b database fuel w s := by
  intro fuel
  induction fuel with
  | zero =>
    intro w s
    rfl
  | succ fuel ih =>
    intro w s
    rw [driveBy, drive]
    simp only [ih]
    rfl

/-- **A run** is one by the clock that counts its own readings. -/
theorem goOnBy_id (b : Backend σ) (database : String) (w : Borrowing) (s : Run σ) :
    s.goOnBy b database id w = s.goOn b database w := driveBy_id b database _ w s

end Run

/-! ## §2. What is thrown away. -/

/-- **Too old**: open for longer than connections may live, or idle for longer than they may be. -/
def OverAge (c : PoolConfig) (now : Nat) (e : Idle) : Prop :=
  c.maxLifetime * readingsPerMillisecond < now - e.createdAt
    ∨ c.idleTimeout * readingsPerMillisecond < now - e.lastUsed

theorem isStale_eq_true_iff (p : Pool) (now : Nat) (e : Idle) :
    p.isStale now e = true ↔ OverAge p.config now e := by
  simp [isStale, exceeds, OverAge]

theorem isStale_eq_false_iff (p : Pool) (now : Nat) (e : Idle) :
    p.isStale now e = false ↔ ¬ OverAge p.config now e := by
  rw [← isStale_eq_true_iff, Bool.not_eq_true]

/-- **Thrown away one after another**, from a reading of the clock on: a connection is too old and
is closed, whatever that answers, or it is not too old, is tested and does not answer.  What the
backend was asked for, and how many did not answer. -/
inductive Discards (c : PoolConfig) (time : Nat → Nat) :
    Nat → List Idle → List Exchange → Nat → Prop where
  | none {k : Nat} : Discards c time k [] [] 0
  | overAge {k failures : Nat} {e : Idle} {es : List Idle} {asked : List Exchange}
      (answer : Except Error Unit) :
      OverAge c (time k) e → Discards c time (k + 2) es asked failures →
      Discards c time k (e :: es) (.closed e.connection answer :: asked) failures
  | unhealthy {k failures : Nat} {e : Idle} {es : List Idle} {asked : List Exchange} :
      ¬ OverAge c (time k) e → c.testOnBorrow = true →
      Discards c time (k + 2) es asked failures →
      Discards c time k (e :: es) (.tested e.connection false :: asked) (failures + 1)

/-- **Fit to be lent**: not too old, and tested with an answer if tests are asked for.  What the
backend was asked for. -/
inductive Fit (c : PoolConfig) (now : Nat) (e : Idle) : List Exchange → Prop where
  | tested : ¬ OverAge c now e → c.testOnBorrow = true → Fit c now e [.tested e.connection true]
  | untested : ¬ OverAge c now e → c.testOnBorrow = false → Fit c now e []

/-- A pool from whose idle connections some were thrown away, and some of those because they did
not answer; what is left of them. -/
def discarding (p : Pool) (thrown failures : Nat) (rest : List Idle) : Pool :=
  { p with
    idle := rest
    size := p.size - thrown
    stats := { p.stats with
      closed := p.stats.closed + thrown
      healthFailures := p.stats.healthFailures + failures } }

/-- One more is too old. -/
theorem discarding_noteClosed (p : Pool) (es : List Idle) (thrown failures : Nat)
    (rest : List Idle) :
    { p with idle := es }.noteClosed.discarding thrown failures rest
      = p.discarding (thrown + 1) failures rest := by
  simp only [discarding, noteClosed, Nat.sub_sub, Nat.add_assoc, Nat.add_comm 1]

/-- One more does not answer. -/
theorem discarding_noteUnhealthy (p : Pool) (es : List Idle) (thrown failures : Nat)
    (rest : List Idle) :
    { p with idle := es }.noteClosed.noteUnhealthy.discarding thrown failures rest
      = p.discarding (thrown + 1) (failures + 1) rest := by
  simp only [discarding, noteClosed, noteUnhealthy, Nat.sub_sub, Nat.add_assoc, Nat.add_comm 1]

/-! ## §3. The search. -/

namespace Run

variable {σ : Type} (b : Backend σ) (database : String) (time : Nat → Nat)

/-- Two steps at a connection that is too old. -/
theorem driveBy_retire {s : Run σ} {e : Idle} {rest : List Idle} (hidle : s.pool.idle = e :: rest)
    (hold : OverAge s.pool.config (time (s.clock + 1)) e) (fuel : Nat) :
    driveBy b database time (fuel + 2) .scanning s
      = driveBy b database time fuel .scanning ⟨{ s.pool with idle := rest }.noteClosed,
          (b.close e.connection s.backend).2, s.clock + 2⟩ := by
  have hstale := (isStale_eq_true_iff s.pool _ e).2 hold
  simp [driveBy, reply, tick, Borrowing.step, hidle, hstale]

/-- Two steps at a connection that does not answer its test. -/
theorem driveBy_unhealthy {s : Run σ} {e : Idle} {rest : List Idle}
    (hidle : s.pool.idle = e :: rest) (hyoung : ¬ OverAge s.pool.config (time (s.clock + 1)) e)
    (htest : s.pool.config.testOnBorrow = true)
    (hanswer : (b.isValid e.connection s.backend).1 = false) (fuel : Nat) :
    driveBy b database time (fuel + 2) .scanning s
      = driveBy b database time fuel .scanning
          ⟨{ s.pool with idle := rest }.noteClosed.noteUnhealthy,
            (b.isValid e.connection s.backend).2, s.clock + 2⟩ := by
  have hfresh := (isStale_eq_false_iff s.pool _ e).2 hyoung
  simp [driveBy, reply, tick, Borrowing.step, hidle, hfresh, htest, hanswer]

/-- Who is served or refused has come to his end. -/
theorem driveBy_ended {w : Borrowing} (hended : ∀ p now answer, w.step p now answer = none)
    (hreply : ∀ s : Run σ, (s.reply b database w).2 = s) (fuel : Nat) (s : Run σ) :
    ∃ s', driveBy b database time fuel w s = (w, s') ∧ s'.pool = s.pool
      ∧ s'.backend = s.backend := by
  cases fuel with
  | zero => exact ⟨s, rfl, rfl, rfl⟩
  | succ fuel =>
    refine ⟨s.tick, ?_, rfl, rfl⟩
    simp only [driveBy, hended, hreply]

theorem driveBy_served (c : Lent) (fuel : Nat) (s : Run σ) :
    ∃ s', driveBy b database time fuel (.served c) s = (.served c, s') ∧ s'.pool = s.pool
      ∧ s'.backend = s.backend :=
  driveBy_ended b database time (fun _ _ answer => by cases answer <;> rfl) (fun _ => rfl) fuel s

theorem driveBy_refused (e : Error) (fuel : Nat) (s : Run σ) :
    ∃ s', driveBy b database time fuel (.refused e) s = (.refused e, s') ∧ s'.pool = s.pool
      ∧ s'.backend = s.backend :=
  driveBy_ended b database time (fun _ _ answer => by cases answer <;> rfl) (fun _ => rfl) fuel s

/-- The first idle connection, if there is one, is fit to be lent. -/
def FirstFits (s : Run (σ × List Exchange)) : Prop :=
  ∀ e below, s.pool.idle = e :: below → ¬ OverAge s.pool.config (time (s.clock + 1)) e
    ∧ (s.pool.config.testOnBorrow = true → (b.isValid e.connection s.backend.1).1 = true)

/-- **How far a search has come** when some connections are thrown away, and the first of the
others, if there is one, is fit. -/
structure Sifts (s : Run (σ × List Exchange)) (passed rest : List Idle) (asked : List Exchange)
    (failures : Nat) (s' : Run (σ × List Exchange)) : Prop where
  idle : s.pool.idle = passed ++ rest
  discards : Discards s.pool.config time (s.clock + 1) passed asked failures
  asked : s'.backend.2 = s.backend.2 ++ asked
  pool : s'.pool = s.pool.discarding passed.length failures rest
  clock : s'.clock = s.clock + 2 * passed.length
  first : FirstFits b time s'
  run : ∀ fuel, driveBy b.recorded database time (fuel + 2 * passed.length) .scanning s
    = driveBy b.recorded database time fuel .scanning s'

variable {b database time}

/-- Nothing is thrown away where the first is fit, or where there is none. -/
theorem Sifts.stop {s : Run (σ × List Exchange)} (hfirst : FirstFits b time s) :
    Sifts b database time s [] s.pool.idle [] 0 s where
  idle := rfl
  discards := .none
  asked := (List.append_nil _).symm
  pool := rfl
  clock := rfl
  first := hfirst
  run _ := rfl

variable {s s' : Run (σ × List Exchange)} {e : Idle} {others passed rest : List Idle}
  {asked : List Exchange} {failures : Nat}

/-- One that is too old is thrown away before the others. -/
theorem Sifts.overAge (hidle : s.pool.idle = e :: others)
    (hold : OverAge s.pool.config (time (s.clock + 1)) e)
    (h : Sifts b database time ⟨{ s.pool with idle := others }.noteClosed,
      (b.recorded.close e.connection s.backend).2, s.clock + 2⟩ passed rest asked failures s') :
    Sifts b database time s (e :: passed) rest
      (.closed e.connection (b.close e.connection s.backend.1).1 :: asked) failures s' where
  idle := hidle.trans (congrArg (e :: ·) h.idle)
  discards := .overAge _ hold h.discards
  asked := h.asked.trans (List.append_assoc _ [_] asked)
  pool := h.pool.trans (discarding_noteClosed s.pool others passed.length failures rest)
  clock := h.clock.trans (Nat.add_right_comm s.clock 2 _)
  first := h.first
  run fuel := (driveBy_retire b.recorded database time hidle hold _).trans (h.run fuel)

/-- One that does not answer is thrown away before the others. -/
theorem Sifts.unhealthy (hidle : s.pool.idle = e :: others)
    (hyoung : ¬ OverAge s.pool.config (time (s.clock + 1)) e)
    (htest : s.pool.config.testOnBorrow = true)
    (hanswer : (b.isValid e.connection s.backend.1).1 = false)
    (h : Sifts b database time ⟨{ s.pool with idle := others }.noteClosed.noteUnhealthy,
      (b.recorded.isValid e.connection s.backend).2, s.clock + 2⟩ passed rest asked failures s') :
    Sifts b database time s (e :: passed) rest (.tested e.connection false :: asked)
      (failures + 1) s' where
  idle := hidle.trans (congrArg (e :: ·) h.idle)
  discards := .unhealthy hyoung htest h.discards
  asked := by
    rw [h.asked, ← hanswer]
    exact List.append_assoc _ [_] asked
  pool := h.pool.trans (discarding_noteUnhealthy s.pool others passed.length failures rest)
  clock := h.clock.trans (Nat.add_right_comm s.clock 2 _)
  first := h.first
  run fuel :=
    (driveBy_unhealthy b.recorded database time hidle hyoung htest hanswer _).trans (h.run fuel)

variable (b database time)

/-- **Every search** throws away what is not fit, up to the first that is. -/
theorem exists_sifts : ∀ (idle : List Idle) (s : Run (σ × List Exchange)), s.pool.idle = idle →
    ∃ passed rest asked failures s', Sifts b database time s passed rest asked failures s' := by
  intro idle
  induction idle with
  | nil =>
    intro s hidle
    refine ⟨_, _, _, _, _, .stop fun e below he => ?_⟩
    rw [hidle] at he
    cases he
  | cons e others ih =>
    intro s hidle
    by_cases hold : OverAge s.pool.config (time (s.clock + 1)) e
    · obtain ⟨passed, rest, asked, failures, s', h⟩ :=
        ih ⟨{ s.pool with idle := others }.noteClosed, (b.recorded.close e.connection s.backend).2,
          s.clock + 2⟩ rfl
      exact ⟨_, _, _, _, _, h.overAge hidle hold⟩
    · by_cases hbad : s.pool.config.testOnBorrow = true
          ∧ (b.isValid e.connection s.backend.1).1 = false
      · obtain ⟨passed, rest, asked, failures, s', h⟩ :=
          ih ⟨{ s.pool with idle := others }.noteClosed.noteUnhealthy,
            (b.recorded.isValid e.connection s.backend).2, s.clock + 2⟩ rfl
        exact ⟨_, _, _, _, _, h.unhealthy hidle hold hbad.1 hbad.2⟩
      · refine ⟨_, _, _, _, _, .stop fun e' below he => ?_⟩
        rw [hidle] at he
        cases he
        exact ⟨hold, fun htest => eq_true_of_ne_false fun hfalse => hbad ⟨htest, hfalse⟩⟩

/-- **The first that is fit is lent.** -/
theorem driveBy_take {s : Run (σ × List Exchange)} {below : List Idle}
    (hidle : s.pool.idle = e :: below) (hfirst : FirstFits b time s) (fuel : Nat) :
    ∃ test s', driveBy b.recorded database time (fuel + 2) .scanning s
        = (.served ⟨e.connection, e.createdAt⟩, s')
      ∧ Fit s.pool.config (time (s.clock + 1)) e test ∧ s'.backend.2 = s.backend.2 ++ test
      ∧ s'.pool = { s.pool with idle := below }.unlock.noteAcquired := by
  obtain ⟨hyoung, hvalid⟩ := hfirst e below hidle
  have hfresh := (isStale_eq_false_iff s.pool _ e).2 hyoung
  cases htest : s.pool.config.testOnBorrow with
  | true =>
    have hanswer : (b.recorded.isValid e.connection s.backend).1 = true := hvalid htest
    obtain ⟨s', hrun, hpool, hbackend⟩ := driveBy_served b.recorded database time
      ⟨e.connection, e.createdAt⟩ fuel ⟨{ s.pool with idle := below }.unlock.noteAcquired,
        (b.recorded.isValid e.connection s.backend).2, s.clock + 2⟩
    refine ⟨_, s', ?_, .tested hyoung htest, ?_, hpool⟩
    · rw [← hrun]
      simp [driveBy, reply, tick, Borrowing.step, hidle, hfresh, htest, hanswer]
    · rw [hbackend, ← hvalid htest]
      rfl
  | false =>
    obtain ⟨s', hrun, hpool, hbackend⟩ := driveBy_served b.recorded database time
      ⟨e.connection, e.createdAt⟩ (fuel + 1)
      ⟨{ s.pool with idle := below }.unlock.noteAcquired, s.backend, s.clock + 1⟩
    refine ⟨_, s', ?_, .untested hyoung htest, ?_, hpool⟩
    · rw [← hrun]
      simp [driveBy, reply, tick, Borrowing.step, hidle, hfresh, htest]
    · rw [hbackend, List.append_nil]

/-- **Where none is left, a connection is opened.** -/
theorem driveBy_open {s : Run (σ × List Exchange)} (hidle : s.pool.idle = []) (fuel : Nat) :
    ∃ answer w s', driveBy b.recorded database time (fuel + 2) .scanning s = (w, s')
      ∧ s'.backend.2 = s.backend.2 ++ [.connected database answer]
      ∧ (w, s'.pool) = match answer with
        | .ok n => (.served ⟨n, time (s.clock + 2)⟩, s.pool.unlock.noteOpened.noteAcquired)
        | .error e => (.refused e, s.pool.unlock.releasePermit) := by
  cases hconnect : (b.connect database s.backend.1).1 with
  | ok n =>
    have hanswer : (b.recorded.connect database s.backend).1 = .ok n := hconnect
    obtain ⟨s', hrun, hpool, hbackend⟩ := driveBy_served b.recorded database time
      ⟨n, time (s.clock + 2)⟩ fuel ⟨s.pool.unlock.noteOpened.noteAcquired,
        (b.recorded.connect database s.backend).2, s.clock + 2⟩
    refine ⟨.ok n, .served ⟨n, time (s.clock + 2)⟩, s', ?_, ?_, by rw [hpool]⟩
    · rw [← hrun]
      simp [driveBy, reply, tick, Borrowing.step, hidle, hanswer]
    · rw [hbackend, ← hconnect]
      rfl
  | error e =>
    have hanswer : (b.recorded.connect database s.backend).1 = .error e := hconnect
    obtain ⟨s', hrun, hpool, hbackend⟩ := driveBy_refused b.recorded database time e fuel
      ⟨s.pool.unlock.releasePermit, (b.recorded.connect database s.backend).2, s.clock + 2⟩
    refine ⟨.error e, .refused e, s', ?_, ?_, by rw [hpool]⟩
    · rw [← hrun]
      simp [driveBy, reply, tick, Borrowing.step, hidle, hanswer]
    · rw [hbackend, ← hconnect]
      rfl

/-! ## §4. What is lent. -/

/-- **A borrower takes the latest connection that is fit.** Take any pool whose idle connections
nobody has to himself, any backend and any clock, and let a borrower with a permit go on.  Then it
throws away some of the idle connections, the latest returned first and each once: one that is too
old is closed, and one that does not answer its test is counted as that.  If something is left, the
first of it is fit and is lent with the time of its opening, nothing else is asked of the backend,
and what lies below stays idle as it was.  If nothing is left, a connection is opened, and lent if
that succeeds.  The size and the counts go by what was thrown away, and the number of idle
connections is published. -/
theorem lends_newest_fit (s : Run (σ × List Exchange)) (hfree : s.pool.locked = false) :
    ∃ w s' passed rest asked failures,
      s.goOnBy b.recorded database time .admitted = (w, s')
      ∧ s.pool.idle = passed ++ rest
      ∧ Discards s.pool.config time (s.clock + 2) passed asked failures
      ∧ match rest with
        | e :: below => ∃ test, Fit s.pool.config (time (s.clock + 2 * passed.length + 2)) e test
          ∧ w = .served ⟨e.connection, e.createdAt⟩
          ∧ s'.backend.2 = s.backend.2 ++ asked ++ test
          ∧ s'.pool = (s.pool.discarding passed.length failures below).unlock.noteAcquired
        | [] => ∃ answer, s'.backend.2 = s.backend.2 ++ asked ++ [.connected database answer]
          ∧ (w, s'.pool) = match answer with
            | .ok n => (.served ⟨n, time (s.clock + 2 * passed.length + 3)⟩,
              (s.pool.discarding passed.length failures []).unlock.noteOpened.noteAcquired)
            | .error e =>
              (.refused e, (s.pool.discarding passed.length failures []).unlock.releasePermit) := by
  obtain ⟨passed, rest, asked, failures, s₁, h⟩ :=
    exists_sifts b database time s.pool.idle ⟨s.pool.lock, s.backend, s.clock + 1⟩ rfl
  -- enough steps are left for the end of the search
  have hlength : passed.length ≤ s.pool.idle.length := by
    rw [show s.pool.idle = passed ++ rest from h.idle, List.length_append]
    exact Nat.le_add_right _ _
  obtain ⟨fuel, hfuel⟩ : ∃ fuel, borrowingSteps s.pool = fuel + 2 + 2 * passed.length + 1 :=
    ⟨2 * (s.pool.idle.length - passed.length) + 3, by rw [borrowingSteps]; omega⟩
  have hrun : s.goOnBy b.recorded database time .admitted
      = driveBy b.recorded database time (fuel + 2) .scanning s₁ := by
    rw [← h.run, goOnBy, hfuel]
    simp [driveBy, reply, tick, Borrowing.step, hfree]
  have hclock : s₁.clock = s.clock + 2 * passed.length + 1 := by
    rw [h.clock]
    exact Nat.add_right_comm _ _ _
  have hidle : s₁.pool.idle = rest := congrArg Pool.idle h.pool
  cases rest with
  | cons e below =>
    obtain ⟨test, s', htake, hfit, hasked, hpool⟩ :=
      driveBy_take b database time hidle h.first fuel
    rw [h.pool, hclock] at hfit
    refine ⟨_, s', passed, _, asked, failures, hrun.trans htake, h.idle, h.discards, test, hfit,
      rfl, ?_, ?_⟩
    · rw [hasked, h.asked]
    · rw [hpool, h.pool]
      rfl
  | nil =>
    obtain ⟨answer, w, s', hopen, hasked, hend⟩ := driveBy_open b database time hidle fuel
    refine ⟨w, s', passed, _, asked, failures, hrun.trans hopen, h.idle, h.discards, answer, ?_, ?_⟩
    · rw [hasked, h.asked]
    · rw [hend, hclock, h.pool]
      rfl

/-- Connection 3 is all that answers a test, and connection 9 is what can be opened. -/
def choosy : Backend Unit := { willing with
  connect := fun _ s => (.ok 9, s)
  isValid := fun connection s => (connection == 3, s) }

/-- Four idle connections: the latest is too old, the next does not answer, the next is fit, and
the last is too old again. -/
def shelf : Run (Unit × List Exchange) :=
  ⟨{ ofConfig ⟨0, 5, 5, 10, 10, true⟩ with
      idle := [⟨1, 0, 20000000⟩, ⟨2, 20000000, 20000000⟩, ⟨3, 20000000, 20000000⟩, ⟨4, 0, 0⟩]
      idleCount := 4
      size := 4 }, ((), []), 0⟩

/-- The third is lent with the time of its opening, and the fourth is left. -/
theorem lends_newest_fit_third :
    ∃ s' passed below asked failures,
      shelf.goOnBy choosy.recorded "default" (20000000 + ·) .admitted
        = (.served ⟨3, 20000000⟩, s')
      ∧ shelf.pool.idle = passed ++ ⟨3, 20000000, 20000000⟩ :: below
      ∧ Discards shelf.pool.config (20000000 + ·) 2 passed asked failures
      ∧ s'.pool = (shelf.pool.discarding passed.length failures below).unlock.noteAcquired := by
  have hserved : (shelf.goOnBy choosy.recorded "default" (20000000 + ·) .admitted).1
      = .served ⟨3, 20000000⟩ := rfl
  obtain ⟨w, s', passed, rest, asked, failures, hrun, hidle, hdiscards, hend⟩ :=
    lends_newest_fit choosy "default" (20000000 + ·) shelf rfl
  rw [hrun] at hserved
  subst hserved
  cases rest with
  | nil =>
    obtain ⟨answer, -, hopened⟩ := hend
    cases answer with
    | ok n =>
      injection (Prod.mk.inj hopened).1 with hnew
      have hcreated : 20000000 = 20000000 + _ := congrArg Lent.createdAt hnew
      omega
    | error e => cases (Prod.mk.inj hopened).1
  | cons e below =>
    obtain ⟨test, -, hlent, -, hpool⟩ := hend
    have hmem : e ∈ shelf.pool.idle := hidle ▸ List.mem_append_right _ List.mem_cons_self
    have hthird : ∀ e ∈ shelf.pool.idle, e.connection = 3 → e = ⟨3, 20000000, 20000000⟩ := by
      decide
    injection hlent with hlent
    rw [hthird e hmem (congrArg Lent.connection hlent).symm] at hidle
    exact ⟨s', passed, below, asked, failures, hrun, hidle, hdiscards, hpool⟩

end Run

/-! ## §5. Nobody comes between. -/

variable {p p' : Pool} {now i : Nat} {party party' : Party} {s s' : Traffic} {c : PoolConfig}

/-- Whoever has not his turn leaves the idle connections alone. -/
theorem Party.Move.spares (h : Move p now party party' p') (hlocked : p.locked = true)
    (hnone : Share.turn.amount party = 0) :
    p'.idle = p.idle ∧ p'.idleCount = p.idleCount ∧ p'.locked = p.locked := by
  cases h with
  | scan hfree | enter hfree | store hfree =>
    rw [hlocked] at hfree
    cases hfree
  | findNone | findStale | findUntested | take | retire | findHealthy | findUnhealthy | drain
  | finish | disposeIdle => cases hnone
  | _ => exact ⟨rfl, rfl, rfl⟩

/-- **Undisturbed**: somebody is as far as he was, and the idle connections are as they were. -/
structure Undisturbed (i : Nat) (party : Party) (s s' : Traffic) : Prop where
  party : s'.parties[i]? = some party
  idle : s'.pool.idle = s.pool.idle
  idleCount : s'.pool.idleCount = s.pool.idleCount
  locked : s'.pool.locked = s.pool.locked

/-- **A turn of somebody else** does not disturb whoever has his turn at the idle connections. -/
theorem undisturbed_of_play (hs : Sound c s) (hi : s.parties[i]? = some party)
    (hturn : Share.turn.amount party = 1) {turn : Turn} (hplay : turn.play s = some s')
    (hothers : ∀ now answer, turn ≠ .act i now answer) : Undisturbed i party s s' := by
  obtain ⟨hlength, -⟩ := List.getElem?_eq_some_iff.1 hi
  cases turn with
  | borrow | close =>
    cases hplay
    exact ⟨(List.getElem?_append_left hlength).trans hi, rfl, rfl, rfl⟩
  | letGo j =>
    rw [Turn.play] at hplay
    split at hplay
    · rename_i c hj
      cases hplay
      -- who lets a connection go has been served, and has not his turn any more
      have hne : j ≠ i := by
        rintro rfl
        rw [hi] at hj
        cases hj
        cases hturn
      exact ⟨(List.getElem?_set_ne hne).trans hi, rfl, rfl, rfl⟩
    · cases hplay
  | act j now answer =>
    have hne : j ≠ i := by
      rintro rfl
      exact hothers now answer rfl
    rw [Turn.play] at hplay
    split at hplay
    · rename_i other hj
      obtain ⟨⟨other', p'⟩, hstep, hs'⟩ := Option.map_eq_some_iff.1 hplay
      cases hs'
      -- there is one turn, and it is his
      have hle := Traffic.amount_add_amount_le .turn hne.symm hi hj
      rw [hs.turn, hturn] at hle
      have hone := s.pool.locked.toNat_le
      have hlocked : s.pool.locked = true := Bool.toNat_eq_one.1 (by omega)
      obtain ⟨hidle, hcount, hstill⟩ :=
        (Party.move_iff.2 ⟨answer, hstep⟩).spares hlocked (by omega)
      exact ⟨(List.getElem?_set_ne hne).trans hi, hidle, hcount, hstill⟩
    · cases hplay

/-- **Nobody comes between.** While somebody has his turn at the idle connections, all others may
take whatever turns they can, and do not disturb him. -/
theorem undisturbed_of_playAll (hturn : Share.turn.amount party = 1) : ∀ (turns : List Turn)
    {s s' : Traffic}, Sound c s → s.parties[i]? = some party →
    (∀ turn ∈ turns, ∀ now answer, turn ≠ .act i now answer) → playAll turns s = some s' →
    Undisturbed i party s s' := by
  intro turns
  induction turns with
  | nil =>
    intro s s' _ hi _ hplay
    cases hplay
    exact ⟨hi, rfl, rfl, rfl⟩
  | cons turn turns ih =>
    intro s s' hs hi hothers hplay
    obtain ⟨hfirst, hothers⟩ := List.forall_mem_cons.1 hothers
    obtain ⟨s₁, hplay₁, hplay⟩ := Option.bind_eq_some_iff.1 hplay
    have h₁ := undisturbed_of_play hs hi hturn hplay₁ hfirst
    have h := ih (hs.step ⟨turn, hplay₁⟩) h₁.party hothers hplay
    exact ⟨h.party, h.idle.trans h₁.idle, h.idleCount.trans h₁.idleCount,
      h.locked.trans h₁.locked⟩

end CardStore.Pool
