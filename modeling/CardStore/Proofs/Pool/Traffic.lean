/-
  CardStore.Proofs.Pool.Traffic
  ─────────────────────────────
  **ALL WHO ARE AT A POOL AT ONCE.**

  Any number of borrowers, of connections on their way back and of closings
  are at a pool at once.  They take their atomic steps in any order, and each
  step may read any time from the clock and get any answer from outside:
  connections may fail to open or to answer a test, and a borrower may give
  up as long as it waits for a permit.  A borrower that was served lets its
  connection go at some time, and the connection is on its way back then.

  A step changes the pool and one of the parties.  What the parties hold
  between them is added up over all of them, so a law about a pool and such a
  sum is kept by every step if each single move of one party keeps it.

  Main statements:
    * `Party.move_iff` — what a step of one party can do.
    * `Step.cases` — what a step can do.
    * `reaches_of_playAll` — a list of turns is a run.
    * `Step.keeps`, `keeps_of_reaches` — laws about a pool and what parties hold between them.
-/
import CardStore.Pool.Basic
import Mathlib.Algebra.Order.BigOperators.Group.List
import Mathlib.Algebra.Order.Ring.Nat
import Mathlib.Logic.Relation

namespace CardStore.Pool

open Relation (ReflTransGen)

/-- Which connections are too old does not depend on those that are idle. -/
@[simp]
theorem isStale_withIdle (p : Pool) (rest : List Idle) (now : Nat) (e : Idle) :
    isStale { p with idle := rest } now e = p.isStale now e := rfl

/-! ## §1. Parties. -/

/-- Somebody who has business with a pool. -/
inductive Party where
  | borrower (w : Borrowing)
  | returner (w : Returning)
  | closer (w : Closing)

namespace Party

/-- One step of a party; none when it has to wait, or needs another reply. -/
def step (p : Pool) (now : Nat) (answer : Reply) : Party → Option (Party × Pool)
  | .borrower w => (w.step p now answer).map fun (w, p) => (.borrower w, p)
  | .returner w => (w.step p now).map fun (w, p) => (.returner w, p)
  | .closer w => (w.step p).map fun (w, p) => (.closer w, p)

/-- **What a party can do** at a pool, at a time of the clock. -/
inductive Move (p : Pool) (now : Nat) : Party → Party → Pool → Prop where
  | turnedAway : p.closed = true →
      Move p now (.borrower .arriving) (.borrower (.refused shutDownError)) p
  | queue : p.closed = false → Move p now (.borrower .arriving) (.borrower .queued) p
  | grant : p.permits ≠ 0 → Move p now (.borrower .queued) (.borrower .admitted) p.takePermit
  | giveUp : Move p now (.borrower .queued) (.borrower (.refused (timeoutError p.config)))
      p.noteExhausted
  | scan : p.locked = false → Move p now (.borrower .admitted) (.borrower .scanning) p.lock
  | findNone : p.idle = [] → Move p now (.borrower .scanning) (.borrower .connecting) p.unlock
  | findStale {e : Idle} {rest : List Idle} : p.idle = e :: rest → p.isStale now e = true →
      Move p now (.borrower .scanning) (.borrower (.retiring e)) { p with idle := rest }
  | findUntested {e : Idle} {rest : List Idle} : p.idle = e :: rest → p.isStale now e = false →
      p.config.testOnBorrow = true →
      Move p now (.borrower .scanning) (.borrower (.probing e)) { p with idle := rest }
  | take {e : Idle} {rest : List Idle} : p.idle = e :: rest → p.isStale now e = false →
      p.config.testOnBorrow = false →
      Move p now (.borrower .scanning) (.borrower (.served ⟨e.connection, e.createdAt⟩))
        { p with idle := rest }.unlock.noteAcquired
  | retire {e : Idle} : Move p now (.borrower (.retiring e)) (.borrower .scanning) p.noteClosed
  | findHealthy {e : Idle} : Move p now (.borrower (.probing e))
      (.borrower (.served ⟨e.connection, e.createdAt⟩)) p.unlock.noteAcquired
  | findUnhealthy {e : Idle} : Move p now (.borrower (.probing e)) (.borrower .scanning)
      p.noteClosed.noteUnhealthy
  | connect (c : Nat) : Move p now (.borrower .connecting) (.borrower (.served ⟨c, now⟩))
      p.noteOpened.noteAcquired
  | failToConnect (e : Error) : Move p now (.borrower .connecting) (.borrower (.refused e))
      p.releasePermit
  | release {c : Lent} : Move p now (.returner (.arriving c)) (.returner (.checking c))
      p.releasePermit
  | findShut {c : Lent} : p.closed = true →
      Move p now (.returner (.checking c)) (.returner (.closing c)) p
  | findOpen {c : Lent} : p.closed = false →
      Move p now (.returner (.checking c)) (.returner (.storing c)) p
  | dispose {c : Lent} : Move p now (.returner (.closing c)) (.returner .returned) p.noteClosed
  | store {c : Lent} : p.locked = false → Move p now (.returner (.storing c)) (.returner .returned)
      (p.push ⟨c.connection, c.createdAt, now⟩)
  | shut : Move p now (.closer .starting) (.closer .entering) { p with closed := true }
  | enter : p.locked = false → Move p now (.closer .entering) (.closer .draining) p.lock
  | drain {e : Idle} {rest : List Idle} : p.idle = e :: rest →
      Move p now (.closer .draining) (.closer (.closing e)) { p with idle := rest }
  | finish : p.idle = [] → Move p now (.closer .draining) (.closer .closed) p.unlock
  | disposeIdle {e : Idle} : Move p now (.closer (.closing e)) (.closer .draining) p.noteClosed

variable {p p' : Pool} {now : Nat} {party party' : Party}

theorem move_of_borrowing {w w' : Borrowing} {answer : Reply}
    (h : w.step p now answer = some (w', p')) : Move p now (.borrower w) (.borrower w') p' := by
  cases w with
  | arriving =>
    cases answer with
    | go =>
      rw [Borrowing.step] at h
      split at h
      · rename_i hclosed
        cases h
        exact .turnedAway hclosed
      · rename_i hopen
        cases h
        exact .queue (eq_false_of_ne_true hopen)
    | timedOut | healthy _ | connected _ => cases h
  | queued =>
    cases answer with
    | go =>
      rw [Borrowing.step] at h
      split at h
      · cases h
      · rename_i hpermits
        cases h
        exact .grant hpermits
    | timedOut =>
      cases h
      exact .giveUp
    | healthy _ | connected _ => cases h
  | admitted =>
    cases answer with
    | go =>
      rw [Borrowing.step] at h
      split at h
      · cases h
      · rename_i hfree
        cases h
        exact .scan (eq_false_of_ne_true hfree)
    | timedOut | healthy _ | connected _ => cases h
  | scanning =>
    cases answer with
    | go =>
      rw [Borrowing.step] at h
      split at h
      · rename_i hidle
        cases h
        exact .findNone hidle
      · rename_i e rest hidle
        dsimp only at h
        split at h
        · rename_i hstale
          cases h
          exact .findStale hidle hstale
        · rename_i hfresh
          have hfresh : p.isStale now e = false := eq_false_of_ne_true hfresh
          split at h
          · rename_i htest
            cases h
            exact .findUntested hidle hfresh htest
          · rename_i htest
            cases h
            exact .take hidle hfresh (eq_false_of_ne_true htest)
    | timedOut | healthy _ | connected _ => cases h
  | retiring e =>
    cases answer with
    | go =>
      cases h
      exact .retire
    | timedOut | healthy _ | connected _ => cases h
  | probing e =>
    cases answer with
    | healthy yes =>
      cases yes with
      | true =>
        cases h
        exact .findHealthy
      | false =>
        cases h
        exact .findUnhealthy
    | go | timedOut | connected _ => cases h
  | connecting =>
    cases answer with
    | connected answer =>
      cases answer with
      | ok c =>
        cases h
        exact .connect c
      | error e =>
        cases h
        exact .failToConnect e
    | go | timedOut | healthy _ => cases h
  | served c => cases answer <;> cases h
  | refused e => cases answer <;> cases h

theorem move_of_returning {w w' : Returning} (h : w.step p now = some (w', p')) :
    Move p now (.returner w) (.returner w') p' := by
  cases w with
  | arriving c =>
    cases h
    exact .release
  | checking c =>
    rw [Returning.step] at h
    split at h
    · rename_i hclosed
      cases h
      exact .findShut hclosed
    · rename_i hopen
      cases h
      exact .findOpen (eq_false_of_ne_true hopen)
  | closing c =>
    cases h
    exact .dispose
  | storing c =>
    rw [Returning.step] at h
    split at h
    · cases h
    · rename_i hfree
      cases h
      exact .store (eq_false_of_ne_true hfree)
  | returned => cases h

theorem move_of_closing {w w' : Closing} (h : w.step p = some (w', p')) :
    Move p now (.closer w) (.closer w') p' := by
  cases w with
  | starting =>
    cases h
    exact .shut
  | entering =>
    rw [Closing.step] at h
    split at h
    · cases h
    · rename_i hfree
      cases h
      exact .enter (eq_false_of_ne_true hfree)
  | draining =>
    rw [Closing.step] at h
    split at h
    · rename_i hidle
      cases h
      exact .finish hidle
    · rename_i e rest hidle
      cases h
      exact .drain hidle
  | closing e =>
    cases h
    exact .disposeIdle
  | closed => cases h

/-- **What a step of one party can do**, whatever it is answered. -/
theorem move_iff :
    Move p now party party' p' ↔ ∃ answer, party.step p now answer = some (party', p') := by
  constructor
  · intro h
    cases h with
    | turnedAway h => exact ⟨.go, by simp [step, Borrowing.step, h]⟩
    | queue h => exact ⟨.go, by simp [step, Borrowing.step, h]⟩
    | grant h => exact ⟨.go, by simp [step, Borrowing.step, h]⟩
    | giveUp => exact ⟨.timedOut, rfl⟩
    | scan h => exact ⟨.go, by simp [step, Borrowing.step, h]⟩
    | findNone h => exact ⟨.go, by simp [step, Borrowing.step, h]⟩
    | findStale h hstale => exact ⟨.go, by simp [step, Borrowing.step, h, hstale]⟩
    | findUntested h hfresh htest =>
      exact ⟨.go, by simp [step, Borrowing.step, h, hfresh, htest]⟩
    | take h hfresh htest => exact ⟨.go, by simp [step, Borrowing.step, h, hfresh, htest]⟩
    | retire => exact ⟨.go, rfl⟩
    | findHealthy => exact ⟨.healthy true, rfl⟩
    | findUnhealthy => exact ⟨.healthy false, rfl⟩
    | connect c => exact ⟨.connected (.ok c), rfl⟩
    | failToConnect e => exact ⟨.connected (.error e), rfl⟩
    | release => exact ⟨.go, rfl⟩
    | findShut h => exact ⟨.go, by simp [step, Returning.step, h]⟩
    | findOpen h => exact ⟨.go, by simp [step, Returning.step, h]⟩
    | dispose => exact ⟨.go, rfl⟩
    | store h => exact ⟨.go, by simp [step, Returning.step, h]⟩
    | shut => exact ⟨.go, rfl⟩
    | enter h => exact ⟨.go, by simp [step, Closing.step, h]⟩
    | drain h => exact ⟨.go, by simp [step, Closing.step, h]⟩
    | finish h => exact ⟨.go, by simp [step, Closing.step, h]⟩
    | disposeIdle => exact ⟨.go, rfl⟩
  · rintro ⟨answer, h⟩
    cases party with
    | borrower w =>
      obtain ⟨r, hr, hpair⟩ := Option.map_eq_some_iff.1 h
      cases hpair
      exact move_of_borrowing hr
    | returner w =>
      obtain ⟨r, hr, hpair⟩ := Option.map_eq_some_iff.1 h
      cases hpair
      exact move_of_returning hr
    | closer w =>
      obtain ⟨r, hr, hpair⟩ := Option.map_eq_some_iff.1 h
      cases hpair
      exact move_of_closing hr

end Party

/-! ## §2. Steps. -/

/-- A pool and all who are at it, in the order in which they came. -/
structure Traffic where
  pool : Pool
  parties : List Party

/-- A pool that nobody is at. -/
def Traffic.quiet (p : Pool) : Traffic := ⟨p, []⟩

/-- Who is next, at what time of the clock, and what it is answered. -/
inductive Turn where
  /-- Somebody comes to borrow a connection. -/
  | borrow
  /-- Somebody comes to close the pool. -/
  | close
  /-- The borrower at a position lets its connection go. -/
  | letGo (i : Nat)
  /-- The party at a position does a step. -/
  | act (i now : Nat) (answer : Reply)

/-- What is under way after a turn; none if the turn cannot be taken. -/
def Turn.play (s : Traffic) : Turn → Option Traffic
  | .borrow => some ⟨s.pool, s.parties ++ [.borrower .arriving]⟩
  | .close => some ⟨s.pool, s.parties ++ [.closer .starting]⟩
  | .letGo i => match s.parties[i]? with
    | some (.borrower (.served c)) => some ⟨s.pool, s.parties.set i (.returner (.arriving c))⟩
    | _ => none
  | .act i now answer => match s.parties[i]? with
    | some party => (party.step s.pool now answer).map fun (party, p) =>
      ⟨p, s.parties.set i party⟩
    | none => none

/-- What is under way after some turns. -/
def playAll : List Turn → Traffic → Option Traffic
  | [], s => some s
  | turn :: turns, s => (turn.play s).bind (playAll turns)

/-- **One step** of all that is under way. -/
def Step (s s' : Traffic) : Prop := ∃ turn : Turn, turn.play s = some s'

/-- **A run**: any number of steps. -/
abbrev Reaches : Traffic → Traffic → Prop := ReflTransGen Step

theorem reaches_of_playAll : ∀ (turns : List Turn) {s s' : Traffic},
    playAll turns s = some s' → Reaches s s' := by
  intro turns
  induction turns with
  | nil =>
    intro s s' h
    rw [← Option.some.inj h]
  | cons turn turns ih =>
    intro s s' h
    obtain ⟨s'', hturn, hturns⟩ := Option.bind_eq_some_iff.1 h
    exact (ih hturns).head ⟨turn, hturn⟩

variable {p p' : Pool} {now : Nat} {party party' : Party} {s s' : Traffic}

theorem step_borrow (p : Pool) (parties : List Party) :
    Step ⟨p, parties⟩ ⟨p, parties ++ [.borrower .arriving]⟩ := ⟨.borrow, rfl⟩

theorem step_letGo (p : Pool) (front back : List Party) (c : Lent) :
    Step ⟨p, front ++ .borrower (.served c) :: back⟩
      ⟨p, front ++ .returner (.arriving c) :: back⟩ := by
  refine ⟨.letGo front.length, ?_⟩
  simp [Turn.play]

theorem step_of_move (now : Nat) (h : Party.Move p now party party' p') (front back : List Party) :
    Step ⟨p, front ++ party :: back⟩ ⟨p', front ++ party' :: back⟩ := by
  obtain ⟨answer, hstep⟩ := Party.move_iff.1 h
  refine ⟨.act front.length now answer, ?_⟩
  simp [Turn.play, hstep]

/-- A list around one of its positions. -/
theorem exists_around {l : List Party} {i : Nat} (h : l[i]? = some party) :
    ∃ front back, l = front ++ party :: back ∧ ∀ other, l.set i other = front ++ other :: back := by
  obtain ⟨hi, rfl⟩ := List.getElem?_eq_some_iff.1 h
  refine ⟨l.take i, l.drop (i + 1), ?_, fun other => ?_⟩
  · rw [← List.drop_eq_getElem_cons hi, List.take_append_drop]
  · rw [List.set_eq_take_append_cons_drop, if_pos hi]

/-- **What a step can do.** -/
theorem Step.cases (h : Step s s') :
    (∃ party, (party = .borrower .arriving ∨ party = .closer .starting)
        ∧ s'.pool = s.pool ∧ s'.parties = s.parties ++ [party])
      ∨ (∃ front back c, s'.pool = s.pool ∧ s.parties = front ++ .borrower (.served c) :: back
        ∧ s'.parties = front ++ .returner (.arriving c) :: back)
      ∨ ∃ front back party party' now, Party.Move s.pool now party party' s'.pool
        ∧ s.parties = front ++ party :: back ∧ s'.parties = front ++ party' :: back := by
  obtain ⟨turn, h⟩ := h
  cases turn with
  | borrow =>
    cases h
    exact .inl ⟨_, .inl rfl, rfl, rfl⟩
  | close =>
    cases h
    exact .inl ⟨_, .inr rfl, rfl, rfl⟩
  | letGo i =>
    rw [Turn.play] at h
    split at h
    · rename_i c hparty
      cases h
      obtain ⟨front, back, hs, hset⟩ := exists_around hparty
      exact .inr (.inl ⟨front, back, c, rfl, hs, hset _⟩)
    · cases h
  | act i now answer =>
    rw [Turn.play] at h
    split at h
    · rename_i party hparty
      obtain ⟨⟨party', p'⟩, hstep, hs'⟩ := Option.map_eq_some_iff.1 h
      cases hs'
      obtain ⟨front, back, hs, hset⟩ := exists_around hparty
      exact .inr (.inr ⟨front, back, party, party', now, Party.move_iff.2 ⟨answer, hstep⟩, hs,
        hset _⟩)
    · cases h

/-! ## §3. What parties hold between them. -/

/-- **What a party has of something.** Whoever comes has nothing of it yet, and as much of it
belongs to a connection that was let go as to one that is lent. -/
structure Share where
  amount : Party → Nat
  borrower : amount (.borrower .arriving) = 0
  closer : amount (.closer .starting) = 0
  letGo : ∀ c, amount (.returner (.arriving c)) = amount (.borrower (.served c))

/-- What all parties have between them. -/
def Traffic.total (s : Traffic) (h : Share) : Nat := (s.parties.map h.amount).sum

/-- Things that are counted together. -/
instance : Add Share where
  add a b :=
    { amount := fun party => a.amount party + b.amount party
      borrower := by rw [a.borrower, b.borrower]
      closer := by rw [a.closer, b.closer]
      letGo := fun c => by rw [a.letGo, b.letGo] }

theorem Share.amount_add (a b : Share) (party : Party) :
    (a + b).amount party = a.amount party + b.amount party := rfl

theorem Traffic.total_add (s : Traffic) (a b : Share) :
    s.total (a + b) = s.total a + s.total b := List.sum_map_add

theorem Traffic.total_le (s : Traffic) {a b : Share}
    (h : ∀ party, a.amount party ≤ b.amount party) : s.total a ≤ s.total b :=
  List.sum_le_sum fun party _ => h party

/-- What one party has, and what all others have. -/
theorem Traffic.total_of_parties {front back : List Party}
    (h : s.parties = front ++ party :: back) (share : Share) :
    s.total share = share.amount party + ((front ++ back).map share.amount).sum := by
  rw [total, h]
  simp only [List.map_append, List.map_cons, List.sum_append, List.sum_cons]
  omega

theorem Traffic.total_append (h : s'.parties = s.parties ++ [party]) (share : Share) :
    s'.total share = s.total share + share.amount party := by
  rw [total, h, List.map_append, List.sum_append]
  rfl

theorem Traffic.total_eq_zero_iff (s : Traffic) (share : Share) :
    s.total share = 0 ↔ ∀ party ∈ s.parties, share.amount party = 0 := by
  rw [total, List.sum_eq_zero_iff, List.forall_mem_map]

/-- Somebody has what there is. -/
theorem Traffic.exists_of_total_ne_zero {share : Share} (h : s.total share ≠ 0) :
    ∃ front party back, s.parties = front ++ party :: back ∧ share.amount party ≠ 0 := by
  rw [Ne, total_eq_zero_iff] at h
  push Not at h
  obtain ⟨party, hmem, hamount⟩ := h
  obtain ⟨front, back, hs⟩ := List.append_of_mem hmem
  exact ⟨front, party, back, hs, hamount⟩

/-- What two of the parties have. -/
theorem Traffic.amount_add_amount_le (share : Share) {i j : Nat} (hne : i ≠ j)
    (hi : s.parties[i]? = some party) (hj : s.parties[j]? = some party') :
    share.amount party + share.amount party' ≤ s.total share := by
  obtain ⟨front, back, hs, hset⟩ := exists_around hj
  -- somebody who has nothing yet in the place of the second
  let s₁ : Traffic := ⟨s.pool, s.parties.set j (.borrower .arriving)⟩
  have hmem : party ∈ s₁.parties :=
    List.mem_of_getElem? ((List.getElem?_set_ne hne.symm).trans hi)
  have hle : share.amount party ≤ s₁.total share := List.le_sum_of_mem (List.mem_map_of_mem hmem)
  rw [Traffic.total_of_parties (hset _), share.borrower, Nat.zero_add] at hle
  rw [Traffic.total_of_parties hs, Nat.add_comm]
  exact Nat.add_le_add_left hle _

/-- A step in which nobody does anything at the pool keeps what parties have. -/
theorem Step.total_eq_or (h : Step s s') :
    (s'.pool = s.pool ∧ ∀ share : Share, s'.total share = s.total share)
      ∨ ∃ (rest : List Party) (party party' : Party) (now : Nat),
        Party.Move s.pool now party party' s'.pool
        ∧ ∀ share : Share, s.total share = share.amount party + (rest.map share.amount).sum
          ∧ s'.total share = share.amount party' + (rest.map share.amount).sum := by
  rcases h.cases with ⟨party, hparty, hpool, hs'⟩ | ⟨front, back, c, hpool, hs, hs'⟩
    | ⟨front, back, party, party', now, hmove, hs, hs'⟩
  · refine .inl ⟨hpool, fun share => ?_⟩
    rw [Traffic.total_append hs']
    rcases hparty with rfl | rfl
    · rw [share.borrower, Nat.add_zero]
    · rw [share.closer, Nat.add_zero]
  · refine .inl ⟨hpool, fun share => ?_⟩
    rw [Traffic.total_of_parties hs, Traffic.total_of_parties hs', share.letGo]
  · exact .inr ⟨front ++ back, party, party', now, hmove, fun share =>
      ⟨Traffic.total_of_parties hs share, Traffic.total_of_parties hs' share⟩⟩

/-- **A law that each move keeps**, whatever all others have, is kept by every step. -/
theorem Step.keeps (share : Share) (Law : Pool → Nat → Prop)
    (hmove : ∀ {p p' : Pool} {now : Nat} {party party' : Party} (others : Nat),
      Party.Move p now party party' p' → Law p (share.amount party + others) →
        Law p' (share.amount party' + others))
    (h : Step s s') (hs : Law s.pool (s.total share)) :
    Law s'.pool (s'.total share) := by
  rcases h.total_eq_or with ⟨hpool, htotal⟩ | ⟨rest, party, party', now, hact, htotal⟩
  · rw [hpool, htotal]
    exact hs
  · rw [(htotal share).2]
    rw [(htotal share).1] at hs
    exact hmove _ hact hs

/-- **A law that each move keeps** is kept by every run. -/
theorem keeps_of_reaches (share : Share) (Law : Pool → Nat → Prop)
    (hmove : ∀ {p p' : Pool} {now : Nat} {party party' : Party} (others : Nat),
      Party.Move p now party party' p' → Law p (share.amount party + others) →
        Law p' (share.amount party' + others))
    (h : Reaches s s') (hs : Law s.pool (s.total share)) :
    Law s'.pool (s'.total share) := by
  induction h with
  | refl => exact hs
  | tail _ hstep ih => exact hstep.keeps share Law hmove ih

end CardStore.Pool
