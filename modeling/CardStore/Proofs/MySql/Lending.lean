/-
  CardStore.Proofs.MySql.Lending
  ──────────────────────────────
  **CONNECTIONS THAT ARE LENT, AND THE TRANSACTIONS OPEN ON THEM.**

  Customers of a database run their errands on connections of a pool, in any
  interleaving, and the server answers each statement as it likes.  A
  connection is idle or in one hand, and nobody but the customer that has
  begun a transaction has the connection on which it was begun.

  When the statement that is to end a transaction fails, the connection goes
  back all the same, and its session still has the transaction open.  The pool
  tests it with a ping, which it answers, and lends it to the next customer.
  That is the only way in which a connection is lent with an open transaction.

  Main statements:
    * `Law.deal` — one step of one customer.
    * `lent_open_iff` — the connections that are lent with a transaction open.
    * `lent_open_stranded` — a commit that fails, and the customer after it.
-/
import CardStore.Proofs.Database.Customers
import CardStore.Proofs.Lists
import CardStore.Proofs.MySql.Sessions
import CardStore.Proofs.Pool.Books

namespace CardStore.MySql

open Database (Customer Deal Desk Errand Passes Turn idleTimes times)

variable {ρ : Type} {k : Client ρ} {database : String}

/-! ## §1. The law. -/

/-- **What holds between a pool, its customers and the server.** A connection is at most once idle
or in a hand, and it is staged as whoever has it has left it. -/
structure Law (s : Sessions (Watched ρ)) (hands insides : Nat → Nat) : Prop where
  aligned : s.Aligned
  once : ∀ n, hands n ≤ 1
  staged : ∀ n, 0 < hands n → s.Staged (decide (0 < insides n)) n

variable {s s' : Sessions (Watched ρ)} {p p' : Pool} {x x' : Customer}
  {hands hands' insides insides' others othersInside : Nat → Nat}

/-- Connections that are passed on, or dropped. -/
theorem Law.pass (h : Law s hands insides) (hhands : ∀ n, hands' n ≤ hands n)
    (hinsides : ∀ n, insides' n = insides n) : Law s hands' insides' where
  aligned := h.aligned
  once n := (hhands n).trans (h.once n)
  staged n hn := by
    rw [hinsides n]
    exact h.staged n (Nat.lt_of_lt_of_le hn (hhands n))

theorem Law.of_eq (h : Law s hands insides) (hconnections : s'.connections = s.connections)
    (hsessions : s'.server.sessions = s.server.sessions) : Law s' hands insides where
  aligned := by
    rw [Sessions.Aligned, hconnections, hsessions]
    exact h.aligned
  once := h.once
  staged n hn := (h.staged n hn).of_eq hconnections hsessions

/-- A call on one connection. -/
theorem Law.call {m : Nat} (h : Law s hands insides) (hspares : Sessions.Spares m s s')
    (hhands : ∀ n, hands' n ≤ hands n) (hinsides : ∀ n, n ≠ m → insides' n = insides n)
    (hstaged : 0 < hands' m → s'.Staged (decide (0 < insides' m)) m) : Law s' hands' insides' where
  aligned := hspares.aligned h.aligned
  once n := (hhands n).trans (h.once n)
  staged n hn := by
    by_cases hne : n = m
    · rw [hne] at hn ⊢
      exact hstaged hn
    · rw [hinsides n hne]
      exact hspares.staged hne (h.staged n (Nat.lt_of_lt_of_le hn (hhands n)))

/-- A connection that is new. -/
theorem Law.fresh {m : Nat} (h : Law s hands insides) (hm : m = s.connections.length)
    (hspares : Sessions.Spares m s s') (hstaged : s'.Staged false m)
    (hself : hands' m = hands m + 1) (hhands : ∀ n, n ≠ m → hands' n = hands n)
    (hle : insides m ≤ hands m) (hinsides : ∀ n, insides' n = insides n) :
    Law s' hands' insides' := by
  -- a number that no connection has is in no hand
  have hnobody : hands m = 0 := by
    by_contra hsome
    have hlt := (h.staged m (Nat.pos_of_ne_zero hsome)).lt
    omega
  refine ⟨hspares.aligned h.aligned, fun n => ?_, fun n hn => ?_⟩
  · by_cases hne : n = m
    · rw [hne, hself, hnobody]
    · rw [hhands n hne]
      exact h.once n
  · by_cases hne : n = m
    · have hnone : insides m = 0 := by omega
      rw [hne, hinsides m, hnone]
      exact hstaged
    · rw [hhands n hne] at hn
      rw [hinsides n]
      exact hspares.staged hne (h.staged n hn)

/-! ## §2. One step of one customer. -/

/-- The connections that are idle, that a customer has and that all others have. -/
def handsOf (p : Pool) (x : Customer) (others : Nat → Nat) (n : Nat) : Nat :=
  idleTimes n p + times n x.hand + others n

/-- The transactions that a customer has begun and that all others have. -/
def insidesOf (x : Customer) (others : Nat → Nat) (n : Nat) : Nat := times n x.inside + others n

theorem times_inside_le (n : Nat) (x : Customer) : times n x.inside ≤ times n x.hand := by
  cases x <;> simp [Customer.inside, Customer.hand, Database.times_none]

theorem times_self (n : Nat) : times n (some n) = 1 := if_pos rfl

theorem times_of_ne {n m : Nat} (h : n ≠ m) : times n (some m) = 0 := by
  rw [Database.times_some, if_neg h.symm]

/-- A connection that a customer has in hand is nowhere else. -/
theorem Law.inHand {m : Nat} (hle : ∀ n, othersInside n ≤ others n)
    (h : Law s (handsOf p x others) (insidesOf x othersInside)) (hhand : x.hand = some m) :
    idleTimes m p = 0 ∧ others m = 0 ∧ othersInside m = 0
      ∧ s.Staged (decide (0 < times m x.inside)) m := by
  have honce := h.once m
  rw [handsOf, hhand, times_self] at honce
  have hothers := hle m
  have hnone : othersInside m = 0 := by omega
  refine ⟨by omega, by omega, hnone, ?_⟩
  have hstaged := h.staged m (by rw [handsOf, hhand, times_self]; omega)
  rw [insidesOf, hnone, Nat.add_zero] at hstaged
  exact hstaged

/-- It is at rest unless the customer has begun a transaction on it. -/
theorem Law.rests {m : Nat} (hle : ∀ n, othersInside n ≤ others n)
    (h : Law s (handsOf p x others) (insidesOf x othersInside)) (hhand : x.hand = some m)
    (hinside : x.inside = none) : s.Staged false m := by
  have hstaged := (h.inHand hle hhand).2.2.2
  rw [hinside] at hstaged
  exact hstaged

theorem Law.works {m : Nat} (hle : ∀ n, othersInside n ≤ others n)
    (h : Law s (handsOf p x others) (insidesOf x othersInside)) (hhand : x.hand = some m)
    (hinside : x.inside = some m) : s.Staged true m := by
  have hstaged := (h.inHand hle hhand).2.2.2
  rw [hinside, times_self] at hstaged
  exact hstaged

/-- A call of a customer on the connection that it has in hand. -/
theorem Law.callInHand (inside : Bool) {m : Nat} (hle : ∀ n, othersInside n ≤ others n)
    (h : Law s (handsOf p x others) (insidesOf x othersInside)) (hhand : x.hand = some m)
    (hpasses : Passes p x x' p') (hinside : x.inside = none ∨ x.inside = some m)
    (hinside' : x'.inside = if inside then some m else none)
    (hcall : Sessions.Spares m s s' ∧ s'.Staged inside m) :
    Law s' (handsOf p' x' others) (insidesOf x' othersInside) := by
  refine h.call hcall.1 (fun n => Nat.add_le_add_right (hpasses n) _) (fun n hn => ?_) (fun _ => ?_)
  · have hbefore : times n x.inside = 0 := by
      rcases hinside with heq | heq
      · rw [heq, Database.times_none]
      · rw [heq, times_of_ne hn]
    have hafter : times n x'.inside = 0 := by
      rw [hinside']
      split
      · exact times_of_ne hn
      · exact Database.times_none n
    rw [insidesOf, insidesOf, hbefore, hafter]
  · have hnone := (h.inHand hle hhand).2.2.1
    rw [insidesOf, hinside', hnone]
    cases inside with
    | true =>
      rw [if_pos rfl, times_self]
      exact hcall.2
    | false => exact hcall.2

/-- **One step of one customer** keeps the law, whatever all others have. -/
theorem Law.deal (hle : ∀ n, othersInside n ≤ others n)
    (hdeal : Deal (backend k.watched) database p s x x' p' s')
    (h : Law s (handsOf p x others) (insidesOf x othersInside)) :
    Law s' (handsOf p' x' others) (insidesOf x' othersInside) := by
  cases hdeal with
  | pass hpasses hinside hinside' =>
    refine h.pass (fun n => Nat.add_le_add_right (hpasses n) _) (fun n => ?_)
    rw [insidesOf, insidesOf, hinside, hinside']
  | test hhand hpasses hinside hinside' =>
    exact h.callInHand false hle hhand hpasses (.inl hinside) hinside'
      (Sessions.staged_isValid (h.rests hle hhand hinside))
  | @close _ _ _ m hhand hhand' hidle hinside hinside' =>
    have hpasses : Passes p x x' p' := Database.passes_of_drop hidle hhand'
    refine h.call (Sessions.spares_close (h.rests hle hhand hinside))
      (fun n => Nat.add_le_add_right (hpasses n) _) (fun n _ => ?_) (fun hsome => ?_)
    · rw [insidesOf, insidesOf, hinside, hinside']
    -- nobody has it any more
    · obtain ⟨hnotIdle, hnobody, _⟩ := h.inHand hle hhand
      rw [idleTimes, ← hidle] at hnotIdle
      rw [handsOf, hhand', Database.times_none, idleTimes, hnotIdle, hnobody] at hsome
      cases hsome
  | @connect m now errand hok =>
    obtain ⟨hm, hspares, hstaged⟩ := Sessions.staged_connect h.aligned hok
    refine h.fresh hm hspares hstaged ?_ (fun n hn => ?_) ?_ (fun _ => rfl)
    · show idleTimes m p + times m (some m) + others m = idleTimes m p + 0 + others m + 1
      rw [times_self]
      omega
    · show idleTimes n p + times n (some m) + others n = idleTimes n p + 0 + others n
      rw [times_of_ne hn]
    · exact (Nat.zero_add _).trans_le ((hle m).trans (Nat.le_add_left _ _))
  | failToConnect herror =>
    obtain ⟨hconnections, hsessions⟩ := Sessions.same_of_connect herror
    exact (h.pass (fun _ => Nat.le_refl _) (fun _ => rfl)).of_eq hconnections hsessions
  | @query c native params =>
    exact h.callInHand false hle rfl (Database.passes_of_eq rfl rfl) (.inl rfl) rfl
      (Sessions.staged_run Reply.toRows native params (h.rests hle rfl rfl))
  | @execute c native params =>
    exact h.callInHand false hle rfl (Database.passes_of_eq rfl rfl) (.inl rfl) rfl
      (Sessions.staged_run Reply.toOutcome native params (h.rests hle rfl rfl))
  | begin hok =>
    have hbegin := Sessions.staged_begin (k := k) (h.rests hle rfl rfl)
    rw [hok] at hbegin
    exact h.callInHand true hle rfl (Database.passes_of_eq rfl rfl) (.inl rfl) rfl
      hbegin
  | failToBegin herror =>
    have hbegin := Sessions.staged_begin (k := k) (h.rests hle rfl rfl)
    rw [herror] at hbegin
    exact h.callInHand false hle rfl (Database.passes_of_eq rfl rfl) (.inl rfl) rfl
      hbegin
  | ask id r rest =>
    have hworks := h.works hle rfl rfl
    cases r with
    | query sql params =>
      exact h.callInHand true hle rfl (Database.passes_of_eq rfl rfl) (.inr rfl) rfl
        (Sessions.staged_runInside Reply.toRows _ params hworks)
    | execute sql params =>
      exact h.callInHand true hle rfl (Database.passes_of_eq rfl rfl) (.inr rfl) rfl
        (Sessions.staged_runInside Reply.toOutcome _ params hworks)
    | freshId | note _ => exact h.pass (fun _ => Nat.le_refl _) (fun _ => rfl)
  | commit =>
    exact h.callInHand false hle rfl (Database.passes_of_eq rfl rfl) (.inr rfl) rfl
      (Sessions.staged_finish (.inl rfl) (h.works hle rfl rfl))
  | rollback =>
    exact h.callInHand false hle rfl (Database.passes_of_eq rfl rfl) (.inr rfl) rfl
      (Sessions.staged_finish (.inr rfl) (h.works hle rfl rfl))

/-! ## §3. Runs. -/

/-- How many customers have a connection in hand. -/
def handsAmong (customers : List Customer) (n : Nat) : Nat :=
  (customers.map fun x => times n x.hand).sum

/-- How many customers have begun a transaction on a connection. -/
def insidesAmong (customers : List Customer) (n : Nat) : Nat :=
  (customers.map fun x => times n x.inside).sum

/-- The law, of all who use a database. -/
def Lawful (s : Desk (Sessions (Watched ρ))) : Prop :=
  Law s.backend (fun n => idleTimes n s.pool + handsAmong s.customers n) (insidesAmong s.customers)

theorem insidesAmong_le (customers : List Customer) (n : Nat) :
    insidesAmong customers n ≤ handsAmong customers n :=
  List.sum_le_sum fun x _ => times_inside_le n x

/-- A list around one of its positions, which may be written. -/
theorem exists_others {l : List Customer} {i : Nat} {x : Customer} (h : l[i]? = some x)
    (x' : Customer) : ∃ others : List Customer, ∀ f : Customer → Nat,
      (l.map f).sum = f x + (others.map f).sum
        ∧ ((l.set i x').map f).sum = f x' + (others.map f).sum := by
  obtain ⟨hi, rfl⟩ := List.getElem?_eq_some_iff.1 h
  refine ⟨l.take i ++ l.drop (i + 1), fun f => ⟨?_, ?_⟩⟩
  · have hsplit : l = l.take i ++ l[i] :: l.drop (i + 1) := by
      rw [← List.drop_eq_getElem_cons hi, List.take_append_drop]
    rw [congrArg (fun l => (l.map f).sum) hsplit]
    simp only [List.map_append, List.map_cons, List.sum_append, List.sum_cons]
    omega
  · rw [List.set_eq_take_append_cons_drop, if_pos hi]
    simp only [List.map_append, List.map_cons, List.sum_append, List.sum_cons]
    omega

/-- The law, told from one customer. -/
theorem lawful_iff_around {s : Desk (Sessions (Watched ρ))} {x : Customer}
    {others : List Customer} (h : ∀ f : Customer → Nat,
      (s.customers.map f).sum = f x + (others.map f).sum) :
    Lawful s ↔ Law s.backend (handsOf s.pool x (handsAmong others))
      (insidesOf x (insidesAmong others)) := by
  have hhands : (fun n => idleTimes n s.pool + handsAmong s.customers n)
      = handsOf s.pool x (handsAmong others) := by
    funext n
    rw [handsOf, handsAmong, h, Nat.add_assoc]
    rfl
  have hinsides : insidesAmong s.customers = insidesOf x (insidesAmong others) := by
    funext n
    exact h _
  rw [Lawful, hhands, hinsides]

theorem lawful_of_play {turn : Turn} {s s' : Desk (Sessions (Watched ρ))}
    (h : turn.play (backend k.watched) database s = some s') (hs : Lawful s) : Lawful s' := by
  rcases Database.deal_of_play h with ⟨x, hhand, hinside, rfl⟩ | ⟨i, x, x', hx, hset, hdeal⟩
  · -- who comes has nothing in hand
    refine hs.pass (fun n => ?_) (fun n => ?_)
    · simp [handsAmong, hhand, Database.times_none]
    · simp [insidesAmong, hinside, Database.times_none]
  · obtain ⟨others, hothers⟩ := exists_others hx x'
    have hbefore := (lawful_iff_around fun f => (hothers f).1).1 hs
    refine (lawful_iff_around fun f => ?_).2 (hbefore.deal (insidesAmong_le others) hdeal)
    rw [hset]
    exact (hothers f).2

theorem lawful_of_playAll {turns : List Turn} {s s' : Desk (Sessions (Watched ρ))}
    (h : Database.playAll (backend k.watched) database turns s = some s') (hs : Lawful s) :
    Lawful s' :=
  keeps_of_foldlM Lawful turns (fun _ _ _ _ hturn => lawful_of_play hturn) h hs

/-- Connections that are opened ahead of use. -/
theorem lawful_preopen (k : Client ρ) (database : String) :
    ∀ (n : Nat) (run : Pool.Run (Sessions (Watched ρ))), Lawful ⟨run.pool, run.backend, []⟩ →
      Lawful ⟨(Pool.Run.preopen (backend k.watched) database n run).2.pool,
        (Pool.Run.preopen (backend k.watched) database n run).2.backend, []⟩ := by
  intro n
  induction n with
  | zero =>
    intro run h
    exact h
  | succ n ih =>
    intro run h
    cases hconnect : (backend k.watched).connect database run.backend with
    | mk answer opened =>
      cases answer with
      | ok m =>
        obtain ⟨hm, hspares, hstaged⟩ :=
          Sessions.staged_connect h.aligned (congrArg Prod.fst hconnect)
        rw [hconnect] at hspares hstaged
        let ready : Pool.Run (Sessions (Watched ρ)) :=
          ⟨run.pool.noteOpened.push ⟨m, run.clock + 1, run.clock + 1⟩, opened, run.clock + 1⟩
        have hready : Lawful ⟨ready.pool, ready.backend, []⟩ := by
          refine h.fresh hm hspares hstaged ?_ (fun n hn => ?_) (Nat.zero_le _) (fun _ => rfl)
          · show idleTimes m ready.pool + 0 = idleTimes m run.pool + 0 + 1
            rw [Database.idleTimes_cons m (p := run.pool) rfl, times_self]
          · show idleTimes n ready.pool + 0 = idleTimes n run.pool + 0
            rw [Database.idleTimes_cons n (p := run.pool) rfl, times_of_ne hn]
        have hnext : Pool.Run.preopen (backend k.watched) database (n + 1) run
            = Pool.Run.preopen (backend k.watched) database n ready := by
          rw [Pool.Run.preopen, hconnect]
          rfl
        rw [hnext]
        exact ih ready hready
      | error e =>
        obtain ⟨hconnections, hsessions⟩ := Sessions.same_of_connect (congrArg Prod.fst hconnect)
        rw [hconnect] at hconnections hsessions
        rw [Pool.Run.preopen, hconnect]
        exact h.of_eq hconnections hsessions

/-- A database that nobody uses yet. -/
theorem lawful_of_start {config : PoolConfig} {server : ρ} {addresses : OrderedMap String}
    {clock : Nat} {events : List Event} {run : Pool.Run (Sessions (Watched ρ))}
    (h : Pool.Run.start (backend k.watched) database config ⟨⟨server, []⟩, [], addresses⟩ clock
      = .ok (events, run)) : Lawful ⟨run.pool, run.backend, []⟩ := by
  have hnew : Lawful ⟨Pool.ofConfig config, (⟨⟨server, []⟩, [], addresses⟩ : Sessions (Watched ρ)),
      []⟩ := ⟨rfl, fun _ => Nat.zero_le _, fun n hn => absurd hn (Nat.lt_irrefl 0)⟩
  have hopened := lawful_preopen k database config.minSize
    ⟨Pool.ofConfig config, ⟨⟨server, []⟩, [], addresses⟩, clock⟩ hnew
  rw [Pool.Run.start] at h
  split at h
  · cases h
  · have hrun := congrArg Prod.snd (Except.ok.inj h)
    rw [hrun] at hopened
    exact hopened

/-! ## §4. Connections that are lent. -/

/-- Nobody but the customer at a position has a connection. -/
def Alone (s : Desk (Sessions (Watched ρ))) (i n : Nat) : Prop :=
  n ∉ s.pool.idle.map (·.connection)
    ∧ ∀ (j : Nat) (x : Customer), s.customers[j]? = some x → x.hand = some n → j = i

theorem Lawful.alone {s : Desk (Sessions (Watched ρ))} (h : Lawful s) {i n : Nat} {x : Customer}
    (hx : s.customers[i]? = some x) (hhand : x.hand = some n) : Alone s i n := by
  obtain ⟨others, hothers⟩ := exists_others hx (.closer .starting)
  obtain ⟨hidle, hnobody, _⟩ := ((lawful_iff_around fun f => (hothers f).1).1 h).inHand
    (insidesAmong_le others) hhand
  refine ⟨fun hmem => ?_, fun j y hy hhand' => ?_⟩
  · exact absurd (List.count_pos_iff.2 hmem) (by rw [← idleTimes, hidle]; exact Nat.lt_irrefl 0)
  · by_contra hne
    -- whoever else had it would be among the others
    have hy' : (s.customers.set i (.closer .starting))[j]? = some y := by
      rw [List.getElem?_set_ne (Ne.symm hne), hy]
    have hmem : times n y.hand ∈ (s.customers.set i (.closer .starting)).map
        fun x => times n x.hand := List.mem_map_of_mem (List.mem_of_getElem? hy')
    have hsome := List.single_le_sum (fun _ _ => Nat.zero_le _) _ hmem
    rw [(hothers _).2, hhand', times_self] at hsome
    have hcloser : times n (Customer.closer .starting).hand = 0 := rfl
    rw [handsAmong] at hnobody
    omega

theorem Lawful.rests {s : Desk (Sessions (Watched ρ))} (h : Lawful s) {i n : Nat} {x : Customer}
    (hx : s.customers[i]? = some x) (hhand : x.hand = some n) (hinside : x.inside = none) :
    s.backend.Staged false n := by
  obtain ⟨others, hothers⟩ := exists_others hx x
  exact ((lawful_iff_around fun f => (hothers f).1).1 h).rests (insidesAmong_le others) hhand
    hinside

/-- **The connections that are lent with a transaction open.** Take any run of a new pool of
connections to a server, whatever the server answers.  The connection that a customer was served is
in nobody else's hand and not idle, it has its own session in its slot, and a transaction is open on
that session exactly if the last statement that was to end one was answered with an error. -/
theorem lent_open_iff (k : Client ρ) (database : String) (config : PoolConfig) (server : ρ)
    (addresses : OrderedMap String) (clock : Nat) (events : List Event)
    (run : Pool.Run (Sessions (Watched ρ)))
    (hstart : Pool.Run.start (backend k.watched) database config ⟨⟨server, []⟩, [], addresses⟩ clock
      = .ok (events, run))
    (turns : List Turn) (s : Desk (Sessions (Watched ρ)))
    (hturns : Database.playAll (backend k.watched) database turns ⟨run.pool, run.backend, []⟩
      = some s)
    (i : Nat) (c : Lent) (errand : Errand)
    (hserved : s.customers[i]? = some (.borrower (.served c) errand)) :
    Alone s i c.connection
      ∧ ∃ connection session, s.backend.connections[c.connection]? = some connection
        ∧ connection.slot = some c.connection
        ∧ s.backend.server.sessions[c.connection]? = some session
        ∧ (session.isOpen = true ↔ session.endFailed = true) := by
  have hlaw : Lawful s := lawful_of_playAll hturns (lawful_of_start hstart)
  obtain ⟨connection, session, hconnection, hsession, hready, hopen⟩ := hlaw.rests hserved rfl rfl
  refine ⟨hlaw.alone hserved rfl, connection, session, hconnection, ?_, hsession, ?_⟩
  · cases hready
    rfl
  · rw [hopen]

/-! ## §5. A commit that fails. -/

/-- The connection that a customer was served for an errand that it has not begun. -/
def servedTo? {σ : Type} (s : Desk σ) (i : Nat) : Option Lent := match s.customers[i]? with
  | some (.borrower (.served c) _) => some c
  | _ => none

theorem exists_of_servedTo? {σ : Type} {s : Desk σ} {i : Nat} {c : Lent}
    (h : servedTo? s i = some c) :
    ∃ errand, s.customers[i]? = some (.borrower (.served c) errand) := by
  rw [servedTo?] at h
  split at h
  · rename_i c' errand hcustomer
    rw [← Option.some.inj h]
    exact ⟨errand, hcustomer⟩
  · cases h

/-- Connections to a server that never commits; none is open yet. -/
def unopened : Sessions (Watched Unit) :=
  ⟨⟨(), []⟩, [], .ofList [("default", "mysql://localhost/cards")]⟩

/-- A pool for one connection. -/
def onePermit : PoolConfig := ⟨0, 1, 5, 60000, 60000, true⟩

/-- A customer is served a new connection, and its transaction is begun and not committed; the
connection goes back.  Another customer comes, and is served. -/
def stranding : List Turn :=
  [.come (.transact (α := Unit) .mysql (.done (.ok ()))), .act 0 1, .act 0 2, .act 0 3, .act 0 4,
    .act 0 5, .serve 0 "", .serve 0 "", .letGo 0, .act 0 6, .act 0 7, .act 0 8,
    .come (.execute "UPDATE STAFF SET MC = ?" [.string "Li"]), .act 1 9, .act 1 10, .act 1 11,
    .act 1 12, .act 1 13]

/-- The second customer is served the connection of the first, and the transaction is open. -/
theorem play_stranding :
    ((Database.playAll (backend Connection.stubborn.watched) "default" stranding
        ⟨Pool.ofConfig onePermit, unopened, []⟩).map fun s =>
      (servedTo? s 1, s.backend.server.sessions.map (·.isOpen)))
    = some (some ⟨0, 5⟩, [true]) := by
  decide +kernel

theorem start_onePermit : Pool.Run.start (backend Connection.stubborn.watched) "default" onePermit
    unopened 0 = .ok ([], ⟨Pool.ofConfig onePermit, unopened, 0⟩) := rfl

/-- **A commit that fails**: the customer after it is lent the connection with the transaction
open. -/
theorem lent_open_stranded : ∃ (run : Pool.Run (Sessions (Watched Unit)))
      (s : Desk (Sessions (Watched Unit))) (errand : Errand) (session : Session),
    Pool.Run.start (backend Connection.stubborn.watched) "default" onePermit unopened 0
        = .ok ([], run)
      ∧ Database.playAll (backend Connection.stubborn.watched) "default" stranding
        ⟨run.pool, run.backend, []⟩ = some s
      ∧ s.customers[1]? = some (.borrower (.served ⟨0, 5⟩) errand)
      ∧ s.backend.server.sessions[0]? = some session ∧ session.isOpen = true := by
  obtain ⟨s, hplay, hview⟩ := Option.map_eq_some_iff.1 play_stranding
  obtain ⟨hserved, hopen⟩ := Prod.mk.inj hview
  obtain ⟨errand, hcustomer⟩ := exists_of_servedTo? hserved
  obtain ⟨session, rest, hsessions, hsession, _⟩ := List.map_eq_cons_iff.1 hopen
  refine ⟨_, s, errand, session, start_onePermit, hplay, hcustomer, ?_, hsession⟩
  rw [hsessions]
  rfl

/-- Nobody else has that connection, and the attempt to end the transaction on it has failed. -/
theorem lent_open_iff_stranding : ∃ s : Desk (Sessions (Watched Unit)),
    Database.playAll (backend Connection.stubborn.watched) "default" stranding
        ⟨Pool.ofConfig onePermit, unopened, []⟩ = some s
      ∧ servedTo? s 1 = some ⟨0, 5⟩ ∧ Alone s 1 0
      ∧ ∃ session, s.backend.server.sessions[0]? = some session ∧ session.isOpen = true
        ∧ session.endFailed = true := by
  obtain ⟨s, hplay, hview⟩ := Option.map_eq_some_iff.1 play_stranding
  obtain ⟨hserved, hopen⟩ := Prod.mk.inj hview
  obtain ⟨errand, hcustomer⟩ := exists_of_servedTo? hserved
  obtain ⟨halone, connection, session, _, _, hsession, hiff⟩ := lent_open_iff
    Connection.stubborn "default" onePermit () unopened.addresses 0 [] _ start_onePermit stranding
    s hplay 1 ⟨0, 5⟩ errand hcustomer
  have hmem : session.isOpen = true := by
    have h : (s.backend.server.sessions.map (·.isOpen))[0]? = some session.isOpen := by
      rw [List.getElem?_map, hsession]
      rfl
    rw [hopen] at h
    exact (Option.some.inj h).symm
  exact ⟨s, hplay, hserved, halone, session, hsession, hmem, hiff.1 hmem⟩

end CardStore.MySql
