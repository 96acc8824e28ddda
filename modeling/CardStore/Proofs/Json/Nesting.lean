/-
  CardStore.Proofs.Json.Nesting
  ─────────────────────────────
  **TREES THAT CAN BE READ.**

  A tree of scanned text is that of a JSON value if nothing in it stops early
  and every string and number of it can be held.  A reader of any value takes
  exactly these trees, as long as their containers do not nest deeper than the
  place that they are read from admits, and settles repeated keys.

      text with n levels left    up to n - 1 containers inside each other
      a value in memory          any number

  Main statements:
    * `Origin.admits_succ_iff` — entering a container takes one level.
    * `container_eq_ok_iff` — when a container is read, whatever it holds.
    * `readJson_eq_ok_iff` — which trees are read, and as which value.
    * `depth_settled_le` — settling repeated keys makes nothing deeper.
    * `skip_eq_ok_iff` — which trees are skipped.
    * `Value.read_eq_ok_iff` — which trees are read as column values.
-/
import CardStore.Proofs.Script
import CardStore.Proofs.Value.Normal

namespace CardStore.Json

/-! ## §1. Depth. -/

mutual

/-- How many containers stand inside each other. -/
def depth : Json → Nat
  | .array items => itemsDepth items + 1
  | .object members => membersDepth members + 1
  | _ => 0

def itemsDepth : List Json → Nat
  | [] => 0
  | j :: js => max (depth j) (itemsDepth js)

def membersDepth : List (String × Json) → Nat
  | [] => 0
  | (_, j) :: es => max (depth j) (membersDepth es)

end

/-- Whether so many containers inside each other can be read. -/
def Origin.Admits : Origin → Nat → Prop
  | .text levels, d => d < levels ∨ d = 0
  | .memory, _ => True

namespace Origin

variable {o : Origin}

theorem admits_zero : o.Admits 0 := by
  cases o with
  | text levels => exact Or.inr rfl
  | memory => trivial

theorem Admits.mono {d e : Nat} (h : o.Admits e) (hle : d ≤ e) : o.Admits d := by
  cases o with
  | text levels =>
    unfold Admits at h ⊢
    omega
  | memory => trivial

theorem admits_max_iff {d e : Nat} : o.Admits (max d e) ↔ o.Admits d ∧ o.Admits e := by
  constructor
  · exact fun h => ⟨h.mono (le_max_left d e), h.mono (le_max_right d e)⟩
  · rintro ⟨hd, he⟩
    rcases max_choice d e with h | h
    · rwa [h]
    · rwa [h]

/-- **Entering a container** takes one level. -/
theorem admits_succ_iff {d : Nat} : o.Admits (d + 1) ↔ ∃ i, o.enter = .ok i ∧ i.Admits d := by
  cases o with
  | memory => exact ⟨fun _ => ⟨.memory, rfl, trivial⟩, fun _ => trivial⟩
  | text levels =>
    show d + 1 < levels ∨ d + 1 = 0 ↔ _
    by_cases hle : levels ≤ 1
    · rw [enter, if_pos hle]
      constructor
      · intro h
        omega
      · rintro ⟨i, hi, -⟩
        cases hi
    · rw [enter, if_neg hle]
      constructor
      · exact fun h => ⟨_, rfl, show d < levels - 1 ∨ d = 0 by omega⟩
      · rintro ⟨i, hi, h⟩
        rw [← Except.ok.inj hi] at h
        change d < levels - 1 ∨ d = 0 at h
        omega

theorem start_admits {d : Nat} (h : d < 128) : start.Admits d := Or.inl h

end Origin

/-! ## §2. Reading the tree of a value. -/

theorem checkStop_eq_ok_iff {stop : Option Stop} {u : Unit} :
    checkStop stop = .ok u ↔ stop = none := by
  cases stop <;> simp [checkStop]

/-- **A container is read** if it may be entered, its contents are read and it is closed. -/
theorem container_eq_ok_iff {α β : Type} {o : Origin} {stop : Option Stop}
    {contents : Origin → Reading α} {f : α → β} {b : β} :
    (do let i ← o.enter; let a ← contents i; checkStop stop; return f a : Reading β) = .ok b
      ↔ ∃ i a, o.enter = .ok i ∧ contents i = .ok a ∧ stop = none ∧ b = f a := by
  constructor
  · intro h
    obtain ⟨i, hi, h⟩ := bind_eq_ok_iff.1 h
    obtain ⟨a, ha, h⟩ := bind_eq_ok_iff.1 h
    obtain ⟨u, hstop, h⟩ := bind_eq_ok_iff.1 h
    exact ⟨i, a, hi, ha, checkStop_eq_ok_iff.1 hstop, (Except.ok.inj h).symm⟩
  · rintro ⟨i, a, hi, ha, rfl, rfl⟩
    exact bind_eq_ok_iff.2 ⟨i, hi, bind_eq_ok_iff.2 ⟨a, ha, rfl⟩⟩

mutual

/-- The tree of a value is read as the value with repeated keys settled. -/
theorem readJson_ofJson (o : Origin) : (j : Json) → o.Admits j.depth →
    readJson o (.ofJson j) = .ok j.settled
  | .null, _ => rfl
  | .bool _, _ => rfl
  | .number _, _ => rfl
  | .string _, _ => rfl
  | .array items, h => by
    obtain ⟨i, hi, hitems⟩ := Origin.admits_succ_iff.1 h
    rw [Node.ofJson, readJson]
    exact container_eq_ok_iff.2 ⟨i, _, hi, readJsonItems_ofItems i items hitems, rfl, rfl⟩
  | .object members, h => by
    obtain ⟨i, hi, hmembers⟩ := Origin.admits_succ_iff.1 h
    rw [Node.ofJson, readJson]
    exact container_eq_ok_iff.2 ⟨i, _, hi, readJsonMembers_ofMembers i [] members hmembers, rfl, rfl⟩

theorem readJsonItems_ofItems (o : Origin) : (js : List Json) → o.Admits (itemsDepth js) →
    readJsonItems o (Node.ofItems js) = .ok (itemsSettled js)
  | [], _ => rfl
  | j :: js, h => by
    obtain ⟨hj, hjs⟩ := Origin.admits_max_iff.1 h
    rw [Node.ofItems, readJsonItems]
    exact bind_eq_ok_iff.2
      ⟨_, readJson_ofJson o j hj, bind_eq_ok_iff.2 ⟨_, readJsonItems_ofItems o js hjs, rfl⟩⟩

theorem readJsonMembers_ofMembers (o : Origin) (done : List (String × Json)) :
    (es : List (String × Json)) → o.Admits (membersDepth es) →
    readJsonMembers o done (Node.ofMembers es) = .ok (membersSettled done es)
  | [], _ => rfl
  | (k, j) :: es, h => by
    obtain ⟨hj, hes⟩ := Origin.admits_max_iff.1 h
    rw [Node.ofMembers, readJsonMembers, membersSettled]
    exact bind_eq_ok_iff.2
      ⟨k, rfl, bind_eq_ok_iff.2 ⟨_, readJson_ofJson o j hj, readJsonMembers_ofMembers o _ es hes⟩⟩

end

theorem ofText_eq_ok_iff {α : Type} {x : Except Fault α} {a : α} :
    Reading.ofText x = .ok a ↔ x = .ok a := by
  cases x <;> simp [Reading.ofText]

/-- A whole text is read as its value is, if nothing stands behind it. -/
theorem readText_eq_ok_iff {α : Type} {read : Origin → Node → Reading α} {text : String} {a : α} :
    readText read text = .ok a
      ↔ read .start (scan text).node = .ok a ∧ (scan text).ended = true := by
  unfold readText
  dsimp only
  constructor
  · intro h
    obtain ⟨b, hb, h⟩ := bind_eq_ok_iff.1 h
    split at h
    · rename_i hended
      cases h
      exact ⟨hb, hended⟩
    · cases h
  · rintro ⟨ha, hended⟩
    exact bind_eq_ok_iff.2 ⟨a, ha, if_pos hended⟩

mutual

/-- What is read is the tree of a value. -/
theorem exists_of_readJson (o : Origin) : (n : Node) → {j : Json} → readJson o n = .ok j →
    ∃ i : Json, n = .ofJson i ∧ o.Admits i.depth ∧ j = i.settled
  | .null, _, h => ⟨.null, rfl, Origin.admits_zero, (Except.ok.inj h).symm⟩
  | .bool b, _, h => ⟨.bool b, rfl, Origin.admits_zero, (Except.ok.inj h).symm⟩
  | .number (some n), _, h => ⟨.number n, rfl, Origin.admits_zero, (Except.ok.inj h).symm⟩
  | .number none, _, h => by cases h
  | .string (.ok s), _, h => ⟨.string s, rfl, Origin.admits_zero, (Except.ok.inj h).symm⟩
  | .string (.error f), _, h => by cases h
  | .array items stop, j, h => by
    rw [readJson] at h
    obtain ⟨i, js, hi, hjs, rfl, rfl⟩ := container_eq_ok_iff.1 h
    obtain ⟨is, rfl, hdepth, rfl⟩ := exists_of_readJsonItems i items hjs
    exact ⟨.array is, rfl, Origin.admits_succ_iff.2 ⟨i, hi, hdepth⟩, rfl⟩
  | .object members stop, j, h => by
    rw [readJson] at h
    obtain ⟨i, es, hi, hes, rfl, rfl⟩ := container_eq_ok_iff.1 h
    obtain ⟨is, rfl, hdepth, rfl⟩ := exists_of_readJsonMembers i members [] hes
    exact ⟨.object is, rfl, Origin.admits_succ_iff.2 ⟨i, hi, hdepth⟩, rfl⟩
  | .stop s, _, h => by cases h

theorem exists_of_readJsonItems (o : Origin) : (ns : List Node) → {js : List Json} →
    readJsonItems o ns = .ok js →
    ∃ is : List Json, ns = Node.ofItems is ∧ o.Admits (itemsDepth is) ∧ js = itemsSettled is
  | [], _, h => ⟨[], rfl, Origin.admits_zero, (Except.ok.inj h).symm⟩
  | n :: ns, js, h => by
    rw [readJsonItems] at h
    obtain ⟨j, hj, h⟩ := bind_eq_ok_iff.1 h
    obtain ⟨js', hjs, h⟩ := bind_eq_ok_iff.1 h
    obtain ⟨i, rfl, hi, rfl⟩ := exists_of_readJson o n hj
    obtain ⟨is, rfl, his, rfl⟩ := exists_of_readJsonItems o ns hjs
    exact ⟨i :: is, rfl, Origin.admits_max_iff.2 ⟨hi, his⟩, (Except.ok.inj h).symm⟩

theorem exists_of_readJsonMembers (o : Origin) : (ms : List (Except Fault String × Node)) →
    (done : List (String × Json)) → {es : List (String × Json)} →
    readJsonMembers o done ms = .ok es → ∃ is : List (String × Json), ms = Node.ofMembers is
      ∧ o.Admits (membersDepth is) ∧ es = membersSettled done is
  | [], done, _, h => ⟨[], rfl, Origin.admits_zero, (Except.ok.inj h).symm⟩
  | (key, n) :: ms, done, es, h => by
    rw [readJsonMembers] at h
    obtain ⟨k, hk, h⟩ := bind_eq_ok_iff.1 h
    obtain ⟨j, hj, h⟩ := bind_eq_ok_iff.1 h
    obtain rfl := ofText_eq_ok_iff.1 hk
    obtain ⟨i, rfl, hi, rfl⟩ := exists_of_readJson o n hj
    obtain ⟨is, rfl, his, rfl⟩ := exists_of_readJsonMembers o ms _ h
    exact ⟨(k, i) :: is, rfl, Origin.admits_max_iff.2 ⟨hi, his⟩, rfl⟩

end

/-- **Which trees are read**, and as which value. -/
theorem readJson_eq_ok_iff {o : Origin} {n : Node} {j : Json} :
    readJson o n = .ok j ↔ ∃ i : Json, n = .ofJson i ∧ o.Admits i.depth ∧ j = i.settled := by
  constructor
  · exact exists_of_readJson o n
  · rintro ⟨i, rfl, hdepth, rfl⟩
    exact readJson_ofJson o i hdepth

/-! ## §3. Settled values. -/

theorem membersDepth_set_le (k : String) (j : Json) (es : List (String × Json)) :
    membersDepth (Pairs.set k j es) ≤ max (membersDepth es) j.depth := by
  induction es with
  | nil => exact (max_comm j.depth 0).le
  | cons e es ih =>
    obtain ⟨l, i⟩ := e
    rw [Pairs.set]
    split
    · simp only [membersDepth]
      omega
    · simp only [membersDepth]
      omega

mutual

/-- Settling repeated keys makes nothing deeper. -/
theorem depth_settled_le : (j : Json) → j.settled.depth ≤ j.depth
  | .null => le_rfl
  | .bool _ => le_rfl
  | .number _ => le_rfl
  | .string _ => le_rfl
  | .array items => Nat.succ_le_succ (itemsDepth_settled_le items)
  | .object members => by
    have h := membersDepth_settled_le members []
    rw [settled, depth, depth]
    simp only [membersDepth] at h
    omega

theorem itemsDepth_settled_le : (js : List Json) → itemsDepth (itemsSettled js) ≤ itemsDepth js
  | [] => le_rfl
  | j :: js => max_le_max (depth_settled_le j) (itemsDepth_settled_le js)

theorem membersDepth_settled_le : (es done : List (String × Json)) →
    membersDepth (membersSettled done es) ≤ max (membersDepth done) (membersDepth es)
  | [], done => le_max_left _ _
  | (k, j) :: es, done => by
    have hes := membersDepth_settled_le es (Pairs.set k j.settled done)
    have hset := membersDepth_set_le k j.settled done
    have hj := depth_settled_le j
    rw [membersSettled, membersDepth]
    omega

end

/-! ## §4. Trees of well-formed texts. -/

namespace Node

mutual

/-- Whether nothing stops early. -/
def WellFormed : Node → Prop
  | .array items ending => ItemsWellFormed items ∧ ending = none
  | .object members ending => MembersWellFormed members ∧ ending = none
  | .stop _ => False
  | _ => True

def ItemsWellFormed : List Node → Prop
  | [] => True
  | n :: ns => WellFormed n ∧ ItemsWellFormed ns

def MembersWellFormed : List (Except Fault String × Node) → Prop
  | [] => True
  | (_, n) :: ms => WellFormed n ∧ MembersWellFormed ms

end

mutual

/-- How many containers stand inside each other. -/
def depth : Node → Nat
  | .array items _ => itemsDepth items + 1
  | .object members _ => membersDepth members + 1
  | _ => 0

def itemsDepth : List Node → Nat
  | [] => 0
  | n :: ns => max (depth n) (itemsDepth ns)

def membersDepth : List (Except Fault String × Node) → Nat
  | [] => 0
  | (_, n) :: ms => max (depth n) (membersDepth ms)

end

mutual

theorem depth_ofJson : (j : Json) → (Node.ofJson j).depth = j.depth
  | .null => rfl
  | .bool _ => rfl
  | .number _ => rfl
  | .string _ => rfl
  | .array items => congrArg Nat.succ (itemsDepth_ofItems items)
  | .object members => congrArg Nat.succ (membersDepth_ofMembers members)

theorem itemsDepth_ofItems : (js : List Json) → itemsDepth (ofItems js) = Json.itemsDepth js
  | [] => rfl
  | j :: js => congrArg₂ max (depth_ofJson j) (itemsDepth_ofItems js)

theorem membersDepth_ofMembers : (es : List (String × Json)) →
    membersDepth (ofMembers es) = Json.membersDepth es
  | [] => rfl
  | (_, j) :: es => congrArg₂ max (depth_ofJson j) (membersDepth_ofMembers es)

end

mutual

theorem wellFormed_ofJson : (j : Json) → (Node.ofJson j).WellFormed
  | .null => trivial
  | .bool _ => trivial
  | .number _ => trivial
  | .string _ => trivial
  | .array items => ⟨itemsWellFormed_ofItems items, rfl⟩
  | .object members => ⟨membersWellFormed_ofMembers members, rfl⟩

theorem itemsWellFormed_ofItems : (js : List Json) → ItemsWellFormed (ofItems js)
  | [] => trivial
  | j :: js => ⟨wellFormed_ofJson j, itemsWellFormed_ofItems js⟩

theorem membersWellFormed_ofMembers : (es : List (String × Json)) →
    MembersWellFormed (ofMembers es)
  | [] => trivial
  | (_, j) :: es => ⟨wellFormed_ofJson j, membersWellFormed_ofMembers es⟩

end

end Node

/-- One thing is skipped behind another. -/
theorem skipped_bind_iff {x y : Except Fault Unit} :
    (x >>= fun _ => y) = .ok () ↔ x = .ok () ∧ y = .ok () := by
  rw [bind_eq_ok_iff]
  exact ⟨fun ⟨_, hx, hy⟩ => ⟨hx, hy⟩, fun ⟨hx, hy⟩ => ⟨(), hx, hy⟩⟩

theorem skipStop_eq_ok_iff {stop : Option Stop} : skipStop stop = .ok () ↔ stop = none := by
  cases stop <;> simp [skipStop]

mutual

/-- **What is skipped** is anything well-formed. -/
theorem skip_eq_ok_iff : (n : Node) → (skip n = .ok () ↔ n.WellFormed)
  | .null => ⟨fun _ => trivial, fun _ => rfl⟩
  | .bool _ => ⟨fun _ => trivial, fun _ => rfl⟩
  | .number _ => ⟨fun _ => trivial, fun _ => rfl⟩
  | .string _ => ⟨fun _ => trivial, fun _ => rfl⟩
  | .array items stop => by
    rw [skip, skipped_bind_iff, skipItems_eq_ok_iff items, skipStop_eq_ok_iff]
    exact Iff.rfl
  | .object members stop => by
    rw [skip, skipped_bind_iff, skipMembers_eq_ok_iff members, skipStop_eq_ok_iff]
    exact Iff.rfl
  | .stop _ => ⟨nofun, False.elim⟩

theorem skipItems_eq_ok_iff : (ns : List Node) →
    (skipItems ns = .ok () ↔ Node.ItemsWellFormed ns)
  | [] => ⟨fun _ => trivial, fun _ => rfl⟩
  | n :: ns => by
    rw [skipItems, skipped_bind_iff, skip_eq_ok_iff n, skipItems_eq_ok_iff ns]
    exact Iff.rfl

theorem skipMembers_eq_ok_iff : (ms : List (Except Fault String × Node)) →
    (skipMembers ms = .ok () ↔ Node.MembersWellFormed ms)
  | [] => ⟨fun _ => trivial, fun _ => rfl⟩
  | (_, n) :: ms => by
    rw [skipMembers, skipped_bind_iff, skip_eq_ok_iff n, skipMembers_eq_ok_iff ms]
    exact Iff.rfl

end

end CardStore.Json

namespace CardStore.Value

open Json (Origin Node)

/-! ## §5. Column values. -/

mutual

theorem ofJson_settled : (j : Json) → ofJson j.settled = ofJson j
  | .null => rfl
  | .bool _ => rfl
  | .number _ => rfl
  | .string _ => rfl
  | .array items => congrArg array (itemsOfJson_settled items)
  | .object members =>
    ofJson_document (d := .ofJson (.object members)) rfl

theorem itemsOfJson_settled : (js : List Json) →
    itemsOfJson (Json.itemsSettled js) = itemsOfJson js
  | [] => rfl
  | j :: js => congrArg₂ List.cons (ofJson_settled j) (itemsOfJson_settled js)

end

mutual

/-- The JSON form of a value that was taken from JSON is no deeper. -/
theorem depth_toJson_ofJson_le : (j : Json) → (toJson (ofJson j)).depth ≤ j.depth
  | .null => le_rfl
  | .bool _ => le_rfl
  | .number (.int n hn) => by
    by_cases h : n < 2 ^ 63
    · rw [ofJson, toJson_ofNumber_of_lt h]
    · obtain ⟨hfinite, hjson⟩ := exists_toJson_ofNumber_of_le hn (not_lt.1 h)
      rw [ofJson, hjson]
      exact le_rfl
  | .number (.float x hx) => by
    show (toJson (.float x)).depth ≤ 0
    rw [toJson_float hx]
    exact le_rfl
  | .string _ => le_rfl
  | .array items => Nat.succ_le_succ (itemsDepth_toJson_ofJson_le items)
  | .object members => Json.depth_settled_le (.object members)

theorem itemsDepth_toJson_ofJson_le : (js : List Json) →
    Json.itemsDepth (itemsToJson (itemsOfJson js)) ≤ Json.itemsDepth js
  | [] => le_rfl
  | j :: js => max_le_max (depth_toJson_ofJson_le j) (itemsDepth_toJson_ofJson_le js)

end

/-- **Which trees are read as column values**, and as which. -/
theorem read_eq_ok_iff {o : Origin} {n : Node} {v : Value} :
    read o n = .ok v ↔ ∃ j : Json, n = .ofJson j ∧ o.Admits j.depth ∧ v = ofJson j := by
  constructor
  · intro h
    cases hread : Json.readJson o n with
    | error e =>
      rw [read, hread] at h
      cases h
    | ok i =>
      rw [read, hread] at h
      obtain ⟨j, hn, hdepth, rfl⟩ := Json.readJson_eq_ok_iff.1 hread
      exact ⟨j, hn, hdepth, (ofJson_settled j ▸ Except.ok.inj h).symm⟩
  · rintro ⟨j, rfl, hdepth, rfl⟩
    rw [read, Json.readJson_ofJson o j hdepth]
    exact congrArg Except.ok (ofJson_settled j)

end CardStore.Value
