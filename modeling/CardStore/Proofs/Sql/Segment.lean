/-
  CardStore.Proofs.Sql.Segment
  ────────────────────────────
  **RENDERING SEGMENT BY SEGMENT.**

  Quotes cut a text into segments, which stand outside and inside of literals
  by turns.  A renderer copies the quotes and what stands inside.  In the
  segments outside it puts the mark of its position in place of every bind
  slot, and the clock of the backend in place of every canonical one,
  whatever its letter case; nothing that it looks for reaches over a quote.

      canonical   A=? AND B='why?' AND C<sysdate() AND D=?
      segments    A=? AND B=   why?    AND C<sysdate() AND D=?
      Oracle      A=:1 AND B='why?' AND C<SYSDATE AND D=:2

  Main statements:
    * `Dialect.renderFrom_append_quote` — a quote divides rendering in two.
    * `Dialect.renderFrom_outside` — a segment outside is rewritten character by character.
    * `Dialect.toList_render` — a text is rendered segment by segment.
    * `Segment.rewritten_mysql` — on MySQL only the letters of clocks change.
-/
import CardStore.Proofs.Sql.Render
import CardStore.Proofs.Text
import CardStore.Text.Join

namespace CardStore.Sql

/-! ## §1. The clock in a text. -/

/-- The canonical clock stands at a position, in any letter case. -/
def ClockAt (cs : List Char) (i : Nat) : Prop :=
  ((cs.drop i).take canonicalNow.length).map Char.toLower = canonicalNow.toList.map Char.toLower

instance (cs : List Char) (i : Nat) : Decidable (ClockAt cs i) :=
  inferInstanceAs (Decidable (_ = _))

/-- A position is behind the front of a clock, and in it. -/
def InClock (cs : List Char) (i : Nat) : Prop :=
  ∃ j < i, i < j + canonicalNow.length ∧ ClockAt cs j

instance (cs : List Char) (i : Nat) : Decidable (InClock cs i) :=
  inferInstanceAs (Decidable (∃ j < i, i < j + canonicalNow.length ∧ ClockAt cs j))

theorem length_canonicalNow : canonicalNow.length = 9 := by decide

theorem clockAt_zero_iff {cs : List Char} :
    ClockAt cs 0 ↔ (Text.dropIgnoreCase? canonicalNow.toList cs).isSome = true := by
  rw [Text.isSome_dropIgnoreCase?_iff, String.length_toList]
  rfl

theorem clockAt_add {cs : List Char} {n i : Nat} :
    ClockAt cs (n + i) ↔ ClockAt (cs.drop n) i := by
  rw [ClockAt, ClockAt, List.drop_drop]

theorem ClockAt.getElem? {cs : List Char} {i k : Nat} (h : ClockAt cs i) (hk : k < 9) :
    (cs.map Char.toLower)[i + k]? = ("sysdate()".toList)[k]? := by
  have htarget : canonicalNow.toList.map Char.toLower = "sysdate()".toList := by decide
  have hk' : k < canonicalNow.length := by rw [length_canonicalNow]; exact hk
  rw [← htarget, ← h, List.map_take, List.map_drop, List.getElem?_take, if_pos hk',
    List.getElem?_drop]

theorem ClockAt.length_le {cs : List Char} (h : ClockAt cs 0) : 9 ≤ cs.length := by
  have hlast := h.getElem? (k := 8) (by omega)
  by_contra hshort
  rw [Nat.zero_add, List.getElem?_eq_none (by rw [List.length_map]; omega)] at hlast
  exact absurd hlast (by decide)

/-- What is behind a clock is shorter. -/
theorem ClockAt.length_drop_lt {cs : List Char} (h : ClockAt cs 0) :
    (cs.drop 9).length < cs.length := by
  have hlong := h.length_le
  rw [List.length_drop]
  omega

theorem not_inClock_zero (cs : List Char) : ¬ InClock cs 0 := by
  rintro ⟨j, hj, _⟩
  omega

theorem ClockAt.inClock {cs : List Char} (h : ClockAt cs 0) {i : Nat} (hi : 0 < i) (hi' : i < 9) :
    InClock cs i :=
  ⟨0, hi, by rw [length_canonicalNow]; omega, h⟩

/-- Clocks do not overlap: of the characters of one, only the third could begin another, and what is
behind it goes on in another way. -/
theorem ClockAt.not_clockAt {cs : List Char} (h : ClockAt cs 0) {j : Nat} (hj : 0 < j)
    (hj' : j < 9) : ¬ ClockAt cs j := by
  intro hother
  have hclash : ∀ j < 9, 0 < j → ∃ k < 9, j + k < 9
      ∧ ("sysdate()".toList)[k]? ≠ ("sysdate()".toList)[j + k]? := by decide
  obtain ⟨k, hk, hjk, hne⟩ := hclash j hj' hj
  have hfirst := h.getElem? (k := j + k) hjk
  rw [Nat.zero_add, hother.getElem? hk] at hfirst
  exact hne hfirst

/-- The first characters of a text that begins with a clock. -/
theorem ClockAt.mem_take {cs : List Char} (h : ClockAt cs 0) {c : Char} (hc : c ∈ cs.take 9) :
    c.toLower ∈ "sysdate()".toList := by
  have hchars : (cs.take 9).map Char.toLower = "sysdate()".toList := h
  rw [← hchars]
  exact List.mem_map_of_mem hc

theorem ClockAt.not_mem_take {cs : List Char} (h : ClockAt cs 0) {c : Char}
    (hc : c.toLower ∉ "sysdate()".toList) : c ∉ cs.take 9 := fun hmem => hc (h.mem_take hmem)

/-- A clock holds no quote, so that none is added by what stands behind one. -/
theorem clockAt_append_quote {cs : List Char} (rest : List Char) :
    ClockAt (cs ++ quote :: rest) 0 ↔ ClockAt cs 0 := by
  have hquote : quote.toLower ∉ "sysdate()".toList := by decide
  constructor
  · intro h
    have hlong : 9 ≤ cs.length := by
      by_contra hshort
      apply h.not_mem_take hquote
      rw [List.take_append, List.mem_append]
      right
      obtain ⟨m, hm⟩ : ∃ m, 9 - cs.length = m + 1 := ⟨9 - cs.length - 1, by omega⟩
      rw [hm, List.take_succ_cons]
      exact List.mem_cons_self
    have htake : (cs ++ quote :: rest).take 9 = cs.take 9 :=
      List.take_append_of_le_length hlong
    show (cs.take 9).map Char.toLower = _
    rw [← htake]
    exact h
  · intro h
    have htake : (cs ++ quote :: rest).take 9 = cs.take 9 :=
      List.take_append_of_le_length h.length_le
    show ((cs ++ quote :: rest).take 9).map Char.toLower = _
    rw [htake]
    exact h

/-! ## §2. Rendering up to a quote. -/

/-- Whether the text behind some characters is in a literal, as quotes are counted. -/
def insideBehind : Bool → List Char → Bool
  | inside, [] => inside
  | inside, c :: cs => insideBehind (if c = quote then !inside else inside) cs

/-- The number of bind slots, as quotes are counted. -/
def slotsOutside : Bool → List Char → Nat
  | _, [] => 0
  | inside, c :: cs => (if inside = false ∧ c = slot then 1 else 0)
    + slotsOutside (if c = quote then !inside else inside) cs

theorem insideBehind_eq_xor (inside : Bool) (cs : List Char) :
    insideBehind inside cs = (inside ^^ decide (cs.count quote % 2 = 1)) := by
  induction cs generalizing inside with
  | nil => simp [insideBehind]
  | cons c cs ih =>
    rw [insideBehind, ih]
    by_cases hc : c = quote
    · rw [if_pos hc, hc, List.count_cons_self]
      rcases Nat.mod_two_eq_zero_or_one (cs.count quote) with h | h
      · have hsucc : (cs.count quote + 1) % 2 = 1 := by omega
        cases inside <;> simp [h, hsucc]
      · have hsucc : (cs.count quote + 1) % 2 = 0 := by omega
        cases inside <;> simp [h, hsucc]
    · rw [if_neg hc, List.count_cons_of_ne hc]

theorem insideBehind_of_not_mem {cs : List Char} (h : quote ∉ cs) (inside : Bool) :
    insideBehind inside cs = inside := by
  rw [insideBehind_eq_xor, List.count_eq_zero_of_not_mem h]
  simp

theorem slotsOutside_of_not_mem {cs : List Char} (h : quote ∉ cs) :
    slotsOutside false cs = cs.count slot := by
  induction cs with
  | nil => rfl
  | cons c cs ih =>
    rw [List.mem_cons, not_or] at h
    rw [slotsOutside, if_neg (Ne.symm h.1), ih h.2, List.count_cons]
    by_cases hc : c = slot
    · simp [hc, Nat.add_comm]
    · simp [hc]

theorem slotsOutside_of_not_mem_inside {cs : List Char} (h : quote ∉ cs) :
    slotsOutside true cs = 0 := by
  induction cs with
  | nil => rfl
  | cons c cs ih =>
    rw [List.mem_cons, not_or] at h
    rw [slotsOutside, if_neg (Ne.symm h.1), ih h.2]
    simp

/-- A clock is outside of literals from its front to its end, and has no slots in it. -/
theorem ClockAt.behind {cs : List Char} (h : ClockAt cs 0) :
    insideBehind false cs = insideBehind false (cs.drop 9)
      ∧ slotsOutside false cs = slotsOutside false (cs.drop 9) := by
  have hquote : quote ∉ cs.take 9 := h.not_mem_take (by decide)
  have hslot : slot ∉ cs.take 9 := h.not_mem_take (by decide)
  have happend : ∀ (ds es : List Char), quote ∉ ds → slot ∉ ds →
      insideBehind false (ds ++ es) = insideBehind false es
        ∧ slotsOutside false (ds ++ es) = slotsOutside false es := by
    intro ds es hq hs
    induction ds with
    | nil => exact ⟨rfl, rfl⟩
    | cons c ds ih =>
      rw [List.mem_cons, not_or] at hq hs
      obtain ⟨hinside, hslots⟩ := ih hq.2 hs.2
      rw [List.cons_append, insideBehind, slotsOutside, if_neg (Ne.symm hq.1), hinside, hslots]
      simp [Ne.symm hs.1]
  have hsplit := happend (cs.take 9) (cs.drop 9) hquote hslot
  rwa [List.take_append_drop] at hsplit

namespace Dialect

theorem renderFrom_skip (d : Dialect) (inside : Bool) (n k : Nat) (cs : List Char) :
    d.renderFrom inside n k cs = d.renderFrom inside n 0 (cs.drop k) := by
  induction k generalizing cs with
  | zero => rfl
  | succ k ih =>
    cases cs with
    | nil => rfl
    | cons c cs => exact ih cs

/-- A clock is rendered at once. -/
theorem renderFrom_of_clockAt (d : Dialect) (n : Nat) {cs : List Char} (h : ClockAt cs 0) :
    d.renderFrom false n 0 cs = d.now.toList ++ d.renderFrom false n 0 (cs.drop 9) := by
  have hlong := h.length_le
  cases cs with
  | nil => simp at hlong
  | cons c cs =>
    have hmem : c ∈ (c :: cs).take 9 := by simp
    have hquote : c ≠ quote := fun hc => h.not_mem_take (c := quote) (by decide) (hc ▸ hmem)
    have hslot : c ≠ slot := fun hc => h.not_mem_take (c := slot) (by decide) (hc ▸ hmem)
    rw [renderFrom, if_neg hquote, if_neg Bool.false_ne_true, if_neg hslot,
      if_pos (clockAt_zero_iff.1 h), renderFrom_skip]
    rfl

theorem renderFrom_of_not_clockAt (d : Dialect) (n : Nat) {c : Char} {cs : List Char}
    (hquote : c ≠ quote) (h : ¬ ClockAt (c :: cs) 0) :
    d.renderFrom false n 0 (c :: cs)
      = (if c = slot then d.mark (n + 1) else [c])
        ++ d.renderFrom false (n + if c = slot then 1 else 0) 0 cs := by
  rw [renderFrom, if_neg hquote, if_neg Bool.false_ne_true]
  by_cases hslot : c = slot
  · rw [if_pos hslot, if_pos hslot, if_pos hslot]
    rfl
  · rw [if_neg hslot, if_neg hslot, if_neg hslot, if_neg fun hd => h (clockAt_zero_iff.2 hd)]
    rfl

/-- **A quote divides rendering in two**: what stands in front of it is rendered as if nothing
followed, and what follows as if it stood alone behind so many slots.  The induction passes from one
clock to what is behind it. -/
theorem renderFrom_append_quote (d : Dialect) (rest : List Char) :
    ∀ (cs : List Char) (inside : Bool) (n : Nat),
      d.renderFrom inside n 0 (cs ++ quote :: rest)
        = d.renderFrom inside n 0 cs ++ quote ::
          d.renderFrom (!insideBehind inside cs) (n + slotsOutside inside cs) 0 rest
  | [], inside, n => by
    show d.renderFrom inside n 0 (quote :: rest) = quote :: d.renderFrom (!inside) n 0 rest
    rw [renderFrom, if_pos rfl]
  | c :: cs, inside, n => by
    by_cases hquote : c = quote
    · subst hquote
      rw [List.cons_append, renderFrom, if_pos rfl,
        renderFrom_append_quote d rest cs (!inside) n, renderFrom, if_pos rfl, insideBehind,
        slotsOutside, if_pos rfl]
      have hslot : quote ≠ slot := by decide
      simp [hslot]
    · cases inside with
      | true =>
        rw [List.cons_append, renderFrom, if_neg hquote, if_pos rfl,
          renderFrom_append_quote d rest cs true n, renderFrom, if_neg hquote, if_pos rfl,
          insideBehind, slotsOutside, if_neg hquote]
        simp
      | false =>
        by_cases hclock : ClockAt (c :: cs) 0
        · have hdrop : (c :: cs ++ quote :: rest).drop 9 = (c :: cs).drop 9 ++ quote :: rest :=
            List.drop_append_of_le_length hclock.length_le
          have hshorter := hclock.length_drop_lt
          rw [renderFrom_of_clockAt d n ((clockAt_append_quote rest).2 hclock), hdrop,
            renderFrom_append_quote d rest ((c :: cs).drop 9) false n,
            renderFrom_of_clockAt d n hclock, hclock.behind.1, hclock.behind.2,
            List.append_assoc]
        · have hclock' : ¬ ClockAt (c :: (cs ++ quote :: rest)) 0 :=
            fun h => hclock ((clockAt_append_quote rest).1 h)
          rw [List.cons_append, renderFrom_of_not_clockAt d n hquote hclock',
            renderFrom_append_quote d rest cs false _,
            renderFrom_of_not_clockAt d n hquote hclock, insideBehind, slotsOutside,
            if_neg hquote, List.append_assoc, Nat.add_assoc]
          simp
termination_by cs => cs.length

/-- Rendering inside of a literal changes nothing. -/
theorem renderFrom_inside_of_not_mem (d : Dialect) (n : Nat) {cs : List Char} (h : quote ∉ cs) :
    d.renderFrom true n 0 cs = cs := by
  induction cs with
  | nil => rfl
  | cons c cs ih =>
    rw [List.mem_cons, not_or] at h
    rw [renderFrom_inside d n (Ne.symm h.1), ih h.2]

end Dialect

/-! ## §3. Segments. -/

namespace Segment

/-- **What a character outside of literals becomes**, where `before` slots stand in the segments in
front: the front of a clock becomes the clock of the backend and the rest of it nothing, a slot
becomes the mark of its position, and all else stays. -/
def image (mark : Nat → List Char) (now : List Char) (before : Nat) (cs : List Char) (i : Nat) :
    List Char :=
  if ClockAt cs i then now
  else if InClock cs i then []
  else if cs[i]? = some slot then mark (before + (cs.take (i + 1)).count slot)
  else cs[i]?.toList

/-- What a segment outside of literals becomes, character by character. -/
def rewritten (mark : Nat → List Char) (now : List Char) (before : Nat) (cs : List Char) :
    List Char := (List.range cs.length).flatMap (image mark now before cs)

/-- A segment is gone through from its front: a clock at a time, or else a character. -/
theorem clock_or_char {P : List Char → Prop} (nil : P [])
    (clock : ∀ cs, ClockAt cs 0 → P (cs.drop 9) → P cs)
    (char : ∀ c cs, ¬ ClockAt (c :: cs) 0 → P cs → P (c :: cs)) : ∀ cs, P cs
  | [] => nil
  | c :: cs => by
    by_cases h : ClockAt (c :: cs) 0
    · have hshorter := h.length_drop_lt
      exact clock _ h (clock_or_char nil clock char ((c :: cs).drop 9))
    · exact char c cs h (clock_or_char nil clock char cs)
termination_by cs => cs.length

theorem inClock_add {cs : List Char} (h : ClockAt cs 0) {i : Nat} :
    InClock cs (9 + i) ↔ InClock (cs.drop 9) i := by
  rw [InClock, InClock, length_canonicalNow]
  constructor
  -- a clock that ends behind the first one begins behind it
  · rintro ⟨j, hj, hend, hclock⟩
    have hbehind : 9 ≤ j := by
      by_contra hlt
      exact h.not_clockAt (by omega) (by omega) hclock
    obtain ⟨k, rfl⟩ := Nat.exists_eq_add_of_le hbehind
    exact ⟨k, by omega, by omega, clockAt_add.1 hclock⟩
  · rintro ⟨j, hj, hend, hclock⟩
    exact ⟨9 + j, by omega, by omega, clockAt_add.2 hclock⟩

theorem inClock_succ {c : Char} {cs : List Char} (h : ¬ ClockAt (c :: cs) 0) {i : Nat} :
    InClock (c :: cs) (i + 1) ↔ InClock cs i := by
  rw [InClock, InClock]
  constructor
  · rintro ⟨j, hj, hend, hclock⟩
    cases j with
    | zero => exact absurd hclock h
    | succ j => exact ⟨j, by omega, by omega, hclock⟩
  · rintro ⟨j, hj, hend, hclock⟩
    exact ⟨j + 1, by omega, by omega, hclock⟩

variable (mark : Nat → List Char) (now : List Char) (before : Nat)

/-- A segment that begins with a clock. -/
theorem rewritten_of_clockAt {cs : List Char} (h : ClockAt cs 0) :
    rewritten mark now before cs = now ++ rewritten mark now before (cs.drop 9) := by
  have hlong := h.length_le
  obtain ⟨m, hm⟩ := Nat.exists_eq_add_of_le hlong
  have hdrop : (cs.drop 9).length = m := by rw [List.length_drop]; omega
  have hslot : (cs.take 9).count slot = 0 :=
    List.count_eq_zero_of_not_mem (h.not_mem_take (by decide))
  -- the characters behind the front of the clock become nothing
  have hclock : (List.range 9).flatMap (image mark now before cs) = now := by
    have hfront : image mark now before cs 0 = now := if_pos h
    have hrest : ∀ i ∈ List.range 8, image mark now before cs (i + 1) = [] := by
      intro i hi
      have hi := List.mem_range.1 hi
      rw [image, if_neg (h.not_clockAt (by omega) (by omega)),
        if_pos (h.inClock (by omega) (by omega))]
    rw [List.range_succ_eq_map, List.flatMap_cons, hfront, List.flatMap_map,
      List.flatMap_eq_nil_iff.2 hrest, List.append_nil]
  have hbehind : ∀ i, image mark now before cs (9 + i) = image mark now before (cs.drop 9) i := by
    intro i
    have htake : (cs.take (9 + i + 1)).count slot = ((cs.drop 9).take (i + 1)).count slot := by
      rw [Nat.add_assoc, List.take_add, List.count_append, hslot, Nat.zero_add]
    simp only [image, clockAt_add, inClock_add h, htake, List.getElem?_drop]
  rw [rewritten, hm, List.range_add, List.flatMap_append, hclock, List.flatMap_map, rewritten,
    hdrop]
  simp only [hbehind]

/-- A segment that begins with another character. -/
theorem rewritten_of_not_clockAt {c : Char} {cs : List Char} (h : ¬ ClockAt (c :: cs) 0) :
    rewritten mark now before (c :: cs)
      = (if c = slot then mark (before + 1) else [c])
        ++ rewritten mark now (before + if c = slot then 1 else 0) cs := by
  have hfront : image mark now before (c :: cs) 0
      = if c = slot then mark (before + 1) else [c] := by
    rw [image, if_neg h, if_neg (not_inClock_zero _)]
    by_cases hc : c = slot <;> simp [hc]
  have hbehind : ∀ i, image mark now before (c :: cs) (i + 1)
      = image mark now (before + if c = slot then 1 else 0) cs i := by
    intro i
    have hclock : ClockAt (c :: cs) (i + 1) ↔ ClockAt cs i := Iff.rfl
    have hcount : ((c :: cs).take (i + 1 + 1)).count slot
        = (if c = slot then 1 else 0) + (cs.take (i + 1)).count slot := by
      rw [List.take_succ_cons, List.count_cons, Nat.add_comm]
      simp
    simp only [image, hclock, inClock_succ h, hcount, List.getElem?_cons_succ, Nat.add_assoc]
  rw [rewritten, List.length_cons, List.range_succ_eq_map, List.flatMap_cons, hfront,
    List.flatMap_map, rewritten]
  simp only [hbehind, Nat.succ_eq_add_one]

end Segment

namespace Dialect

/-- **A segment outside of literals** is rewritten character by character. -/
theorem renderFrom_outside (d : Dialect) {cs : List Char} (h : quote ∉ cs) (n : Nat) :
    d.renderFrom false n 0 cs = Segment.rewritten d.mark d.now.toList n cs := by
  induction cs using Segment.clock_or_char generalizing n with
  | nil => rfl
  | clock cs hclock ih =>
    rw [d.renderFrom_of_clockAt n hclock, Segment.rewritten_of_clockAt _ _ _ hclock,
      ih fun hmem => h (List.mem_of_mem_drop hmem)]
  | char c cs hclock ih =>
    rw [List.mem_cons, not_or] at h
    rw [d.renderFrom_of_not_clockAt n (Ne.symm h.1) hclock,
      Segment.rewritten_of_not_clockAt _ _ _ hclock, ih h.2]

end Dialect

namespace Segment

/-- The number of bind slots in segments, of which those at even positions stand outside; `k` is the
position of the first one. -/
def slotsFrom (k : Nat) (segments : List (List Char)) : Nat :=
  (segments.mapIdx fun i s => if (k + i) % 2 = 0 then s else []).flatten.count slot

/-- The segments of a text, every other one rewritten. -/
def renderedFrom (d : Dialect) (k n : Nat) (segments : List (List Char)) : List (List Char) :=
  segments.mapIdx fun i s =>
    if (k + i) % 2 = 0 then
      rewritten d.mark d.now.toList (n + slotsFrom k (segments.take i)) s
    else s

theorem slotsFrom_cons (k : Nat) (s : List Char) (segments : List (List Char)) :
    slotsFrom k (s :: segments)
      = (if k % 2 = 0 then s.count slot else 0) + slotsFrom (k + 1) segments := by
  rw [slotsFrom, List.mapIdx_cons, List.flatten_cons, List.count_append, slotsFrom]
  simp only [Nat.add_zero, Nat.add_assoc, Nat.add_comm 1]
  congr 1
  split <;> rfl

theorem renderedFrom_cons (d : Dialect) (k n : Nat) (s : List Char)
    (segments : List (List Char)) :
    renderedFrom d k n (s :: segments)
      = (if k % 2 = 0 then rewritten d.mark d.now.toList n s else s)
        :: renderedFrom d (k + 1) (n + if k % 2 = 0 then s.count slot else 0) segments := by
  rw [renderedFrom, List.mapIdx_cons, renderedFrom]
  simp only [List.take_zero, List.take_succ_cons, slotsFrom_cons, Nat.add_zero, Nat.add_assoc,
    Nat.add_comm 1]
  rfl

end Segment

namespace Dialect

/-- A segment is rendered as it stands outside or inside. -/
theorem renderFrom_segment (d : Dialect) (k n : Nat) {s : List Char} (h : quote ∉ s) :
    d.renderFrom (decide (k % 2 = 1)) n 0 s
      = if k % 2 = 0 then Segment.rewritten d.mark d.now.toList n s else s := by
  rcases Nat.mod_two_eq_zero_or_one k with hk | hk
  · simp only [hk, Nat.zero_ne_one, decide_false, if_pos]
    exact d.renderFrom_outside h n
  · simp only [hk, decide_true, Nat.one_ne_zero, if_false]
    exact d.renderFrom_inside_of_not_mem n h

theorem slotsOutside_segment (k : Nat) {s : List Char} (h : quote ∉ s) :
    slotsOutside (decide (k % 2 = 1)) s = if k % 2 = 0 then s.count slot else 0 := by
  rcases Nat.mod_two_eq_zero_or_one k with hk | hk
  · simp only [hk, Nat.zero_ne_one, decide_false, if_pos]
    exact slotsOutside_of_not_mem h
  · simp only [hk, decide_true, Nat.one_ne_zero, if_false]
    exact slotsOutside_of_not_mem_inside h

/-- Segments with quotes between them are rendered one after another. -/
theorem renderFrom_joinedBy (d : Dialect) : ∀ {segments : List (List Char)} (k n : Nat),
    (∀ s ∈ segments, quote ∉ s) →
      d.renderFrom (decide (k % 2 = 1)) n 0 (Text.joinedBy quote segments)
        = Text.joinedBy quote (Segment.renderedFrom d k n segments) := by
  intro segments
  induction segments with
  | nil =>
    intro k n _
    rfl
  | cons s segments ih =>
    intro k n h
    obtain ⟨hs, hrest⟩ := List.forall_mem_cons.1 h
    rw [Segment.renderedFrom_cons]
    cases segments with
    | nil => exact d.renderFrom_segment k n hs
    | cons t segments =>
      have hnext : (!decide (k % 2 = 1)) = decide ((k + 1) % 2 = 1) := by
        rcases Nat.mod_two_eq_zero_or_one k with hk | hk
        · have hsucc : (k + 1) % 2 = 1 := by omega
          simp [hk, hsucc]
        · have hsucc : (k + 1) % 2 = 0 := by omega
          simp [hk, hsucc]
      rw [Text.joinedBy, d.renderFrom_append_quote, insideBehind_of_not_mem hs, hnext,
        slotsOutside_segment k hs, d.renderFrom_segment k n hs, ih _ _ hrest,
        Segment.renderedFrom_cons, Text.joinedBy]

end Dialect

/-- The segments between the quotes of a text. -/
def segments (sql : String) : List (List Char) := Text.splitFrom quote [] sql.toList

theorem joinedBy_segments (sql : String) : Text.joinedBy quote (segments sql) = sql.toList :=
  Text.joinedBy_splitFrom quote [] sql.toList

theorem quote_not_mem_segments (sql : String) : ∀ s ∈ segments sql, quote ∉ s :=
  fun _ hs => Text.not_mem_of_mem_splitFrom List.not_mem_nil hs

/-- **A text is rendered segment by segment.** -/
theorem Dialect.toList_render (d : Dialect) (sql : String) :
    (d.render sql).toList
      = Text.joinedBy quote (Segment.renderedFrom d 0 0 (segments sql)) := by
  rw [render, String.toList_ofList, ← d.renderFrom_joinedBy 0 0 (quote_not_mem_segments sql),
    joinedBy_segments]
  rfl

/-! ## §4. Only letters of clocks change on MySQL. -/

namespace Segment

/-- A segment with the letters of its clocks as capitals. -/
def capitalized (cs : List Char) : List Char :=
  cs.mapIdx fun i c => if ClockAt cs i ∨ InClock cs i then c.toUpper else c

theorem capitalized_of_clockAt {cs : List Char} (h : ClockAt cs 0) :
    capitalized cs = canonicalNow.toList ++ capitalized (cs.drop 9) := by
  have hlong := h.length_le
  have htake : (cs.take 9).length = 9 := by rw [List.length_take]; omega
  have hsplit : capitalized cs = (cs.take 9 ++ cs.drop 9).mapIdx
      fun i c => if ClockAt cs i ∨ InClock cs i then c.toUpper else c := by
    rw [List.take_append_drop, capitalized]
  rw [hsplit, List.mapIdx_append, htake]
  congr 1
  · have hcapitals : (cs.take 9).mapIdx (fun i c => if ClockAt cs i ∨ InClock cs i then c.toUpper
        else c) = (cs.take 9).map Char.toUpper := by
      rw [List.mapIdx_eq_iff]
      intro i
      rw [List.getElem?_map]
      by_cases hi : i < 9
      · have hin : ClockAt cs i ∨ InClock cs i := by
          rcases Nat.eq_zero_or_pos i with rfl | hpos
          · exact .inl h
          · exact .inr (h.inClock hpos hi)
        simp only [hin, if_true]
      · rw [List.getElem?_eq_none (by omega)]
        rfl
    have hlower : (cs.take 9).map Char.toLower = canonicalNow.toList.map Char.toLower := h
    have hupper : canonicalNow.toList.map Char.toUpper = canonicalNow.toList := by decide
    rw [hcapitals, Text.map_toUpper_eq_of_map_toLower_eq hlower, hupper]
  · rw [capitalized]
    simp only [Nat.add_comm _ 9, clockAt_add, inClock_add h]

theorem capitalized_of_not_clockAt {c : Char} {cs : List Char} (h : ¬ ClockAt (c :: cs) 0) :
    capitalized (c :: cs) = c :: capitalized cs := by
  have hclock : ∀ i, ClockAt (c :: cs) (i + 1) ↔ ClockAt cs i := fun _ => Iff.rfl
  rw [capitalized, List.mapIdx_cons, capitalized]
  simp only [h, not_inClock_zero, or_self, if_false, hclock, inClock_succ h]

/-- **On MySQL only the letters of clocks change**, into capitals. -/
theorem rewritten_mysql (before : Nat) (cs : List Char) :
    rewritten Dialect.mysql.mark Dialect.mysql.now.toList before cs = capitalized cs := by
  have hmark : Dialect.mysql.mark = fun _ => [slot] := by
    funext n
    show "?".toList = [slot]
    decide
  have hnow : Dialect.mysql.now.toList = canonicalNow.toList := rfl
  induction cs using clock_or_char generalizing before with
  | nil => rfl
  | clock cs hclock ih =>
    rw [rewritten_of_clockAt _ _ _ hclock, ih, capitalized_of_clockAt hclock, hnow]
  | char c cs hclock ih =>
    rw [rewritten_of_not_clockAt _ _ _ hclock, ih, capitalized_of_not_clockAt hclock, hmark]
    by_cases hc : c = slot <;> simp [hc]

theorem map_toLower_capitalized (cs : List Char) :
    (capitalized cs).map Char.toLower = cs.map Char.toLower := by
  apply List.ext_getElem?
  intro i
  simp only [capitalized, List.getElem?_map, List.getElem?_mapIdx]
  cases cs[i]? with
  | none => rfl
  | some c =>
    simp only [Option.map_some]
    split
    · rw [Text.toLower_toUpper]
    · rfl

/-- Clocks stand at the same positions of texts that differ in letter case at most. -/
theorem clockAt_iff_of_map_toLower_eq {cs ds : List Char}
    (h : cs.map Char.toLower = ds.map Char.toLower) (i : Nat) : ClockAt cs i ↔ ClockAt ds i := by
  rw [ClockAt, ClockAt, List.map_take, List.map_drop, h, List.map_take, List.map_drop]

/-- Capitals stay. -/
theorem capitalized_capitalized (cs : List Char) :
    capitalized (capitalized cs) = capitalized cs := by
  have hclock := clockAt_iff_of_map_toLower_eq (map_toLower_capitalized cs)
  have hin : ∀ i, InClock (capitalized cs) i ↔ InClock cs i := by
    intro i
    simp only [InClock, hclock]
  rw [capitalized]
  simp only [hclock, hin]
  rw [capitalized, List.mapIdx_mapIdx]
  congr 1
  funext i c
  by_cases h : ClockAt cs i ∨ InClock cs i
  · rw [if_pos h, Function.comp_apply, if_pos h, if_pos h, Text.toUpper_toUpper]
  · rw [if_neg h, Function.comp_apply, if_neg h, if_neg h]

theorem quote_not_mem_capitalized {cs : List Char} (h : quote ∉ cs) : quote ∉ capitalized cs := by
  intro hmem
  have hlower : quote.toLower ∈ (capitalized cs).map Char.toLower := List.mem_map_of_mem hmem
  rw [map_toLower_capitalized] at hlower
  obtain ⟨c, hc, heq⟩ := List.mem_map.1 hlower
  have hquote : c = quote := toLower_eq_of_not_letter heq (by decide)
  exact h (hquote ▸ hc)

/-- The segments of a text, the clocks outside of literals with capitals. -/
def capitalizedOutside (segments : List (List Char)) : List (List Char) :=
  segments.mapIdx fun i s => if i % 2 = 0 then capitalized s else s

theorem renderedFrom_mysql (segments : List (List Char)) :
    renderedFrom .mysql 0 0 segments = capitalizedOutside segments := by
  rw [renderedFrom, capitalizedOutside]
  simp only [rewritten_mysql, Nat.zero_add]

end Segment

/-! ## §5. Rendering for MySQL. -/

namespace Dialect

open Segment

theorem toList_render_mysql (sql : String) :
    (mysql.render sql).toList
      = Text.joinedBy quote (capitalizedOutside (segments sql)) := by
  rw [toList_render, renderedFrom_mysql]

/-- Rendering for MySQL changes no more than letter case. -/
theorem lowered_render_mysql (sql : String) :
    Text.lowered (mysql.render sql) = Text.lowered sql := by
  have hsame : (capitalizedOutside (segments sql)).map (List.map Char.toLower)
      = (segments sql).map (List.map Char.toLower) := by
    apply List.ext_getElem?
    intro i
    simp only [capitalizedOutside, List.getElem?_map, List.getElem?_mapIdx]
    cases (segments sql)[i]? with
    | none => rfl
    | some s =>
      simp only [Option.map_some]
      split
      · rw [map_toLower_capitalized]
      · rfl
  rw [Text.lowered, toList_render_mysql, Text.map_joinedBy, hsame, ← Text.map_joinedBy,
    joinedBy_segments, Text.lowered]

/-- The segments of a text stay segments. -/
theorem segments_render_mysql (sql : String) :
    segments (mysql.render sql) = capitalizedOutside (segments sql) := by
  have hne : capitalizedOutside (segments sql) ≠ [] := by
    rw [capitalizedOutside, ne_eq, List.mapIdx_eq_nil_iff]
    exact Text.splitFrom_ne_nil quote [] sql.toList
  rw [segments, toList_render_mysql]
  apply Text.splitFrom_joinedBy hne
  intro s hs
  obtain ⟨i, hi, rfl⟩ := List.mem_mapIdx.1 hs
  have hquote := quote_not_mem_segments sql _ (List.getElem_mem hi)
  split
  · exact quote_not_mem_capitalized hquote
  · exact hquote

/-- **Rendering for MySQL again** changes nothing more. -/
theorem render_render_mysql (sql : String) :
    mysql.render (mysql.render sql) = mysql.render sql := by
  rw [← String.toList_inj, toList_render_mysql, segments_render_mysql, toList_render_mysql]
  congr 1
  rw [capitalizedOutside, capitalizedOutside, List.mapIdx_mapIdx]
  congr 1
  funext i s
  by_cases h : i % 2 = 0
  · rw [if_pos h, Function.comp_apply, if_pos h, if_pos h, capitalized_capitalized]
  · rw [if_neg h, Function.comp_apply, if_neg h, if_neg h]

end Dialect

end CardStore.Sql
