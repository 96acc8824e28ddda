/-
  CardStore.Proofs.Sql.Bytes
  ──────────────────────────
  **RENDERING BYTE BY BYTE.**

  A statement is kept as the bytes of its UTF-8, and a renderer walks over
  them.  A turn looks at the first character of what is left, or compares its
  first bytes with the clock, writes what that becomes, and cuts off the bytes
  that are done with.  A cut that does not fall between two characters faults.

      left        written   cut off
      ?…          :k        1 byte
      sysdate()…  SYSDATE   9 bytes
      é…          é         2 bytes

  No cut faults, and what is written is the rendered text.

  Main statements:
    * `Dialect.renderBytes?_eq` — the walk over bytes renders what it walks over.
    * `Dialect.render_rewrites` — what rendering changes, and where.
-/
import CardStore.Proofs.Sql.Segment

namespace CardStore.Sql

open Text.Utf8

/-! ## §1. The clock in bytes. -/

/-- Bytes begin with the clock where the text does. -/
theorem startsWithIgnoreCase_now (cs : List Char) :
    startsWithIgnoreCase (cs.flatMap encodeChar) (encode canonicalNow) = true ↔ ClockAt cs 0 := by
  have hascii : ∀ w ∈ canonicalNow.toList, w.toNat < 0x80 := ascii_of_all (by decide)
  rw [encode, startsWithIgnoreCase_encode hascii, clockAt_zero_iff]

/-- The characters of a clock are bytes. -/
theorem ClockAt.length_flatMap {cs : List Char} (h : ClockAt cs 0) :
    ((cs.take 9).flatMap encodeChar).length = 9 := by
  rw [length_flatMap_of_ascii, List.length_take, Nat.min_eq_left h.length_le]
  intro c hc
  have hlower := h.mem_take hc
  have hascii : ∀ w ∈ "sysdate()".toList, w.toNat < 0x80 := ascii_of_all (by decide)
  have hbound := hascii _ hlower
  rw [Text.toNat_toLower] at hbound
  split at hbound <;> omega

/-! ## §2. The walk. -/

/-- What a turn does. -/
structure Turn where
  /-- The bytes written. -/
  written : List UInt8
  /-- Whether what follows is in a literal. -/
  inside : Bool
  /-- The slots so far. -/
  slots : Nat
  /-- The number of bytes to cut off. -/
  size : Nat

namespace Dialect

/-- A turn at bytes that begin with a character. -/
def turn (d : Dialect) (inside : Bool) (slots : Nat) (bs : List UInt8) (c : Char) : Turn :=
  if c = quote then ⟨encodeChar c, !inside, slots, charSize c⟩
  else if inside then ⟨encodeChar c, inside, slots, charSize c⟩
  else if c = slot then ⟨encode (d.placeholder (slots + 1)), inside, slots + 1, 1⟩
  else if startsWithIgnoreCase bs (encode canonicalNow) then
    ⟨encode d.now, inside, slots, (encode canonicalNow).length⟩
  else ⟨encodeChar c, inside, slots, charSize c⟩

theorem size_turn_pos (d : Dialect) (inside : Bool) (slots : Nat) (bs : List UInt8) (c : Char) :
    0 < (d.turn inside slots bs c).size := by
  have hnow : 0 < (encode canonicalNow).length := by decide
  have hchar := charSize_pos c
  unfold turn
  split_ifs <;> simp only [hnow, hchar, Nat.one_pos]

/-- Render bytes, `none` where a cut faults or the bytes are not text. -/
def renderBytes? (d : Dialect) (inside : Bool) (slots : Nat) (bs : List UInt8) :
    Option (List UInt8) :=
  match decode bs with
  | [] => some []
  | none :: _ => none
  | some c :: _ =>
    match _hrest : slice? (d.turn inside slots bs c).size bs with
    | none => none
    | some rest =>
      (d.renderBytes? (d.turn inside slots bs c).inside (d.turn inside slots bs c).slots rest).map
        ((d.turn inside slots bs c).written ++ ·)
termination_by bs.length
decreasing_by exact length_lt_of_slice? _hrest (d.size_turn_pos inside slots bs c)

/-! ## §3. No cut faults. -/

/-- A turn at text that cuts off whole characters. -/
theorem renderBytes?_turn (d : Dialect) (inside : Bool) (slots : Nat) {c : Char}
    {cs front rest : List Char} (hsplit : c :: cs = front ++ rest) {t : Turn}
    (hturn : d.turn inside slots ((c :: cs).flatMap encodeChar) c = t)
    (hsize : t.size = (front.flatMap encodeChar).length) :
    d.renderBytes? inside slots ((c :: cs).flatMap encodeChar)
      = (d.renderBytes? t.inside t.slots (rest.flatMap encodeChar)).map (t.written ++ ·) := by
  have hchars : decode ((c :: cs).flatMap encodeChar)
      = some c :: decode (cs.flatMap encodeChar) := by
    rw [List.flatMap_cons]
    exact decodeFrom_encodeChar c _
  have hcut : slice? (d.turn inside slots ((c :: cs).flatMap encodeChar) c).size
      ((c :: cs).flatMap encodeChar) = some (rest.flatMap encodeChar) := by
    rw [hturn, hsize, hsplit, List.flatMap_append]
    exact slice?_append _ rest
  rw [renderBytes?, hchars]
  dsimp only
  split
  · rename_i hnone
    rw [hcut] at hnone
    cases hnone
  · rename_i rest' hsome
    rw [hcut, Option.some.injEq] at hsome
    rw [← hsome, hturn]

/-- **The walk over bytes renders what it walks over**, and no cut faults.  The induction passes
from what is left before a turn to what is left behind it. -/
theorem renderBytes?_eq (d : Dialect) : ∀ (cs : List Char) (inside : Bool) (slots : Nat),
    d.renderBytes? inside slots (cs.flatMap encodeChar)
      = some ((d.renderFrom inside slots 0 cs).flatMap encodeChar)
  | [], inside, slots => by
    rw [renderBytes?]
    rfl
  | c :: cs, inside, slots => by
    have hone : c :: cs = [c] ++ cs := rfl
    have hsize : charSize c = ([c].flatMap encodeChar).length := by
      rw [List.flatMap_singleton, charSize]
    by_cases hquote : c = quote
    · rw [d.renderBytes?_turn inside slots hone (if_pos hquote) hsize,
        renderBytes?_eq d cs (!inside) slots, renderFrom, if_pos hquote]
      rfl
    by_cases hinside : inside = true
    · have hturn : d.turn inside slots ((c :: cs).flatMap encodeChar) c
          = ⟨encodeChar c, inside, slots, charSize c⟩ := by
        rw [turn, if_neg hquote, if_pos hinside]
      rw [d.renderBytes?_turn inside slots hone hturn hsize, renderBytes?_eq d cs inside slots,
        renderFrom, if_neg hquote, if_pos hinside]
      rfl
    rw [Bool.not_eq_true] at hinside
    subst hinside
    by_cases hslot : c = slot
    · have hturn : d.turn false slots ((c :: cs).flatMap encodeChar) c
          = ⟨encode (d.placeholder (slots + 1)), false, slots + 1, 1⟩ := by
        rw [turn, if_neg hquote, if_neg Bool.false_ne_true, if_pos hslot]
      have hbyte : 1 = ([c].flatMap encodeChar).length := by
        rw [hslot]
        decide
      rw [d.renderBytes?_turn false slots hone hturn hbyte, renderBytes?_eq d cs false (slots + 1),
        renderFrom, if_neg hquote, if_neg Bool.false_ne_true, if_pos hslot, List.flatMap_append]
      rfl
    by_cases hclock : ClockAt (c :: cs) 0
    · have hturn : d.turn false slots ((c :: cs).flatMap encodeChar) c
          = ⟨encode d.now, false, slots, 9⟩ := by
        rw [turn, if_neg hquote, if_neg Bool.false_ne_true, if_neg hslot,
          if_pos ((startsWithIgnoreCase_now _).2 hclock)]
        rfl
      have hsplit : c :: cs = (c :: cs).take 9 ++ (c :: cs).drop 9 :=
        (List.take_append_drop 9 (c :: cs)).symm
      have hshorter := hclock.length_drop_lt
      rw [d.renderBytes?_turn false slots hsplit hturn hclock.length_flatMap.symm,
        renderBytes?_eq d ((c :: cs).drop 9) false slots, d.renderFrom_of_clockAt slots hclock,
        List.flatMap_append]
      rfl
    · have hturn : d.turn false slots ((c :: cs).flatMap encodeChar) c
          = ⟨encodeChar c, false, slots, charSize c⟩ := by
        rw [turn, if_neg hquote, if_neg Bool.false_ne_true, if_neg hslot,
          if_neg fun h => hclock ((startsWithIgnoreCase_now _).1 h)]
      rw [d.renderBytes?_turn false slots hone hturn hsize, renderBytes?_eq d cs false slots,
        d.renderFrom_of_not_clockAt slots hquote hclock, if_neg hslot, if_neg hslot]
      rfl
termination_by cs => cs.length

/-! ## §4. What rendering changes. -/

/-- **Rendering rewrites exactly the text outside of literals.**  A text is cut at its quotes into
segments that stand outside and inside by turns.  For Oracle every slot of a segment outside becomes
the mark of its number, counted through all of these, and every clock, in any letter case, the
clock of Oracle; for MySQL the letters of clocks become capitals, so that rendering keeps the length
and rendering again changes nothing.  The walk over the bytes of any text makes no cut within a
character. -/
theorem render_rewrites (sql : String) :
    (Text.joinedBy quote (segments sql) = sql.toList ∧ ∀ s ∈ segments sql, quote ∉ s)
    ∧ (oracle.render sql).toList = Text.joinedBy quote ((segments sql).mapIdx fun i s =>
        if i % 2 = 0 then
          Segment.rewritten (fun k => ':' :: Text.digitChars k) "SYSDATE".toList
            (Segment.slotsFrom 0 ((segments sql).take i)) s
        else s)
    ∧ (mysql.render sql).toList = Text.joinedBy quote ((segments sql).mapIdx fun i s =>
        if i % 2 = 0 then Segment.capitalized s else s)
    ∧ (mysql.render sql).length = sql.length
    ∧ (encode (mysql.render sql)).length = (encode sql).length
    ∧ mysql.render (mysql.render sql) = mysql.render sql
    ∧ ∀ d : Dialect, d.renderBytes? false 0 (encode sql) = some (encode (d.render sql)) := by
  refine ⟨⟨joinedBy_segments sql, quote_not_mem_segments sql⟩, ?_, toList_render_mysql sql, ?_,
    length_encode_eq_of_lowered_eq (lowered_render_mysql sql), render_render_mysql sql, ?_⟩
  · have hmark : oracle.mark = fun k => ':' :: Text.digitChars k := by
      funext k
      show (":" ++ Text.ofNat k).toList = _
      rw [String.toList_append, Text.ofNat, String.toList_ofList, String.toList_ofList]
      rfl
    have hnow : oracle.now.toList = "SYSDATE".toList := rfl
    rw [toList_render, Segment.renderedFrom, hmark, hnow]
    simp only [Nat.zero_add]
  · have hlength := congrArg List.length (lowered_render_mysql sql)
    rw [Text.lowered, Text.lowered, List.length_map, List.length_map] at hlength
    exact hlength
  · intro d
    rw [encode, d.renderBytes?_eq, encode, render, String.toList_ofList]

/-- A clock beside text of several bytes, a quote in front of it and none behind. -/
example : (mysql.render "é'é?'sysDATE()?'?").toList = "é'é?'SYSDATE()?'?".toList := by decide

end Dialect

end CardStore.Sql
