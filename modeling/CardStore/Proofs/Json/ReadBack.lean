/-
  CardStore.Proofs.Json.ReadBack
  ──────────────────────────────
  **JSON VALUES, READ BACK FROM THEIR TEXT.**

  The text of a value begins with a character that is neither a blank nor a
  closing bracket, and what stands behind a value inside of a text, a comma or
  a bracket, ends any number.  So the text of a value is scanned as the tree
  of that value wherever it stands, and what stands behind it is left.

      { "a" : 1   ,  "b" : [ 2.5   ]   }
              ⌞ number, read up to the comma

  Scanning has fuel; the text of a value has more characters than the value
  has parts, so that there is always enough.

  Main statements:
    * `scanValue_chars` — the text of a value is scanned as the value.
    * `ofText_text` — and read as the value, its repeated keys settled.
-/
import CardStore.Proofs.Json.Lexemes

namespace CardStore.Json

/-! ## §1. Numbers of a value. -/

mutual

/-- The binary64 numbers of a value. -/
def doubles : Json → List Double
  | .number (.float x _) => [x]
  | .array items => itemsDoubles items
  | .object members => membersDoubles members
  | _ => []

def itemsDoubles : List Json → List Double
  | [] => []
  | j :: js => doubles j ++ itemsDoubles js

def membersDoubles : List (String × Json) → List Double
  | [] => []
  | (_, j) :: es => doubles j ++ membersDoubles es

end

/-- A number of a value is read back if the binary64 numbers of the value are. -/
theorem spells_of_doubles {n : Number} (h : ∀ x ∈ (number n).doubles, x.ReadsBack) :
    Spells n n.text.toList := by
  apply spells_number
  rintro x hx rfl
  exact h x (List.mem_singleton.2 rfl)

/-! ## §2. Where a value begins. -/

/-- Characters that do not begin with a blank or the end of a list. -/
def Begins (cs : List Char) : Prop := ∃ c ds, cs = c :: ds ∧ isBlank c = false ∧ c ≠ ']'

theorem Spells.begins {n : Number} {cs : List Char} (h : Spells n cs) : Begins cs := by
  cases h with
  | negative _ => exact ⟨'-', _, rfl, rfl, by decide⟩
  | @plain c cs hc _ =>
    refine ⟨c, cs, rfl, isBlank_of_isDigit hc, ?_⟩
    rintro rfl
    cases hc

theorem begins_chars (j : Json) (h : ∀ x ∈ j.doubles, x.ReadsBack) : Begins j.chars := by
  cases j with
  | null => exact ⟨_, _, rfl, rfl, by decide⟩
  | bool b => cases b <;> exact ⟨_, _, rfl, rfl, by decide⟩
  | number n => exact (spells_of_doubles h).begins
  | string s => exact ⟨_, _, rfl, rfl, by decide⟩
  | array items => cases items <;> exact ⟨_, _, rfl, rfl, by decide⟩
  | object members =>
    cases members with
    | nil => exact ⟨_, _, rfl, rfl, by decide⟩
    | cons e es => exact ⟨_, _, rfl, rfl, by decide⟩

theorem Begins.append {cs : List Char} (h : Begins cs) (rest : List Char) :
    Begins (cs ++ rest) := by
  obtain ⟨c, ds, rfl, hc⟩ := h
  exact ⟨c, ds ++ rest, rfl, hc⟩

theorem Begins.length_pos {cs : List Char} (h : Begins cs) : 0 < cs.length := by
  obtain ⟨c, ds, rfl, -⟩ := h
  exact Nat.succ_pos _

/-! ## §3. What stands behind a value. -/

theorem delimits_cons {c : Char} {cs : List Char} (h : c = ',' ∨ c = ']' ∨ c = '}') :
    Delimits (c :: cs) := by
  rintro d ⟨⟩
  rcases h with rfl | rfl | rfl <;> decide

theorem delimits_moreItems (js : List Json) (rest : List Char) :
    Delimits (moreItems js ++ rest) := by
  cases js with
  | nil => exact delimits_cons (Or.inr (Or.inl rfl))
  | cons j js => exact delimits_cons (Or.inl rfl)

theorem delimits_moreMembers (es : List (String × Json)) (rest : List Char) :
    Delimits (moreMembers es ++ rest) := by
  cases es with
  | nil => exact delimits_cons (Or.inr (Or.inr rfl))
  | cons e es => exact delimits_cons (Or.inl rfl)

theorem length_moreItems_pos (js : List Json) : 0 < (moreItems js).length := by
  cases js <;> exact Nat.succ_pos _

/-! ## §4. Steps of the scan. -/

variable {fuel : Fuel} {cs rest : List Char}

theorem stringChars_append (s : String) (cs : List Char) :
    stringChars s ++ cs = '"' :: (s.toList.flatMap escapeChar ++ '"' :: cs) := by
  rw [stringChars, List.cons_append, List.append_assoc]
  rfl

theorem scanValue_string (fuel : Fuel) (s : String) (rest : List Char) :
    scanValue (fuel + 1) (stringChars s ++ rest) = (.string (.ok s), rest) := by
  rw [stringChars_append, scanValue, skipBlanks_cons rfl]
  simp only [scanString_escaped]
  rfl

theorem scanValue_bracket (fuel : Fuel) (cs : List Char) : scanValue (fuel + 1) ('[' :: cs)
    = (.array (scanItems fuel cs).1 (scanItems fuel cs).2.1, (scanItems fuel cs).2.2) := by
  rw [scanValue, skipBlanks_cons rfl]
  rfl

theorem scanValue_brace (fuel : Fuel) (cs : List Char) : scanValue (fuel + 1) ('{' :: cs)
    = (.object (scanMembers fuel cs).1 (scanMembers fuel cs).2.1, (scanMembers fuel cs).2.2) := by
  rw [scanValue, skipBlanks_cons rfl]
  rfl

/-- The first item of a list. -/
theorem scanItems_item (h : Begins cs) {n : Node} (hn : scanValue fuel cs = (n, rest)) :
    scanItems (fuel + 1) cs = (n :: (scanMoreItems fuel rest).1, (scanMoreItems fuel rest).2) := by
  obtain ⟨c, ds, rfl, hblank, hne⟩ := h
  rw [scanItems, skipBlanks_cons hblank]
  dsimp only
  rw [if_neg hne, hn]

/-- Another item of a list. -/
theorem scanMoreItems_item (h : Begins cs) {n : Node} (hn : scanValue fuel cs = (n, rest)) :
    scanMoreItems (fuel + 1) (',' :: cs)
      = (n :: (scanMoreItems fuel rest).1, (scanMoreItems fuel rest).2) := by
  obtain ⟨c, ds, rfl, hblank, hne⟩ := h
  rw [scanMoreItems, skipBlanks_cons rfl]
  dsimp only
  rw [if_neg (by decide), if_pos rfl, skipBlanks_cons hblank]
  dsimp only
  rw [if_neg hne, hn]

/-- A member of an object. -/
theorem scanMember_member {key : String} {n : Node} (hn : scanValue fuel cs = (n, rest)) :
    scanMember (fuel + 1) (key.toList.flatMap escapeChar ++ '"' :: ':' :: cs)
      = ((.ok key, n) :: (scanMoreMembers fuel rest).1, (scanMoreMembers fuel rest).2) := by
  rw [scanMember, scanString_escaped]
  dsimp only
  rw [skipBlanks_cons rfl]
  dsimp only
  rw [if_pos rfl, hn]

theorem scanMembers_member (fuel : Fuel) (key : String) (cs : List Char) :
    scanMembers (fuel + 1) (stringChars key ++ cs)
      = scanMember fuel (key.toList.flatMap escapeChar ++ '"' :: cs) := by
  rw [stringChars_append, scanMembers, skipBlanks_cons rfl]
  rfl

theorem scanMoreMembers_member (fuel : Fuel) (key : String) (cs : List Char) :
    scanMoreMembers (fuel + 1) (',' :: (stringChars key ++ cs))
      = scanMember fuel (key.toList.flatMap escapeChar ++ '"' :: cs) := by
  rw [stringChars_append, scanMoreMembers, skipBlanks_cons rfl]
  dsimp only
  rw [if_neg (by decide), if_pos rfl, skipBlanks_cons rfl]
  rfl

/-! ## §5. Values. -/

theorem two_le_length_stringChars (s : String) : 2 ≤ (stringChars s).length := by
  rw [stringChars, List.length_cons, List.length_append, List.length_singleton]
  omega

mutual

/-- **The text of a value is scanned as the value**, and what stands behind it is left. -/
theorem scanValue_chars : (j : Json) → (∀ x ∈ j.doubles, x.ReadsBack) → (fuel : Nat) →
    j.chars.length ≤ fuel + 1 → {rest : List Char} → Delimits rest →
    scanValue (fuel + 1) (j.chars ++ rest) = (.ofJson j, rest)
  | .null, _, fuel, _, rest, _ => by
    rw [chars, List.cons_append, scanValue, skipBlanks_cons rfl]
    rfl
  | .bool true, _, fuel, _, rest, _ => by
    rw [chars, List.cons_append, scanValue, skipBlanks_cons rfl]
    rfl
  | .bool false, _, fuel, _, rest, _ => by
    rw [chars, List.cons_append, scanValue, skipBlanks_cons rfl]
    rfl
  | .number n, hj, fuel, _, _, hrest => (spells_of_doubles hj).scanValue hrest fuel
  | .string s, _, fuel, _, rest, _ => scanValue_string fuel s rest
  | .array [], _, fuel, hfuel, rest, _ => by
    obtain ⟨fuel, rfl⟩ : ∃ f, fuel = f + 1 := ⟨fuel - 1, by
      simp only [chars, List.length_cons, List.length_nil] at hfuel
      omega⟩
    rw [chars, List.cons_append, scanValue_bracket, List.cons_append, scanItems,
      skipBlanks_cons rfl]
    rfl
  | .array (j :: js), hj, fuel, hfuel, rest, _ => by
    -- the first item begins with no blank and no bracket, so that the list is not taken as empty
    have hbegins := begins_chars j fun x hx => hj x (List.mem_append_left _ hx)
    have hmore := length_moreItems_pos js
    have hpos := hbegins.length_pos
    simp only [chars, List.length_cons, List.length_append] at hfuel
    -- fuel for the list and for its first item; the bracket and what follows are as long
    obtain ⟨fuel, rfl⟩ : ∃ f, fuel = f + 2 := ⟨fuel - 2, by omega⟩
    have hitem := scanValue_chars j (fun x hx => hj x (List.mem_append_left _ hx)) fuel
      (by omega) (delimits_moreItems js rest)
    have hitems := scanMoreItems_moreItems js (fun x hx => hj x (List.mem_append_right _ hx))
      fuel (by omega) rest
    rw [chars, List.cons_append, List.append_assoc, scanValue_bracket,
      scanItems_item (hbegins.append _) hitem, hitems]
    rfl
  | .object [], _, fuel, hfuel, rest, _ => by
    obtain ⟨fuel, rfl⟩ : ∃ f, fuel = f + 1 := ⟨fuel - 1, by
      simp only [chars, List.length_cons, List.length_nil] at hfuel
      omega⟩
    rw [chars, List.cons_append, scanValue_brace, List.cons_append, scanMembers,
      skipBlanks_cons rfl]
    rfl
  | .object ((k, j) :: es), hj, fuel, hfuel, rest, _ => by
    have hkey := two_le_length_stringChars k
    simp only [chars, List.length_cons, List.length_append] at hfuel
    -- fuel for the object, its first key and the value; the quotes of the key are as long
    obtain ⟨fuel, rfl⟩ : ∃ f, fuel = f + 3 := ⟨fuel - 3, by omega⟩
    have hvalue := scanValue_chars j (fun x hx => hj x (List.mem_append_left _ hx)) fuel
      (by omega) (delimits_moreMembers es rest)
    have hmembers := scanMoreMembers_moreMembers es
      (fun x hx => hj x (List.mem_append_right _ hx)) fuel (by omega) rest
    rw [chars, List.cons_append, List.append_assoc, scanValue_brace, List.cons_append,
      List.append_assoc, scanMembers_member, scanMember_member hvalue, hmembers]
    rfl

theorem scanMoreItems_moreItems : (js : List Json) → (∀ x ∈ itemsDoubles js, x.ReadsBack) →
    (fuel : Nat) → (moreItems js).length ≤ fuel + 1 → (rest : List Char) →
    scanMoreItems (fuel + 1) (moreItems js ++ rest) = (Node.ofItems js, none, rest)
  | [], _, fuel, _, rest => by
    rw [moreItems, List.cons_append, scanMoreItems, skipBlanks_cons rfl]
    rfl
  | j :: js, hjs, fuel, hfuel, rest => by
    have hbegins := begins_chars j fun x hx => hjs x (List.mem_append_left _ hx)
    have hmore := length_moreItems_pos js
    have hpos := hbegins.length_pos
    simp only [moreItems, List.length_cons, List.length_append] at hfuel
    obtain ⟨fuel, rfl⟩ : ∃ f, fuel = f + 1 := ⟨fuel - 1, by omega⟩
    have hitem := scanValue_chars j (fun x hx => hjs x (List.mem_append_left _ hx)) fuel
      (by omega) (delimits_moreItems js rest)
    have hitems := scanMoreItems_moreItems js (fun x hx => hjs x (List.mem_append_right _ hx))
      fuel (by omega) rest
    rw [moreItems, List.cons_append, List.append_assoc,
      scanMoreItems_item (hbegins.append _) hitem, hitems]
    rfl

theorem scanMoreMembers_moreMembers : (es : List (String × Json)) →
    (∀ x ∈ membersDoubles es, x.ReadsBack) → (fuel : Nat) →
    (moreMembers es).length ≤ fuel + 1 → (rest : List Char) →
    scanMoreMembers (fuel + 1) (moreMembers es ++ rest) = (Node.ofMembers es, none, rest)
  | [], _, fuel, _, rest => by
    rw [moreMembers, List.cons_append, scanMoreMembers, skipBlanks_cons rfl]
    rfl
  | (k, j) :: es, hes, fuel, hfuel, rest => by
    have hkey := two_le_length_stringChars k
    simp only [moreMembers, List.length_cons, List.length_append] at hfuel
    obtain ⟨fuel, rfl⟩ : ∃ f, fuel = f + 2 := ⟨fuel - 2, by omega⟩
    have hvalue := scanValue_chars j (fun x hx => hes x (List.mem_append_left _ hx)) fuel
      (by omega) (delimits_moreMembers es rest)
    have hmembers := scanMoreMembers_moreMembers es
      (fun x hx => hes x (List.mem_append_right _ hx)) fuel (by omega) rest
    rw [moreMembers, List.cons_append, List.append_assoc, List.cons_append, List.append_assoc,
      scanMoreMembers_member, scanMember_member hvalue, hmembers]
    rfl

end

/-- The text of a value is scanned as a whole. -/
theorem scan_text {j : Json} (h : ∀ x ∈ j.doubles, x.ReadsBack) :
    scan j.text = ⟨.ofJson j, true⟩ := by
  have hchars : scanValue (2 * j.chars.length + 2) (j.chars ++ []) = (.ofJson j, []) :=
    scanValue_chars j h (2 * j.chars.length + 1) (by omega) delimits_nil
  rw [List.append_nil] at hchars
  unfold scan text
  dsimp only
  rw [String.toList_ofList, hchars]
  rfl

/-- **A value is read back from its text**, its repeated keys settled. -/
theorem ofText_text {j : Json} (hdepth : j.depth < 128) (h : ∀ x ∈ j.doubles, x.ReadsBack) :
    ofText j.text = .ok j.settled := by
  refine readText_eq_ok_iff.2 ?_
  rw [scan_text h]
  exact ⟨readJson_ofJson .start j (Origin.start_admits hdepth), rfl⟩

end CardStore.Json
