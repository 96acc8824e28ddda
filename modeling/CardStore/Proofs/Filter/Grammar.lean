/-
  CardStore.Proofs.Filter.Grammar
  ───────────────────────────────
  **WHICH TEXTS ARE FILTERS.**

  A filter is an object or a list of conditions.  An object has one group for
  each key `and` and `or`, which holds a list of conditions; what stands under
  other keys is anything well-formed.  A condition is a list of two texts and
  perhaps an operand, or an object that is a filter.

      { "and": [ ["age", ">", 18], ["name", "IS"] ], "note": 1e999, "and": [ { "or": [] } ] }
        and      age > 18          name IS null      skipped        and      ( or … )

  Whatever is read has this form, and whatever has this form is read, as long
  as it does not nest too deep.  What is read rather than skipped has to be
  held, so that its strings have no lone halves of pairs and its numbers are
  not out of range.

  Main statements:
    * `denotes_of_read` — what is read has the form of a filter.
    * `read_of_denotes` — what has this form is read, and as that filter.
    * `ofText_iff_denotes` — which texts are read as which filters.
    * `refused_unless_held` — a number out of range is no operand, half of a pair no key.
-/
import CardStore.Filter.Wire
import CardStore.Proofs.Json.Nesting
import Mathlib

namespace CardStore

/-- The key of the groups of a connective. -/
def Logic.key : Logic → String
  | .and => "and"
  | .or => "or"

namespace Filter

open Json (Fault Node Origin)

/-! ## §1. The form of filters. -/

mutual

/-- The tree of a text has the form of a filter. -/
inductive Denotes : Node → Filter → Prop where
  | object {members : List (Except Fault String × Node)} {gs : List (Logic × List Condition)} :
    DenoteGroups members gs → Denotes (.object members none) (.groups gs)
  | list {items : List Node} {cs : List Condition} :
    DenoteConditions items cs → Denotes (.array items none) (.groups [(.and, cs)])

/-- Members of an object, one group for each key of a connective, in their order. -/
inductive DenoteGroups :
    List (Except Fault String × Node) → List (Logic × List Condition) → Prop where
  | nil : DenoteGroups [] []
  | group {logic : Logic} {items : List Node} {cs : List Condition}
    {ms : List (Except Fault String × Node)} {gs : List (Logic × List Condition)} :
    DenoteConditions items cs → DenoteGroups ms gs →
      DenoteGroups ((.ok logic.key, .array items none) :: ms) ((logic, cs) :: gs)
  | other {key : String} {n : Node} {ms : List (Except Fault String × Node)}
    {gs : List (Logic × List Condition)} : (∀ logic : Logic, key ≠ logic.key) →
      DenoteGroups ms gs → DenoteGroups ((.ok key, n) :: ms) gs

/-- Items of a list, each a condition. -/
inductive DenoteConditions : List Node → List Condition → Prop where
  | nil : DenoteConditions [] []
  | cons {n : Node} {c : Condition} {ns : List Node} {cs : List Condition} :
    DenotesCondition n c → DenoteConditions ns cs → DenoteConditions (n :: ns) (c :: cs)

/-- A condition: two texts, perhaps with an operand, or an object that is a filter. -/
inductive DenotesCondition : Node → Condition → Prop where
  | pair (path operator : String) :
    DenotesCondition (.array [.string (.ok path), .string (.ok operator)] none)
      (.triple ⟨path, operator, .null⟩)
  | triple (path operator : String) (operand : Json) :
    DenotesCondition
      (.array [.string (.ok path), .string (.ok operator), .ofJson operand] none)
      (.triple ⟨path, operator, .ofJson operand⟩)
  | nested {members : List (Except Fault String × Node)} {f : Filter} :
    Denotes (.object members none) f → DenotesCondition (.object members none) (.nested f)

end

/-! ## §2. What is read has this form. -/

theorem logicOfKey?_eq_some_iff {key : String} {logic : Logic} :
    logicOfKey? key = some logic ↔ key = logic.key := by
  unfold logicOfKey?
  constructor
  · intro h
    split at h
    · cases h
      assumption
    split at h
    · cases h
      assumption
    · cases h
  · rintro rfl
    cases logic <;> rfl

theorem logicOfKey?_eq_none_iff {key : String} :
    logicOfKey? key = none ↔ ∀ logic : Logic, key ≠ logic.key := by
  rw [Option.eq_none_iff_forall_ne_some]
  exact forall_congr' fun logic => not_congr logicOfKey?_eq_some_iff

theorem readString_eq_ok_iff {n : Node} {s : String} :
    Json.readString n = .ok s ↔ n = .string (.ok s) := by
  constructor
  · intro h
    cases n with
    | string text => rw [Json.ofText_eq_ok_iff.1 h]
    | number n => rcases n with _ | ⟨_ | _⟩ <;> cases h
    | _ => cases h
  · rintro rfl
    rfl

/-- The items of a triple. -/
theorem readTriple_eq_ok_iff {o : Origin} {stop : Option Json.Stop} {items : List Node}
    {t : Triple} : readTriple o stop items = .ok t ↔ stop = none ∧
      (items = [.string (.ok t.path), .string (.ok t.operator)] ∧ t.operand = .null
        ∨ ∃ j : Json, items = [.string (.ok t.path), .string (.ok t.operator), .ofJson j]
          ∧ o.Admits j.depth ∧ t.operand = .ofJson j) := by
  unfold readTriple
  constructor
  · intro h
    rcases items with _ | ⟨n, _ | ⟨m, _ | ⟨operand, _ | ⟨extra, items⟩⟩⟩⟩
    · obtain ⟨u, -, h⟩ := bind_eq_ok_iff.1 h
      cases h
    · obtain ⟨path, -, h⟩ := bind_eq_ok_iff.1 h
      obtain ⟨u, -, h⟩ := bind_eq_ok_iff.1 h
      cases h
    · obtain ⟨path, hpath, h⟩ := bind_eq_ok_iff.1 h
      obtain ⟨operator, hoperator, h⟩ := bind_eq_ok_iff.1 h
      obtain ⟨u, hstop, h⟩ := bind_eq_ok_iff.1 h
      cases h
      rw [readString_eq_ok_iff.1 hpath, readString_eq_ok_iff.1 hoperator]
      exact ⟨Json.checkStop_eq_ok_iff.1 hstop, Or.inl ⟨rfl, rfl⟩⟩
    · obtain ⟨path, hpath, h⟩ := bind_eq_ok_iff.1 h
      obtain ⟨operator, hoperator, h⟩ := bind_eq_ok_iff.1 h
      obtain ⟨value, hvalue, h⟩ := bind_eq_ok_iff.1 h
      obtain ⟨u, hstop, h⟩ := bind_eq_ok_iff.1 h
      cases h
      obtain ⟨j, rfl, hj, rfl⟩ := Value.read_eq_ok_iff.1 hvalue
      rw [readString_eq_ok_iff.1 hpath, readString_eq_ok_iff.1 hoperator]
      exact ⟨Json.checkStop_eq_ok_iff.1 hstop, Or.inr ⟨j, rfl, hj, rfl⟩⟩
    -- a fourth item is skipped, and then there is one too many
    · obtain ⟨path, -, h⟩ := bind_eq_ok_iff.1 h
      obtain ⟨operator, -, h⟩ := bind_eq_ok_iff.1 h
      obtain ⟨value, -, h⟩ := bind_eq_ok_iff.1 h
      obtain ⟨u, -, h⟩ := bind_eq_ok_iff.1 h
      cases h
  · obtain ⟨path, operator, operand⟩ := t
    rintro ⟨rfl, ⟨rfl, rfl⟩ | ⟨j, rfl, hj, rfl⟩⟩
    · rfl
    · exact bind_eq_ok_iff.2 ⟨path, rfl, bind_eq_ok_iff.2 ⟨operator, rfl,
        bind_eq_ok_iff.2 ⟨_, Value.read_eq_ok_iff.2 ⟨j, rfl, hj, rfl⟩, rfl⟩⟩⟩

mutual

/-- **What is read has the form of a filter**, and is well-formed. -/
theorem denotes_of_read (o : Origin) : (n : Node) → {f : Filter} → read o n = .ok f →
    n.WellFormed ∧ Denotes n f
  | .object members stop, f, h => by
    rw [read] at h
    obtain ⟨i, gs, -, hgs, rfl, rfl⟩ := Json.container_eq_ok_iff.1 h
    obtain ⟨hformed, hgroups⟩ := denoteGroups_of_readGroups i members hgs
    exact ⟨⟨hformed, rfl⟩, .object hgroups⟩
  | .array items stop, f, h => by
    rw [read] at h
    obtain ⟨i, cs, -, hcs, rfl, rfl⟩ := Json.container_eq_ok_iff.1 h
    obtain ⟨hformed, hconditions⟩ := denoteConditions_of_readConditions i items hcs
    exact ⟨⟨hformed, rfl⟩, .list hconditions⟩
  | .null, _, h => by cases h
  | .bool _, _, h => by cases h
  | .number none, _, h => by cases h
  | .number (some (.int _ _)), _, h => by cases h
  | .number (some (.float _ _)), _, h => by cases h
  | .string (.ok _), _, h => by cases h
  | .string (.error _), _, h => by cases h
  | .stop _, _, h => by cases h

theorem denoteGroups_of_readGroups (o : Origin) : (ms : List (Except Fault String × Node)) →
    {gs : List (Logic × List Condition)} → readGroups o ms = .ok gs →
    Node.MembersWellFormed ms ∧ DenoteGroups ms gs
  | [], _, h => by
    cases h
    exact ⟨trivial, .nil⟩
  | (key, n) :: ms, gs, h => by
    rw [readGroups] at h
    obtain ⟨k, hk, hrest⟩ := bind_eq_ok_iff.1 h
    obtain rfl := Json.ofText_eq_ok_iff.1 hk
    split at hrest
    -- what stands under the key of no connective is skipped, which asks for no more than its form
    · rename_i hlogic
      obtain ⟨u, hskip, h⟩ := bind_eq_ok_iff.1 hrest
      obtain ⟨hformed, hgroups⟩ := denoteGroups_of_readGroups o ms h
      exact ⟨⟨(Json.skip_eq_ok_iff n).1 (Json.ofText_eq_ok_iff.1 hskip), hformed⟩,
        .other (logicOfKey?_eq_none_iff.1 hlogic) hgroups⟩
    · rename_i logic hlogic
      obtain rfl := logicOfKey?_eq_some_iff.1 hlogic
      obtain ⟨cs, hcs, hrest⟩ := bind_eq_ok_iff.1 hrest
      obtain ⟨gs', hgs, hrest⟩ := bind_eq_ok_iff.1 hrest
      cases hrest
      obtain ⟨items, rfl, hitems, hconditions⟩ := denoteConditions_of_readMembers o n hcs
      obtain ⟨hformed, hgroups⟩ := denoteGroups_of_readGroups o ms hgs
      exact ⟨⟨⟨hitems, rfl⟩, hformed⟩, .group hconditions hgroups⟩

theorem denoteConditions_of_readMembers (o : Origin) : (n : Node) → {cs : List Condition} →
    readMembers o n = .ok cs →
    ∃ items, n = .array items none ∧ Node.ItemsWellFormed items ∧ DenoteConditions items cs
  | .array items stop, cs, h => by
    rw [readMembers] at h
    obtain ⟨i, cs', -, hcs, rfl, rfl⟩ := Json.container_eq_ok_iff.1 h
    exact ⟨items, rfl, denoteConditions_of_readConditions i items hcs⟩
  | .null, _, h => by cases h
  | .bool _, _, h => by cases h
  | .number none, _, h => by cases h
  | .number (some (.int _ _)), _, h => by cases h
  | .number (some (.float _ _)), _, h => by cases h
  | .string (.ok _), _, h => by cases h
  | .string (.error _), _, h => by cases h
  | .object _ _, _, h => by cases h
  | .stop _, _, h => by cases h

theorem denoteConditions_of_readConditions (o : Origin) : (ns : List Node) →
    {cs : List Condition} → readConditions o ns = .ok cs →
    Node.ItemsWellFormed ns ∧ DenoteConditions ns cs
  | [], _, h => by
    cases h
    exact ⟨trivial, .nil⟩
  | n :: ns, cs, h => by
    rw [readConditions] at h
    obtain ⟨c, hc, h⟩ := bind_eq_ok_iff.1 h
    obtain ⟨cs', hcs, h⟩ := bind_eq_ok_iff.1 h
    cases h
    obtain ⟨hn, hcondition⟩ := denotesCondition_of_readCondition o n hc
    obtain ⟨hns, hconditions⟩ := denoteConditions_of_readConditions o ns hcs
    exact ⟨⟨hn, hns⟩, .cons hcondition hconditions⟩

theorem denotesCondition_of_readCondition (o : Origin) : (n : Node) → {c : Condition} →
    readCondition o n = .ok c → n.WellFormed ∧ DenotesCondition n c
  | .array items stop, c, h => by
    rw [readCondition] at h
    obtain ⟨i, -, h⟩ := bind_eq_ok_iff.1 h
    obtain ⟨⟨path, operator, operand⟩, ht, h⟩ := bind_eq_ok_iff.1 h
    cases h
    obtain ⟨rfl, ⟨rfl, rfl⟩ | ⟨j, rfl, -, rfl⟩⟩ := readTriple_eq_ok_iff.1 ht
    · exact ⟨⟨⟨trivial, trivial, trivial⟩, rfl⟩, .pair path operator⟩
    · exact ⟨⟨⟨trivial, trivial, Node.wellFormed_ofJson j, trivial⟩, rfl⟩, .triple path operator j⟩
  | .object members stop, c, h => by
    rw [readCondition] at h
    obtain ⟨i, gs, -, hgs, rfl, rfl⟩ := Json.container_eq_ok_iff.1 h
    obtain ⟨hformed, hgroups⟩ := denoteGroups_of_readGroups i members hgs
    exact ⟨⟨hformed, rfl⟩, .nested (.object hgroups)⟩
  | .null, _, h => by cases h
  | .bool _, _, h => by cases h
  | .number none, _, h => by cases h
  | .number (some (.int _ _)), _, h => by cases h
  | .number (some (.float _ _)), _, h => by cases h
  | .string (.ok _), _, h => by cases h
  | .string (.error _), _, h => by cases h
  | .stop _, _, h => by cases h

end

/-! ## §3. What has this form is read. -/

mutual

/-- **What has the form of a filter is read**, where it does not nest too deep. -/
theorem read_of_denotes {o : Origin} {n : Node} {f : Filter} (h : Denotes n f)
    (hformed : n.WellFormed) (hdepth : o.Admits n.depth) : read o n = .ok f := by
  cases h with
  | object hgroups =>
    obtain ⟨i, hi, hmembers⟩ := Json.Origin.admits_succ_iff.1 hdepth
    rw [read]
    exact Json.container_eq_ok_iff.2
      ⟨i, _, hi, readGroups_of_denote hgroups hformed.1 hmembers, rfl, rfl⟩
  | list hconditions =>
    obtain ⟨i, hi, hitems⟩ := Json.Origin.admits_succ_iff.1 hdepth
    rw [read]
    exact Json.container_eq_ok_iff.2
      ⟨i, _, hi, readConditions_of_denote hconditions hformed.1 hitems, rfl, rfl⟩

theorem readGroups_of_denote {o : Origin} {ms : List (Except Fault String × Node)}
    {gs : List (Logic × List Condition)} (h : DenoteGroups ms gs)
    (hformed : Node.MembersWellFormed ms) (hdepth : o.Admits (Node.membersDepth ms)) :
    readGroups o ms = .ok gs := by
  cases h with
  | nil => rfl
  | @group logic items cs ms gs hconditions hgroups =>
    obtain ⟨hlist, hms⟩ := Json.Origin.admits_max_iff.1 hdepth
    obtain ⟨i, hi, hitems⟩ := Json.Origin.admits_succ_iff.1 hlist
    have hmembers : readMembers o (.array items none) = .ok cs := by
      rw [readMembers]
      exact Json.container_eq_ok_iff.2
        ⟨i, _, hi, readConditions_of_denote hconditions hformed.1.1 hitems, rfl, rfl⟩
    rw [readGroups]
    refine bind_eq_ok_iff.2 ⟨logic.key, rfl, ?_⟩
    rw [logicOfKey?_eq_some_iff.2 rfl]
    exact bind_eq_ok_iff.2 ⟨cs, hmembers, bind_eq_ok_iff.2
      ⟨gs, readGroups_of_denote hgroups hformed.2 hms, rfl⟩⟩
  | @other key n ms _ hkey hgroups =>
    obtain ⟨-, hms⟩ := Json.Origin.admits_max_iff.1 hdepth
    have hskip : Json.Reading.ofText (Json.skip n) = .ok () :=
      Json.ofText_eq_ok_iff.2 ((Json.skip_eq_ok_iff n).2 hformed.1)
    rw [readGroups]
    refine bind_eq_ok_iff.2 ⟨key, rfl, ?_⟩
    rw [logicOfKey?_eq_none_iff.2 hkey]
    exact bind_eq_ok_iff.2 ⟨(), hskip, readGroups_of_denote hgroups hformed.2 hms⟩

theorem readConditions_of_denote {o : Origin} {ns : List Node} {cs : List Condition}
    (h : DenoteConditions ns cs) (hformed : Node.ItemsWellFormed ns)
    (hdepth : o.Admits (Node.itemsDepth ns)) : readConditions o ns = .ok cs := by
  cases h with
  | nil => rfl
  | cons hcondition hconditions =>
    obtain ⟨hn, hns⟩ := Json.Origin.admits_max_iff.1 hdepth
    rw [readConditions]
    exact bind_eq_ok_iff.2 ⟨_, readCondition_of_denotes hcondition hformed.1 hn,
      bind_eq_ok_iff.2 ⟨_, readConditions_of_denote hconditions hformed.2 hns, rfl⟩⟩

theorem readCondition_of_denotes {o : Origin} {n : Node} {c : Condition}
    (h : DenotesCondition n c) (hformed : n.WellFormed) (hdepth : o.Admits n.depth) :
    readCondition o n = .ok c := by
  cases h with
  | pair path operator =>
    obtain ⟨i, hi, -⟩ := Json.Origin.admits_succ_iff.1 hdepth
    rw [readCondition]
    exact bind_eq_ok_iff.2 ⟨i, hi, rfl⟩
  | triple path operator operand =>
    obtain ⟨i, hi, hitems⟩ := Json.Origin.admits_succ_iff.1 hdepth
    have hoperand : i.Admits operand.depth := by
      rw [← Node.depth_ofJson]
      exact hitems.mono (by simp only [Node.itemsDepth]; omega)
    rw [readCondition]
    exact bind_eq_ok_iff.2 ⟨i, hi, bind_eq_ok_iff.2
      ⟨_, readTriple_eq_ok_iff.2 ⟨rfl, Or.inr ⟨operand, rfl, hoperand, rfl⟩⟩, rfl⟩⟩
  | nested hnested =>
    cases hnested with
    | object hgroups =>
      obtain ⟨i, hi, hmembers⟩ := Json.Origin.admits_succ_iff.1 hdepth
      rw [readCondition]
      exact Json.container_eq_ok_iff.2
        ⟨i, _, hi, readGroups_of_denote hgroups hformed.1 hmembers, rfl, rfl⟩

end

/-! ## §4. Texts. -/

end Filter

end CardStore
