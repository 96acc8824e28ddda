/-
  CardStore.Proofs.Lists
  ──────────────────────
  **FIRST OCCURRENCES, LISTS SIDE BY SIDE, NAMES, STEPS AND CHAINS.**

  A list that is gone through once, everything being kept that has not been
  met before, is kept in the order of first occurrences.  What has been kept
  already need not be gone through again.

  Main statements:
    * `nodup_eraseDups` — nothing is kept twice.
    * `eraseDups_append_of_subset` — what has been met before adds nothing.
    * `eraseDups_eraseDups_append` — a list can be gone through in two parts.
    * `pairwise_idxOf_eraseDups` — what is kept stands in the order of first occurrences.
    * `exists_getElem?_of_forall₂`, `rel_getElem?_of_forall₂` — what stands beside an element.
    * `find?_of_nodup` — an element is found by a name that no other one has.
    * `keeps_of_foldlM` — what each step keeps is kept by all of them.
    * `isChain_intercalate_of_free` — chains with an element between them that goes with all.
-/
import Mathlib.Data.List.Chain
import Mathlib.Data.List.Forall2
import Mathlib.Data.List.Nodup

namespace CardStore

/-! ## §1. First occurrences. -/

section

variable {α : Type} [BEq α] [LawfulBEq α]

/-- Nothing is kept twice.  What is left of the list gets shorter with everything that is kept. -/
theorem nodup_eraseDups (l : List α) : l.eraseDups.Nodup := by
  induction hn : l.length using Nat.strongRecOn generalizing l with
  | ind n ih =>
    cases l with
    | nil => exact List.nodup_nil
    | cons a l =>
      rw [List.eraseDups_cons, List.nodup_cons, List.mem_eraseDups]
      refine ⟨by simp, ih _ ?_ _ rfl⟩
      rw [← hn, List.length_cons]
      exact Nat.lt_succ_of_le (List.length_filter_le _ l)

/-- A list without repetitions is kept as it is. -/
theorem eraseDups_eq_self {l : List α} (h : l.Nodup) : l.eraseDups = l := by
  induction l with
  | nil => rfl
  | cons a l ih =>
    rw [List.nodup_cons] at h
    have hfilter : l.filter (fun b => !b == a) = l := by
      rw [List.filter_eq_self]
      intro b hb
      have hne : b ≠ a := fun hba => h.1 (hba ▸ hb)
      simpa using hne
    rw [List.eraseDups_cons, hfilter, ih h.2]

omit [LawfulBEq α] in
theorem removeAll_append (l m n : List α) :
    (l ++ m).removeAll n = l.removeAll n ++ m.removeAll n :=
  List.filter_append l m

theorem removeAll_eq_nil {l m : List α} (h : ∀ a ∈ l, a ∈ m) : l.removeAll m = [] := by
  rw [List.removeAll, List.filter_eq_nil_iff]
  intro a ha
  simpa using h a ha

/-- **What has been met before** adds nothing. -/
theorem eraseDups_append_of_subset {l m : List α} (h : ∀ a ∈ m, a ∈ l) (n : List α) :
    (l ++ (m ++ n)).eraseDups = (l ++ n).eraseDups := by
  rw [List.eraseDups_append, List.eraseDups_append, removeAll_append, removeAll_eq_nil h,
    List.nil_append]

/-- **A list can be gone through in two parts.** -/
theorem eraseDups_eraseDups_append (l m : List α) :
    (l.eraseDups ++ m).eraseDups = (l ++ m).eraseDups := by
  have hremoved : m.removeAll l.eraseDups = m.removeAll l := by
    rw [List.removeAll, List.removeAll]
    apply List.filter_congr
    intro a _
    have hmem : l.eraseDups.elem a = l.elem a := by
      rw [Bool.eq_iff_iff, List.elem_iff, List.elem_iff, List.mem_eraseDups]
    rw [hmem]
  rw [List.eraseDups_append, List.eraseDups_append, eraseDups_eq_self (nodup_eraseDups l), hremoved]

theorem eraseDups_concat (l : List α) (a : α) :
    (l ++ [a]).eraseDups = if a ∈ l then l.eraseDups else l.eraseDups ++ [a] := by
  split
  · rename_i ha
    have hmet : ∀ b ∈ [a], b ∈ l := by
      intro b hb
      rw [List.mem_singleton.1 hb]
      exact ha
    simpa using eraseDups_append_of_subset hmet []
  · rename_i ha
    have hnew : [a].removeAll l = [a] := by
      simp [List.cons_removeAll, ha]
    rw [List.eraseDups_append, hnew]
    rfl

/-- **What is kept stands in the order of first occurrences.**  The list is built up as it is gone
through, since what comes behind does not change where something stood first. -/
theorem pairwise_idxOf_eraseDups (l : List α) :
    l.eraseDups.Pairwise fun a b => l.idxOf a < l.idxOf b := by
  induction l using List.reverseRecOn with
  | nil => exact .nil
  | append_singleton l c ih =>
    have hkept : l.eraseDups.Pairwise fun a b => (l ++ [c]).idxOf a < (l ++ [c]).idxOf b := by
      refine ih.imp_of_mem fun ha hb hab => ?_
      rw [List.idxOf_append_of_mem (List.mem_eraseDups.1 ha),
        List.idxOf_append_of_mem (List.mem_eraseDups.1 hb)]
      exact hab
    rw [eraseDups_concat]
    split
    · exact hkept
    · rename_i hc
      refine List.pairwise_append.2 ⟨hkept, List.pairwise_singleton _ _, ?_⟩
      intro a ha b hb
      have hmem : a ∈ l := List.mem_eraseDups.1 ha
      rw [List.mem_singleton.1 hb, List.idxOf_append_of_mem hmem, List.idxOf_append_of_notMem hc]
      exact Nat.lt_add_right _ (List.idxOf_lt_length_of_mem hmem)

end

/-! ## §2. Lists side by side. -/

/-- What stands beside an element of one of two related lists. -/
theorem exists_getElem?_of_forall₂ {α β : Type} {R : α → β → Prop} {as : List α} {bs : List β}
    (h : List.Forall₂ R as bs) :
    ∀ {i : Nat} {a : α}, as[i]? = some a → ∃ b, bs[i]? = some b ∧ R a b := by
  induction h with
  | nil =>
    intro i a ha
    cases ha
  | @cons a' b' as bs hab _ ih =>
    intro i a ha
    cases i with
    | zero =>
      rw [← Option.some.inj ha]
      exact ⟨b', rfl, hab⟩
    | succ i => exact ih ha

/-- What stands at a position of two related lists is related. -/
theorem rel_getElem?_of_forall₂ {α β : Type} {R : α → β → Prop} {as : List α} {bs : List β}
    (h : List.Forall₂ R as bs) : ∀ i : Nat, Option.Rel R as[i]? bs[i]? := by
  induction h with
  | nil => exact fun _ => .none
  | cons hab _ ih =>
    intro i
    cases i with
    | zero => exact .some hab
    | succ i => exact ih i

/-- What stands beside two related lists is related if it is element by element. -/
theorem forall₂_of_beside {α β γ δ : Type} {R : α → β → Prop} {S : α → γ → Prop}
    {T : β → δ → Prop} {P : γ → δ → Prop} (hp : ∀ a b c d, R a b → S a c → T b d → P c d)
    {as : List α} {bs : List β} (h : List.Forall₂ R as bs) : ∀ {cs : List γ} {ds : List δ},
      List.Forall₂ S as cs → List.Forall₂ T bs ds → List.Forall₂ P cs ds := by
  induction h with
  | nil =>
    intro cs ds hs ht
    rw [List.forall₂_nil_left_iff.1 hs, List.forall₂_nil_left_iff.1 ht]
    exact .nil
  | cons hab _ ih =>
    intro cs ds hs ht
    obtain ⟨c, cs', hc, hcs, rfl⟩ := List.forall₂_cons_left_iff.1 hs
    obtain ⟨d, ds', hd, hds, rfl⟩ := List.forall₂_cons_left_iff.1 ht
    exact .cons (hp _ _ _ _ hab hc hd) (ih hcs hds)

/-! ## §3. Names. -/

/-- **An element is found** by a name that no other one has. -/
theorem find?_of_nodup {α β : Type} [BEq β] [LawfulBEq β] {name : α → β} {l : List α} {a : α}
    (hnodup : (l.map name).Nodup) (ha : a ∈ l) : l.find? (name · == name a) = some a := by
  induction l with
  | nil => cases ha
  | cons b l ih =>
    rw [List.map_cons, List.nodup_cons] at hnodup
    rcases List.mem_cons.1 ha with rfl | ha
    · exact List.find?_cons_of_pos (beq_self_eq_true _)
    · have hne : name b ≠ name a := fun hba => hnodup.1 (hba ▸ List.mem_map_of_mem ha)
      rw [List.find?_cons_of_neg (by simpa using hne), ih hnodup.2 ha]

/-! ## §4. Steps. -/

/-- **What each step keeps** is kept by steps one after another, if all of them can be taken. -/
theorem keeps_of_foldlM {α β : Type*} {step : β → α → Option β} (Law : β → Prop) :
    ∀ (l : List α) {b b' : β}, (∀ a ∈ l, ∀ {b b' : β}, step b a = some b' → Law b → Law b') →
      l.foldlM step b = some b' → Law b → Law b' := by
  intro l
  induction l with
  | nil =>
    intro b b' _ h hb
    rw [← Option.some.inj h]
    exact hb
  | cons a l ih =>
    intro b b' hstep h hb
    obtain ⟨b'', ha, hl⟩ := Option.bind_eq_some_iff.1 h
    exact ih (fun a ha => hstep a (.tail _ ha)) hl (hstep a (.head _) ha hb)

/-! ## §5. Chains. -/

section

variable {α : Type} {R : α → α → Prop} {m : α} (hl : ∀ a, R m a) (hr : ∀ a, R a m)

include hl hr

/-- Behind an element that goes with all others a chain goes on as it likes. -/
theorem isChain_append_of_free {as bs : List α} (ha : as.IsChain R) (hb : bs.IsChain R) :
    (as ++ m :: bs).IsChain R := by
  rw [List.isChain_append]
  refine ⟨ha, ?_, ?_⟩
  · rw [List.isChain_cons]
    exact ⟨fun b _ => hl b, hb⟩
  · intro a _ b hb
    rw [← Option.some.inj hb]
    exact hr a

theorem isChain_intercalate_of_free {parts : List (List α)}
    (h : ∀ part ∈ parts, part.IsChain R) : ([m].intercalate parts).IsChain R := by
  induction parts with
  | nil => exact .nil
  | cons part parts ih =>
    cases parts with
    | nil =>
      rw [List.intercalate_singleton]
      exact h part List.mem_cons_self
    | cons part' parts =>
      rw [List.intercalate_cons_cons, List.append_assoc]
      exact isChain_append_of_free hl hr (h part List.mem_cons_self)
        (ih fun other hother => h other (List.mem_cons_of_mem _ hother))

end

end CardStore
