import Mathlib.Data.List.Forall2
import Mathlib.Data.List.Nodup
import Mathlib.Order.Lattice

/-!
# List lemmas

Facts about lists that several parts of the theory use.
-/

namespace IfaceGen

/-- Where keys are distinct, `List.find?` finds an element by its key. -/
theorem find?_key_eq_some {α κ : Type} [DecidableEq κ] {key : α → κ} {xs : List α}
    (hnodup : (xs.map key).Nodup) {x : α} (hx : x ∈ xs) :
    xs.find? (key · = key x) = some x := by
  cases hfind : xs.find? (key · = key x) with
  | none => exact absurd (decide_eq_true rfl) (List.find?_eq_none.1 hfind x hx)
  | some y =>
    have hkey : key y = key x := by simpa using List.find?_some hfind
    rw [List.inj_on_of_nodup_map hnodup (List.mem_of_find?_eq_some hfind) hx hkey]

/-- Where keys are distinct, an element is the only one with its key, so that `List.filter` leaves
    nothing else. -/
theorem filter_key_eq_singleton {α κ : Type} [DecidableEq κ] {key : α → κ} {xs : List α}
    (hnodup : (xs.map key).Nodup) {x : α} (hx : x ∈ xs) :
    xs.filter (key · = key x) = [x] := by
  induction xs with
  | nil => exact nomatch hx
  | cons y ys ih =>
    rw [List.map_cons, List.nodup_cons] at hnodup
    by_cases hkey : key y = key x
    · -- The element stands in front: its key does not come again.
      have hrest : ys.filter (key · = key x) = [] := by
        rw [List.filter_eq_nil_iff]
        intro z hz hzx
        exact hnodup.1 (hkey ▸ of_decide_eq_true hzx ▸ List.mem_map_of_mem hz)
      rw [List.filter_cons, if_pos (decide_eq_true hkey), hrest]
      rcases List.mem_cons.1 hx with rfl | hx
      · rfl
      · exact absurd (hkey ▸ List.mem_map_of_mem hx) hnodup.1
    · rw [List.filter_cons, if_neg (by simpa using hkey)]
      rcases List.mem_cons.1 hx with rfl | hx
      · exact absurd rfl hkey
      · exact ih hnodup.2 hx

/-- Of the elements with a property there is a last one. -/
theorem exists_last {α : Type} {p : α → Prop} {xs : List α} (h : ∃ x ∈ xs, p x) :
    ∃ before x after, xs = before ++ x :: after ∧ p x ∧ ∀ y ∈ after, ¬ p y := by
  induction xs with
  | nil =>
    obtain ⟨x, hx, -⟩ := h
    exact nomatch hx
  | cons first xs ih =>
    by_cases hlater : ∃ x ∈ xs, p x
    · obtain ⟨before, x, after, rfl, hx, hafter⟩ := ih hlater
      exact ⟨first :: before, x, after, rfl, hx, hafter⟩
    · obtain ⟨x, hx, hpx⟩ := h
      have hnone : ∀ y ∈ xs, ¬ p y := fun y hy hpy => hlater ⟨y, hy, hpy⟩
      rcases List.mem_cons.1 hx with rfl | hx
      · exact ⟨[], x, xs, rfl, hpx, hnone⟩
      · exact absurd hpx (hnone x hx)

/-- The first element with a property stands at the front of a list or in the rest. -/
theorem exists_split_cons_iff {α : Type} {p q : α → Prop} {y : α} {ys : List α} :
    (∃ before x after, y :: ys = before ++ x :: after ∧ p x ∧ ∀ z ∈ before, q z) ↔
      p y ∨ q y ∧ ∃ before x after, ys = before ++ x :: after ∧ p x ∧ ∀ z ∈ before, q z := by
  constructor
  · rintro ⟨before, x, after, hsplit, hx, hbefore⟩
    -- The list is split at its first element or further behind.
    cases before with
    | nil =>
      cases hsplit
      exact .inl hx
    | cons first before =>
      cases hsplit
      rw [List.forall_mem_cons] at hbefore
      exact .inr ⟨hbefore.1, before, x, after, rfl, hx, hbefore.2⟩
  · rintro (hy | ⟨hy, before, x, after, rfl, hx, hbefore⟩)
    · exact ⟨[], y, ys, rfl, hy, fun _ hz => nomatch hz⟩
    · exact ⟨y :: before, x, after, rfl, hx, List.forall_mem_cons.2 ⟨hy, hbefore⟩⟩

/-- In a list that is in order, what comes before an element is what is smaller. -/
theorem exists_split_first_iff {α : Type} {r : α → α → Prop} (hasymm : ∀ a b, r a b → ¬ r b a)
    {xs : List α} (hsorted : xs.Pairwise r) {p q : α → Prop} :
    (∃ before x after, xs = before ++ x :: after ∧ p x ∧ ∀ y ∈ before, q y) ↔
      ∃ x ∈ xs, p x ∧ ∀ y ∈ xs, r y x → q y := by
  constructor
  · -- What is smaller than `x` can stand neither at its place nor behind it.
    rintro ⟨before, x, after, rfl, hx, hbefore⟩
    refine ⟨x, List.mem_append_right _ List.mem_cons_self, hx, fun y hy hyx => ?_⟩
    rw [List.pairwise_append, List.pairwise_cons] at hsorted
    rcases List.mem_append.1 hy with hy | hy
    · exact hbefore y hy
    · rcases List.mem_cons.1 hy with rfl | hy
      · exact absurd hyx (hasymm _ _ hyx)
      · exact absurd hyx (hasymm _ _ (hsorted.2.1.1 y hy))
  · rintro ⟨x, hmem, hx, hsmaller⟩
    obtain ⟨before, after, rfl⟩ := List.append_of_mem hmem
    refine ⟨before, x, after, rfl, hx, fun y hy => ?_⟩
    rw [List.pairwise_append] at hsorted
    exact hsmaller y (List.mem_append_left _ hy) (hsorted.2.2 y hy x List.mem_cons_self)

/-! ## Sorting by a key -/

section SortByKey

variable {α κ : Type} [LinearOrder κ] {key : α → κ}

/-- The comparison of keys is transitive, as `List.mergeSort` needs it. -/
theorem decide_key_le_trans (a b c : α) (hab : decide (key a ≤ key b) = true)
    (hbc : decide (key b ≤ key c) = true) : decide (key a ≤ key c) = true :=
  decide_eq_true (le_trans (of_decide_eq_true hab) (of_decide_eq_true hbc))

/-- The comparison of keys is total, as `List.mergeSort` needs it. -/
theorem decide_key_le_total (a b : α) :
    (decide (key a ≤ key b) || decide (key b ≤ key a)) = true := by
  simpa using le_total (key a) (key b)

/-- `List.mergeSort` by a key brings the keys in order. -/
theorem pairwise_mergeSort_key (xs : List α) :
    (xs.mergeSort (fun a b => key a ≤ key b)).Pairwise (fun a b => key a ≤ key b) :=
  (List.pairwise_mergeSort decide_key_le_trans decide_key_le_total xs).imp of_decide_eq_true

/-- `List.mergeSort` by a key leaves elements with one key in the order in which they were. -/
theorem filter_key_mergeSort (xs : List α) (k : κ) :
    (xs.mergeSort (fun a b => key a ≤ key b)).filter (key · = k) = xs.filter (key · = k) := by
  have hsame : (xs.filter (key · = k)).Pairwise fun a b => decide (key a ≤ key b) = true := by
    refine List.pairwise_of_forall_mem_list fun a ha b hb => ?_
    have ha : key a = k := by simpa using (List.mem_filter.1 ha).2
    have hb : key b = k := by simpa using (List.mem_filter.1 hb).2
    exact decide_eq_true (ha.trans hb.symm).le
  have hsub : (xs.filter (key · = k)).Sublist (xs.mergeSort fun a b => key a ≤ key b) :=
    List.sublist_mergeSort decide_key_le_trans decide_key_le_total hsame List.filter_sublist
  -- The elements with the key stand in the sorted list in the old order, and there are no others.
  have hfilter := hsub.filter (key · = k)
  rw [List.filter_filter, List.filter_congr (fun a _ => Bool.and_self _)] at hfilter
  refine (hfilter.eq_of_length ?_).symm
  exact ((List.mergeSort_perm xs _).filter (key · = k)).length_eq.symm

/-- Two lists in the order of their keys are equal if they have the same elements for each key, in
    the same order. -/
theorem eq_of_filter_key_eq {xs ys : List α} (hxs : xs.Pairwise (fun a b => key a ≤ key b))
    (hys : ys.Pairwise (fun a b => key a ≤ key b))
    (h : ∀ k, xs.filter (key · = k) = ys.filter (key · = k)) : xs = ys := by
  induction xs generalizing ys with
  | nil =>
    refine (List.eq_nil_iff_forall_not_mem.2 fun y hy => ?_).symm
    have hmem : y ∈ ys.filter (key · = key y) := List.mem_filter.2 ⟨hy, decide_eq_true rfl⟩
    rw [← h (key y)] at hmem
    exact nomatch hmem
  | cons x xs ih =>
    have hx : x ∈ ys.filter (key · = key x) := by
      rw [← h (key x)]
      exact List.mem_filter.2 ⟨List.mem_cons_self, decide_eq_true rfl⟩
    cases ys with
    | nil => exact nomatch hx
    | cons y ys =>
      have hy : y ∈ (x :: xs).filter (key · = key y) := by
        rw [h (key y)]
        exact List.mem_filter.2 ⟨List.mem_cons_self, decide_eq_true rfl⟩
      -- Each of the first elements stands in the other list, so that neither key is smaller.
      have hkey : key x = key y := by
        have hle {a b : α} {bs : List α} (hb : (b :: bs).Pairwise fun a b => key a ≤ key b)
            (ha : a ∈ b :: bs) : key b ≤ key a := by
          rcases List.mem_cons.1 ha with rfl | ha
          · exact le_rfl
          · exact List.rel_of_pairwise_cons hb ha
        exact le_antisymm (hle hxs (List.mem_filter.1 hy).1) (hle hys (List.mem_filter.1 hx).1)
      have hfirst := h (key x)
      rw [List.filter_cons, if_pos (decide_eq_true rfl), List.filter_cons,
        if_pos (decide_eq_true hkey.symm)] at hfirst
      obtain ⟨rfl, -⟩ := List.cons.inj hfirst
      -- Without the first element both lists still agree on every key.
      rw [ih hxs.of_cons hys.of_cons fun k => ?_]
      have hrest := h k
      rw [List.filter_cons, List.filter_cons] at hrest
      split at hrest
      · exact (List.cons.inj hrest).2
      · exact hrest

/-- Where keys are distinct, `List.mergeSort` by key forgets the order of the list. -/
theorem mergeSort_eq_of_perm {xs ys : List α} (hperm : xs.Perm ys)
    (hnodup : (xs.map key).Nodup) :
    xs.mergeSort (fun a b => key a ≤ key b) = ys.mergeSort (fun a b => key a ≤ key b) := by
  refine List.Perm.eq_of_pairwise (fun a b ha hb hab hba => ?_) (pairwise_mergeSort_key xs)
    (pairwise_mergeSort_key ys) ?_
  · have ha' : a ∈ xs := List.mem_mergeSort.1 ha
    have hb' : b ∈ xs := hperm.mem_iff.2 (List.mem_mergeSort.1 hb)
    exact List.inj_on_of_nodup_map hnodup ha' hb' (le_antisymm hab hba)
  · exact (List.mergeSort_perm _ _).trans (hperm.trans (List.mergeSort_perm _ _).symm)

end SortByKey

section Forall₂

variable {α β : Type} {r : α → β → Prop} {xs : List α} {ys : List β}

/-- Of two lists that are related by `List.Forall₂`, every element has a partner. -/
theorem exists_right_of_forall₂ (h : List.Forall₂ r xs ys) {x : α} (hx : x ∈ xs) :
    ∃ y ∈ ys, r x y := by
  induction h with
  | nil => exact nomatch hx
  | @cons first second _ _ hfirst _ ih =>
    rcases List.mem_cons.1 hx with rfl | hx
    · exact ⟨second, List.mem_cons_self, hfirst⟩
    · obtain ⟨y, hy, hxy⟩ := ih hx
      exact ⟨y, List.mem_cons_of_mem _ hy, hxy⟩

theorem exists_left_of_forall₂ (h : List.Forall₂ r xs ys) {y : β} (hy : y ∈ ys) :
    ∃ x ∈ xs, r x y :=
  exists_right_of_forall₂ h.flip hy

/-- The partners in two lists that are related are elements of these lists. -/
theorem forall₂_and_mem (h : List.Forall₂ r xs ys) :
    List.Forall₂ (fun x y => r x y ∧ x ∈ xs ∧ y ∈ ys) xs ys := by
  induction h with
  | nil => exact .nil
  | cons hfirst _ ih =>
    refine .cons ⟨hfirst, List.mem_cons_self, List.mem_cons_self⟩ (ih.imp fun x y hxy => ?_)
    exact ⟨hxy.1, List.mem_cons_of_mem _ hxy.2.1, List.mem_cons_of_mem _ hxy.2.2⟩

/-- Of two lists that are related, a relation that comes down to a property of the right partners
    holds throughout if and only if all of them have the property. -/
theorem forall₂_iff_forall_mem {s : α → β → Prop} {p : β → Prop} (h : List.Forall₂ r xs ys)
    (hiff : ∀ x y, r x y → (s x y ↔ p y)) : List.Forall₂ s xs ys ↔ ∀ y ∈ ys, p y := by
  induction h with
  | nil => simp
  | cons hfirst _ ih => rw [List.forall₂_cons, List.forall_mem_cons, ih, hiff _ _ hfirst]

/-- What `List.filterMap` gives for the elements of a list, where the function is defined on those
    with a property. -/
theorem forall₂_filterMap {f : α → Option β} {p : α → Prop} [DecidablePred p]
    (hnone : ∀ x, f x = none → ¬ p x) (hsome : ∀ x y, f x = some y → p x ∧ r x y) (xs : List α) :
    List.Forall₂ r (xs.filter p) (xs.filterMap f) := by
  induction xs with
  | nil => exact .nil
  | cons x xs ih =>
    cases hfound : f x with
    | none =>
      rw [List.filter_cons_of_neg (by simpa using hnone x hfound), List.filterMap_cons_none hfound]
      exact ih
    | some y =>
      obtain ⟨hp, hr⟩ := hsome x y hfound
      rw [List.filter_cons_of_pos (by simpa using hp), List.filterMap_cons_some hfound]
      exact .cons hr ih

/-- There is no partner for the elements with a property if and only if no element has it. -/
theorem eq_nil_iff_of_forall₂_filter {p : α → Prop} [DecidablePred p]
    (h : List.Forall₂ r (xs.filter p) ys) : ys = [] ↔ ∀ x ∈ xs, ¬ p x := by
  rw [← List.length_eq_zero_iff, ← h.length_eq, List.length_eq_zero_iff, List.filter_eq_nil_iff]
  simp only [decide_eq_true_eq]

end Forall₂

/-- What `List.findSome?` finds depends on the elements of the list only. -/
theorem findSome?_congr {α β : Type} {f g : α → Option β} {xs : List α}
    (h : ∀ x ∈ xs, f x = g x) : xs.findSome? f = xs.findSome? g := by
  induction xs with
  | nil => rfl
  | cons x xs ih =>
    rw [List.findSome?_cons, List.findSome?_cons, h x List.mem_cons_self,
      ih fun y hy => h y (List.mem_cons_of_mem _ hy)]

/-- Of lists that are related element by element the last elements are related, if there are any. -/
theorem forall₂_getLast? {α β : Type} {R : α → β → Prop} {xs : List α} {ys : List β}
    (h : List.Forall₂ R xs ys) : Option.Rel R xs.getLast? ys.getLast? := by
  induction h with
  | nil => exact .none
  | cons hxy hrest ih =>
    cases hrest with
    | nil => exact .some hxy
    | cons _ _ => simpa only [List.getLast?_cons_cons] using ih

end IfaceGen
