import IfaceGen.MethodSet.Search
import Mathlib.Data.List.Nodup

/-!
# Merging types reached more than once

Whether a name is ambiguous depends on two questions only: does it occur, and is there exactly one
occurrence. `Alike` lists answer both in the same way. An embedding that is marked as reached on
several ways stands for two copies of itself (`Embedding.copies`), and with that reading a level
and its consolidation are alike, one key at a time.

## Key results

- `AlikeOn.flatMap`: what alike levels bring in is alike, if what a type brings in is empty or not
  by its key alone
- `alikeOn_consolidate`: a consolidated level is alike to the level, for all types that are fresh
-/

namespace IfaceGen

/-! ## Lists that answer alike -/

/-- Both lists are empty, or both have the same single element, or both have several. -/
def Alike {α : Type} (xs ys : List α) : Prop :=
  (xs = [] ↔ ys = []) ∧ ∀ a, xs = [a] ↔ ys = [a]

namespace Alike

variable {α : Type} {xs ys zs : List α}

theorem refl (xs : List α) : Alike xs xs := ⟨Iff.rfl, fun _ => Iff.rfl⟩

theorem of_eq (h : xs = ys) : Alike xs ys := h ▸ refl xs

theorem symm (h : Alike xs ys) : Alike ys xs := ⟨h.1.symm, fun a => (h.2 a).symm⟩

theorem trans (h : Alike xs ys) (h' : Alike ys zs) : Alike xs zs :=
  ⟨h.1.trans h'.1, fun a => (h.2 a).trans (h'.2 a)⟩

/-- For `Alike` lists the order does not matter. -/
theorem of_perm (h : xs.Perm ys) : Alike xs ys := by
  refine ⟨⟨?_, ?_⟩, fun a => ⟨?_, ?_⟩⟩
  · rintro rfl; exact h.symm.eq_nil
  · rintro rfl; exact h.eq_nil
  · rintro rfl; exact h.symm.eq_singleton
  · rintro rfl; exact h.eq_singleton

/-- Lists with several elements are `Alike`, whatever the elements are. -/
theorem of_two_le (hx : 2 ≤ xs.length) (hy : 2 ≤ ys.length) : Alike xs ys := by
  refine ⟨⟨?_, ?_⟩, fun a => ⟨?_, ?_⟩⟩
  · rintro rfl; simp at hx
  · rintro rfl; simp at hy
  · rintro rfl; simp at hx
  · rintro rfl; simp at hy

theorem append_right (h : Alike xs ys) (zs : List α) : Alike (xs ++ zs) (ys ++ zs) := by
  refine ⟨?_, fun a => ?_⟩
  · rw [List.append_eq_nil_iff, List.append_eq_nil_iff, h.1]
  · rw [List.append_eq_singleton_iff, List.append_eq_singleton_iff, h.1, h.2 a]

end Alike

/-! ## Lists that are alike key by key -/

section Keys

variable {α κ β : Type} [DecidableEq κ] {key : α → κ}

/-- The lists are `Alike` for each of the given keys. -/
def AlikeOn (key : α → κ) (keys : List κ) (xs ys : List α) : Prop :=
  ∀ k ∈ keys, Alike (xs.filter (key · = k)) (ys.filter (key · = k))

theorem AlikeOn.symm {keys : List κ} {xs ys : List α} (h : AlikeOn key keys xs ys) :
    AlikeOn key keys ys xs := fun k hk => (h k hk).symm

theorem AlikeOn.trans {keys : List κ} {xs ys zs : List α} (h : AlikeOn key keys xs ys)
    (h' : AlikeOn key keys ys zs) : AlikeOn key keys xs zs := fun k hk => (h k hk).trans (h' k hk)

/-- A key that stands in one list stands in the other. -/
theorem AlikeOn.exists_mem {keys : List κ} {xs ys : List α} (h : AlikeOn key keys xs ys) {y : α}
    (hy : y ∈ ys) (hkey : key y ∈ keys) : ∃ x ∈ xs, key x = key y := by
  have hne : ys.filter (key · = key y) ≠ [] :=
    List.ne_nil_of_mem (List.mem_filter.2 ⟨hy, by simp⟩)
  obtain ⟨x, hx⟩ := List.exists_mem_of_ne_nil _ (mt (h _ hkey).1.1 hne)
  rw [List.mem_filter, decide_eq_true_eq] at hx
  exact ⟨x, hx⟩

/-- Where every element brings something in, there are no fewer things than elements. -/
theorem length_le_length_flatMap {g : α → List β} {xs : List α} (h : ∀ x ∈ xs, g x ≠ []) :
    xs.length ≤ (xs.flatMap g).length := by
  induction xs with
  | nil => simp
  | cons x xs ih =>
    have hx := List.length_pos_iff.2 (h x List.mem_cons_self)
    have hxs := ih fun y hy => h y (List.mem_cons_of_mem _ hy)
    simp only [List.flatMap_cons, List.length_cons, List.length_append]
    omega

/-- All things together are no fewer than those of one element. -/
theorem length_le_length_flatMap_of_mem {g : α → List β} {xs : List α} {x : α} (h : x ∈ xs) :
    (g x).length ≤ (xs.flatMap g).length := by
  obtain ⟨before, behind, rfl⟩ := List.append_of_mem h
  simp only [List.flatMap_append, List.flatMap_cons, List.length_append]
  omega

/-- The elements with one key, and then those with other keys. -/
theorem flatMap_perm_by_key (key : α → κ) (g : α → List β) (k : κ) (xs : List α) :
    ((xs.filter (key · = k)).flatMap g ++ (xs.filter fun x => !decide (key x = k)).flatMap g).Perm
      (xs.flatMap g) := by
  rw [← List.flatMap_append]
  exact (List.filter_append_perm (fun x => decide (key x = k)) xs).flatMap_right g

variable {g : α → List β} {keys : List κ} {xs ys : List α}

/-- A single thing comes from one element, whose key no other element has, and the elements with
    other keys bring nothing in. -/
theorem exists_of_flatMap_eq_singleton
    (hshape : ∀ a ∈ xs, ∀ a' ∈ xs, key a = key a' → g a = [] → g a' = []) {b : β}
    (hb : xs.flatMap g = [b]) :
    ∃ x ∈ xs, g x = [b] ∧ xs.filter (key · = key x) = [x] ∧
      (xs.filter fun a => !decide (key a = key x)).flatMap g = [] := by
  obtain ⟨x, hx, hbx⟩ := List.mem_flatMap.1 (hb ▸ List.mem_singleton_self b : b ∈ xs.flatMap g)
  have hgx : g x ≠ [] := List.ne_nil_of_mem hbx
  have hmem : x ∈ xs.filter (key · = key x) := List.mem_filter.2 ⟨hx, by simp⟩
  -- Split into what the elements with the key of `x` bring in, and what the others do.
  have hsplit := flatMap_perm_by_key key g (key x) xs
  rw [hb, List.perm_singleton, List.append_eq_singleton_iff] at hsplit
  rcases hsplit with ⟨hnil, -⟩ | ⟨hone, hothers⟩
  · exact absurd (List.flatMap_eq_nil_iff.1 hnil x hmem) hgx
  · -- Each element with the key brings something in, so that there is only one of them.
    have hne : ∀ a ∈ xs.filter (key · = key x), g a ≠ [] := by
      intro a ha hga
      rw [List.mem_filter, decide_eq_true_eq] at ha
      exact hgx (hshape a ha.1 x hx ha.2 hga)
    have hle := length_le_length_flatMap hne
    rw [hone, List.length_singleton] at hle
    have hxs : xs.filter (key · = key x) = [x] := by
      match hlist : xs.filter (key · = key x), hle, hmem with
      | [a], _, hmem => rw [List.mem_singleton.1 hmem]
    rw [hxs, List.flatMap_singleton] at hone
    exact ⟨x, hx, hone, hxs, hothers⟩

/-- If a list brings in a single thing, then a list that is `AlikeOn` the keys brings in the
    same. -/
theorem AlikeOn.flatMap_eq_singleton (h : AlikeOn key keys xs ys)
    (hkeys : ∀ a, a ∈ xs ∨ a ∈ ys → g a ≠ [] → key a ∈ keys)
    (hshape : ∀ a b, a ∈ xs ∨ a ∈ ys → b ∈ xs ∨ b ∈ ys → key a = key b → g a = [] → g b = [])
    {b : β} (hb : xs.flatMap g = [b]) : ys.flatMap g = [b] := by
  obtain ⟨x, hx, hone, hxs, hothers⟩ := exists_of_flatMap_eq_singleton
    (fun a ha a' ha' => hshape a a' (.inl ha) (.inl ha')) hb
  have hkx : key x ∈ keys := hkeys x (.inl hx) (hone ▸ List.cons_ne_nil b [])
  have hys : ys.filter (key · = key x) = [x] := ((h _ hkx).2 x).1 hxs
  -- An element of `ys` with another key brings nothing in: one of `xs` has this key, too.
  have hys_others : (ys.filter fun a => !decide (key a = key x)).flatMap g = [] := by
    rw [List.flatMap_eq_nil_iff]
    intro y hy
    rw [List.mem_filter, Bool.not_eq_true', decide_eq_false_iff_not] at hy
    by_contra hgy
    obtain ⟨x', hx', hkey'⟩ := h.exists_mem hy.1 (hkeys y (.inr hy.1) hgy)
    have hx'_mem : x' ∈ xs.filter fun a => !decide (key a = key x) := by
      rw [List.mem_filter, Bool.not_eq_true', decide_eq_false_iff_not, hkey']
      exact ⟨hx', hy.2⟩
    have hgx' := List.flatMap_eq_nil_iff.1 hothers x' hx'_mem
    exact hgy (hshape x' y (.inl hx') (.inr hy.1) hkey' hgx')
  have hperm := flatMap_perm_by_key key g (key x) ys
  rw [hys, hys_others, List.append_nil, List.flatMap_singleton, hone] at hperm
  exact List.perm_singleton.1 hperm.symm

/-- If a list brings in nothing, then a list that is `AlikeOn` the keys brings in nothing. -/
theorem AlikeOn.flatMap_eq_nil (h : AlikeOn key keys xs ys)
    (hkeys : ∀ a, a ∈ xs ∨ a ∈ ys → g a ≠ [] → key a ∈ keys)
    (hshape : ∀ a b, a ∈ xs ∨ a ∈ ys → b ∈ xs ∨ b ∈ ys → key a = key b → g a = [] → g b = [])
    (hnil : xs.flatMap g = []) : ys.flatMap g = [] := by
  rw [List.flatMap_eq_nil_iff] at hnil ⊢
  intro y hy
  by_contra hgy
  obtain ⟨x, hx, hkey⟩ := h.exists_mem hy (hkeys y (.inr hy) hgy)
  exact hgy (hshape x y (.inl hx) (.inr hy) hkey (hnil x hx))

/-- What alike lists bring in is `Alike`, provided that only the given keys bring something in and
    that the key alone decides whether an element does. -/
theorem AlikeOn.flatMap (h : AlikeOn key keys xs ys)
    (hkeys : ∀ a, a ∈ xs ∨ a ∈ ys → g a ≠ [] → key a ∈ keys)
    (hshape : ∀ a b, a ∈ xs ∨ a ∈ ys → b ∈ xs ∨ b ∈ ys → key a = key b → g a = [] → g b = []) :
    Alike (xs.flatMap g) (ys.flatMap g) := by
  have hkeys' (a : α) (ha : a ∈ ys ∨ a ∈ xs) : g a ≠ [] → key a ∈ keys := hkeys a ha.symm
  have hshape' (a b : α) (ha : a ∈ ys ∨ a ∈ xs) (hb : b ∈ ys ∨ b ∈ xs) :
      key a = key b → g a = [] → g b = [] := hshape a b ha.symm hb.symm
  exact ⟨⟨h.flatMap_eq_nil hkeys hshape, h.symm.flatMap_eq_nil hkeys' hshape'⟩, fun b =>
    ⟨h.flatMap_eq_singleton hkeys hshape, h.symm.flatMap_eq_singleton hkeys' hshape'⟩⟩

end Keys

/-! ## Consolidating a level -/

/-- The embedding without the mark of having been reached on several ways. -/
def Embedding.unmarked (embedding : Embedding) : Embedding :=
  { embedding with multiple := false }

/-- What an embedding stands for: one that is marked (`multiple`) counts twice. -/
def Embedding.copies (embedding : Embedding) : List Embedding :=
  if embedding.multiple then [embedding.unmarked, embedding.unmarked] else [embedding.unmarked]

@[simp] theorem Embedding.key_unmarked (embedding : Embedding) :
    embedding.unmarked.key = embedding.key := rfl

theorem Embedding.mem_copies {embedding copy : Embedding} :
    copy ∈ embedding.copies ↔ copy = embedding.unmarked := by
  unfold copies
  split <;> simp

theorem Embedding.copies_pos (embedding : Embedding) : 1 ≤ embedding.copies.length := by
  unfold copies
  split <;> simp

theorem Embedding.filter_copies (embedding : Embedding) (key : TypeKey) :
    embedding.copies.filter (·.key = key) =
      if embedding.key = key then embedding.copies else [] := by
  split
  · rename_i hkey
    rw [List.filter_eq_self]
    intro copy hcopy
    rw [mem_copies.1 hcopy, key_unmarked, decide_eq_true hkey]
  · rename_i hkey
    rw [List.filter_eq_nil_iff]
    intro copy hcopy
    rw [mem_copies.1 hcopy, key_unmarked, decide_eq_true_eq]
    exact hkey

/-- The `copies` of a list of embeddings, by key. -/
theorem filter_flatMap_copies (level : List Embedding) (key : TypeKey) :
    (level.flatMap Embedding.copies).filter (·.key = key) =
      level.flatMap fun e => if e.key = key then e.copies else [] := by
  rw [List.filter_flatMap]
  exact congrArg (level.flatMap ·) (funext fun e => e.filter_copies key)

/-- `mergeEmbedding` counts a type as one more, as appending it would. -/
theorem alikeOn_mergeEmbedding (fresh : List TypeKey) (level : List Embedding) (e : Embedding) :
    AlikeOn Embedding.key fresh ((mergeEmbedding fresh level e).flatMap Embedding.copies)
      ((level ++ [e]).flatMap Embedding.copies) := by
  intro key hkey
  rw [filter_flatMap_copies, filter_flatMap_copies, List.flatMap_append, List.flatMap_singleton]
  unfold mergeEmbedding
  split
  · split
    · rename_i hany
      obtain ⟨known, hmem, hknown⟩ := List.any_eq_true.1 hany
      rw [decide_eq_true_eq] at hknown
      rw [List.flatMap_map]
      by_cases hek : e.key = key
      · -- The type is there already: marked, it counts twice, and so do the two of them.
        have hkk : known.key = key := hknown.trans hek
        apply Alike.of_two_le
        · have hle := length_le_length_flatMap_of_mem (g := fun known =>
            if (if known.key = e.key then { known with multiple := true } else known).key = key
            then (if known.key = e.key then { known with multiple := true } else known).copies
            else []) hmem
          rw [if_pos hknown, if_pos (show Embedding.key { known with multiple := true } = key from
            hkk)] at hle
          exact hle
        · have hle := length_le_length_flatMap_of_mem (g := fun e =>
            if e.key = key then e.copies else []) hmem
          rw [if_pos hkk] at hle
          have h₁ := known.copies_pos
          have h₂ := e.copies_pos
          rw [if_pos hek, List.length_append]
          omega
      · -- Types with other keys stay as they are.
        rw [if_neg hek, List.append_nil]
        apply Alike.of_eq
        refine List.flatMap_congr fun other _ => ?_
        by_cases hother : other.key = e.key
        · rw [if_pos hother, if_neg (hother ▸ hek), if_neg]
          exact hother ▸ hek
        · rw [if_neg hother]
    · -- The type is new to the level and goes to its end.
      rw [List.flatMap_append, List.flatMap_singleton]
      exact .refl _
  · -- The type is dropped, and its key is none of those in question.
    rename_i hold
    have hek : e.key ≠ key := fun h => hold (h ▸ hkey)
    rw [if_neg hek, List.append_nil]
    exact .refl _

/-- A level after `consolidate` is alike to the level: what was dropped is not fresh, and what was
    merged is marked. -/
theorem alikeOn_consolidate (fresh : List TypeKey) (level : List Embedding) :
    AlikeOn Embedding.key fresh ((consolidate fresh level).flatMap Embedding.copies)
      (level.flatMap Embedding.copies) := by
  -- By induction on the level, for every list of types that were merged before.
  suffices ∀ (level merged : List Embedding), AlikeOn Embedding.key fresh
      ((level.foldl (mergeEmbedding fresh) merged).flatMap Embedding.copies)
      ((merged ++ level).flatMap Embedding.copies) from this level []
  intro level
  induction level with
  | nil =>
    intro merged
    rw [List.append_nil]
    exact fun key _ => .refl _
  | cons e level ih =>
    intro merged key hkey
    refine (ih (mergeEmbedding fresh merged e) key hkey).trans ?_
    have hstep := alikeOn_mergeEmbedding fresh merged e key hkey
    rw [List.append_cons, List.flatMap_append, List.flatMap_append, List.filter_append,
      List.filter_append]
    exact hstep.append_right _

end IfaceGen
