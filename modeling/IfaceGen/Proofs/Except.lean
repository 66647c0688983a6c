import IfaceGen.Proofs.List

/-!
# Computations that succeed or fail

Inversion lemmas: what follows for the parts from the success of the whole. `error?` tells what a
computation fails with.
-/

namespace IfaceGen

variable {ε ε' α β : Type}

theorem bind_eq_ok {x : Except ε α} {f : α → Except ε β} {b : β} :
    x >>= f = .ok b ↔ ∃ a, x = .ok a ∧ f a = .ok b := by
  cases x with
  | error e => exact ⟨(nomatch ·), fun ⟨_, h, _⟩ => nomatch h⟩
  | ok a =>
    constructor
    · exact fun h => ⟨a, rfl, h⟩
    · rintro ⟨_, hok, h⟩
      cases hok
      exact h

theorem bind_eq_error {x : Except ε α} {f : α → Except ε β} {e : ε} :
    x >>= f = .error e ↔ x = .error e ∨ ∃ a, x = .ok a ∧ f a = .error e := by
  cases x with
  | error e' =>
    constructor
    · exact fun h => .inl (congrArg _ (Except.error.inj h))
    · rintro (h | ⟨_, hok, -⟩)
      · exact congrArg _ (Except.error.inj h)
      · exact nomatch hok
  | ok a =>
    constructor
    · exact fun h => .inr ⟨a, rfl, h⟩
    · -- The computation has a value, so only its continuation can fail.
      rintro (herror | ⟨_, hok, h⟩)
      · exact nomatch herror
      · cases hok
        exact h

theorem pure_eq_ok {a b : α} : (pure a : Except ε α) = .ok b ↔ a = b :=
  ⟨Except.ok.inj, fun h => h ▸ rfl⟩

theorem map_eq_ok {x : Except ε α} {f : α → β} {b : β} :
    x.map f = .ok b ↔ ∃ a, x = .ok a ∧ f a = b := by
  cases x with
  | error e => exact ⟨(nomatch ·), fun ⟨_, h, _⟩ => nomatch h⟩
  | ok a =>
    constructor
    · exact fun h => ⟨a, rfl, Except.ok.inj h⟩
    · rintro ⟨_, hok, rfl⟩
      cases hok
      rfl

/-- Saying more about a failure (`Except.mapError`) does not change a success. -/
theorem mapError_eq_ok {x : Except ε α} {f : ε → ε'} {a : α} :
    x.mapError f = .ok a ↔ x = .ok a := by
  cases x with
  | error e => exact ⟨(nomatch ·), (nomatch ·)⟩
  | ok b => exact ⟨fun h => congrArg _ (Except.ok.inj h), fun h => congrArg _ (Except.ok.inj h)⟩

/-- The error of a computation that fails. -/
def error? : Except ε α → Option ε
  | .ok _ => none
  | .error e => some e

theorem error?_eq_some_iff {x : Except ε α} {e : ε} : error? x = some e ↔ x = .error e := by
  cases x with
  | error e' => exact ⟨fun h => congrArg _ (Option.some.inj h), fun h => congrArg error? h⟩
  | ok a => exact ⟨(nomatch ·), (nomatch ·)⟩

theorem error?_eq_none_iff {x : Except ε α} : error? x = none ↔ ∃ a, x = .ok a := by
  cases x with
  | error e => exact ⟨(nomatch ·), fun ⟨_, h⟩ => nomatch h⟩
  | ok a => exact iff_of_true rfl ⟨a, rfl⟩

theorem exists_eq_ok_iff {x : Except ε α} : (∃ a, x = .ok a) ↔ ∀ e, x ≠ .error e := by
  cases x with
  | error e => exact iff_of_false (fun ⟨_, h⟩ => nomatch h) fun h => h e rfl
  | ok a => exact iff_of_true ⟨a, rfl⟩ fun _ h => nomatch h

/-- `List.mapM` succeeds if each computation does. -/
theorem mapM_eq_ok {f : α → Except ε β} {xs : List α} {ys : List β} :
    xs.mapM f = .ok ys ↔ List.Forall₂ (fun x y => f x = .ok y) xs ys := by
  induction xs generalizing ys with
  | nil =>
    rw [List.mapM_nil, pure_eq_ok, List.forall₂_nil_left_iff]
    exact eq_comm
  | cons x xs ih =>
    simp only [List.mapM_cons, bind_eq_ok, pure_eq_ok, List.forall₂_cons_left_iff, ih]
    constructor
    · rintro ⟨y, hy, ys', hys, rfl⟩
      exact ⟨y, ys', hy, hys, rfl⟩
    · rintro ⟨y, ys', hy, hys, rfl⟩
      exact ⟨y, hy, ys', hys, rfl⟩

/-- Some results come out of `List.mapM` if each computation has one. -/
theorem exists_mapM_eq_ok_iff {f : α → Except ε β} {xs : List α} :
    (∃ ys, xs.mapM f = .ok ys) ↔ ∀ x ∈ xs, ∃ y, f x = .ok y := by
  simp only [mapM_eq_ok]
  constructor
  · rintro ⟨ys, hys⟩ x hx
    obtain ⟨y, -, hy⟩ := exists_right_of_forall₂ hys hx
    exact ⟨y, hy⟩
  · intro hall
    induction xs with
    | nil => exact ⟨[], .nil⟩
    | cons x xs ih =>
      rw [List.forall_mem_cons] at hall
      obtain ⟨y, hy⟩ := hall.1
      obtain ⟨ys, hys⟩ := ih hall.2
      exact ⟨y :: ys, .cons hy hys⟩

/-- `List.mapM` fails with the failure of the first computation that fails. -/
theorem mapM_eq_error {f : α → Except ε β} {xs : List α} {e : ε} :
    xs.mapM f = .error e ↔ ∃ before x after, xs = before ++ x :: after ∧ f x = .error e ∧
      ∀ y ∈ before, ∃ b, f y = .ok b := by
  induction xs with
  | nil => simp [pure, Except.pure]
  | cons x xs ih =>
    rw [List.mapM_cons, bind_eq_error, exists_split_cons_iff, ← ih]
    -- After a success it is the rest that fails: putting its results together does not.
    refine or_congr_right ⟨?_, ?_⟩
    · rintro ⟨b, hb, hfail⟩
      rcases bind_eq_error.1 hfail with hfail | ⟨bs, -, hpure⟩
      · exact ⟨⟨b, hb⟩, hfail⟩
      · exact nomatch hpure
    · rintro ⟨⟨b, hb⟩, hfail⟩
      exact ⟨b, hb, bind_eq_error.2 (.inl hfail)⟩

end IfaceGen
