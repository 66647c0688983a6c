import IfaceGen.Types.Basic

/-!
# Equality of semantic types

Two types are equal if they have the same structure, names, order and flags included.
`GoType.beq` decides this, and `GoType.beq_eq_true_iff` says so.
-/

namespace IfaceGen

mutual
/-- Structural equality. Aliases, the order of methods and parameter names all count. -/
def GoType.beq : GoType → GoType → Bool
  | .basic a, .basic b => a == b
  | .array m a, .array n b => m == n && a.beq b
  | .slice a, .slice b => a.beq b
  | .map k a, .map l b => k.beq l && a.beq b
  | .chan c a, .chan d b => c == d && a.beq b
  | .pointer a, .pointer b => a.beq b
  | .interface as ms, .interface bs ns => beqTypes as bs && beqMethods ms ns
  | .func a, .func b => a.beq b
  | .named m as, .named n bs => m == n && beqTypes as bs
  | .alias m as, .alias n bs => m == n && beqTypes as bs
  | .typeParam a, .typeParam b => a == b
  | .union as, .union bs => beqTerms as bs
  | .struct as, .struct bs => beqFields as bs
  | .unknown, .unknown => true
  | _, _ => false
termination_by structural a => a

/-- Structural equality of signatures, by `beqVars`. -/
def Signature.beq : Signature → Signature → Bool
  | ⟨ps, rs, v⟩, ⟨qs, ss, w⟩ => beqVars ps qs && beqVars rs ss && v == w
termination_by structural a => a

/-- Structural equality of lists of types. -/
def beqTypes : List GoType → List GoType → Bool
  | [], [] => true
  | a :: as, b :: bs => a.beq b && beqTypes as bs
  | _, _ => false
termination_by structural a => a

/-- Structural equality of lists of variables. -/
def beqVars : List Var → List Var → Bool
  | [], [] => true
  | ⟨m, a⟩ :: as, ⟨n, b⟩ :: bs => m == n && a.beq b && beqVars as bs
  | _, _ => false
termination_by structural a => a

/-- Structural equality of lists of methods. -/
def beqMethods : List Method → List Method → Bool
  | [], [] => true
  | ⟨m, a⟩ :: as, ⟨n, b⟩ :: bs => m == n && a.beq b && beqMethods as bs
  | _, _ => false
termination_by structural a => a

/-- Structural equality of lists of terms. -/
def beqTerms : List Term → List Term → Bool
  | [], [] => true
  | ⟨s, a⟩ :: as, ⟨t, b⟩ :: bs => s == t && a.beq b && beqTerms as bs
  | _, _ => false
termination_by structural a => a

/-- Structural equality of lists of fields. -/
def beqFields : List Field → List Field → Bool
  | [], [] => true
  | ⟨m, a, e⟩ :: as, ⟨n, b, f⟩ :: bs => m == n && a.beq b && e == f && beqFields as bs
  | _, _ => false
termination_by structural a => a
end

mutual
theorem GoType.eq_of_beq : ∀ (a b : GoType), a.beq b = true → a = b
  | .basic _, b => by cases b <;> simp [GoType.beq]
  | .array _ a, b => by
    cases b <;> simp only [GoType.beq, Bool.and_eq_true, beq_iff_eq, reduceCtorEq, false_implies,
      GoType.array.injEq, Bool.false_eq_true, and_imp]
    exact fun h h' => ⟨h, GoType.eq_of_beq a _ h'⟩
  | .slice a, b => by cases b <;> simp [GoType.beq]; exact GoType.eq_of_beq a _
  | .map k a, b => by
    cases b <;> simp [GoType.beq]
    exact fun h h' => ⟨GoType.eq_of_beq k _ h, GoType.eq_of_beq a _ h'⟩
  | .chan _ a, b => by
    cases b <;> simp [GoType.beq]
    exact fun h h' => ⟨h, GoType.eq_of_beq a _ h'⟩
  | .pointer a, b => by cases b <;> simp [GoType.beq]; exact GoType.eq_of_beq a _
  | .interface as ms, b => by
    cases b <;> simp [GoType.beq]
    exact fun h h' => ⟨eq_of_beqTypes as _ h, eq_of_beqMethods ms _ h'⟩
  | .func a, b => by cases b <;> simp [GoType.beq]; exact Signature.eq_of_beq a _
  | .named _ as, b => by
    cases b <;> simp [GoType.beq]
    exact fun h h' => ⟨h, eq_of_beqTypes as _ h'⟩
  | .alias _ as, b => by
    cases b <;> simp [GoType.beq]
    exact fun h h' => ⟨h, eq_of_beqTypes as _ h'⟩
  | .typeParam _, b => by cases b <;> simp [GoType.beq]
  | .union as, b => by cases b <;> simp [GoType.beq]; exact eq_of_beqTerms as _
  | .struct as, b => by cases b <;> simp [GoType.beq]; exact eq_of_beqFields as _
  | .unknown, b => by cases b <;> simp [GoType.beq]

theorem Signature.eq_of_beq : ∀ (a b : Signature), a.beq b = true → a = b
  | ⟨ps, rs, _⟩, ⟨qs, ss, _⟩ => by
    simp only [Signature.beq, Bool.and_eq_true, beq_iff_eq, Signature.mk.injEq, and_imp]
    exact fun h h' h'' => ⟨eq_of_beqVars ps qs h, eq_of_beqVars rs ss h', h''⟩

theorem eq_of_beqTypes : ∀ (as bs : List GoType), beqTypes as bs = true → as = bs
  | [], bs => by cases bs <;> simp [beqTypes]
  | a :: as, bs => by
    cases bs <;> simp [beqTypes]
    exact fun h h' => ⟨GoType.eq_of_beq a _ h, eq_of_beqTypes as _ h'⟩

theorem eq_of_beqVars : ∀ (as bs : List Var), beqVars as bs = true → as = bs
  | [], bs => by cases bs <;> simp [beqVars]
  | ⟨_, a⟩ :: as, [] => by simp [beqVars]
  | ⟨_, a⟩ :: as, ⟨_, b⟩ :: bs => by
    simp only [beqVars, Bool.and_eq_true, beq_iff_eq, List.cons.injEq, Var.mk.injEq, and_imp]
    exact fun h h' h'' => ⟨⟨h, GoType.eq_of_beq a b h'⟩, eq_of_beqVars as bs h''⟩

theorem eq_of_beqMethods : ∀ (as bs : List Method), beqMethods as bs = true → as = bs
  | [], bs => by cases bs <;> simp [beqMethods]
  | ⟨_, a⟩ :: as, [] => by simp [beqMethods]
  | ⟨_, a⟩ :: as, ⟨_, b⟩ :: bs => by
    simp only [beqMethods, Bool.and_eq_true, beq_iff_eq, List.cons.injEq, Method.mk.injEq, and_imp]
    exact fun h h' h'' => ⟨⟨h, Signature.eq_of_beq a b h'⟩, eq_of_beqMethods as bs h''⟩

theorem eq_of_beqTerms : ∀ (as bs : List Term), beqTerms as bs = true → as = bs
  | [], bs => by cases bs <;> simp [beqTerms]
  | ⟨_, a⟩ :: as, [] => by simp [beqTerms]
  | ⟨_, a⟩ :: as, ⟨_, b⟩ :: bs => by
    simp only [beqTerms, Bool.and_eq_true, beq_iff_eq, List.cons.injEq, Term.mk.injEq, and_imp]
    exact fun h h' h'' => ⟨⟨h, GoType.eq_of_beq a b h'⟩, eq_of_beqTerms as bs h''⟩

theorem eq_of_beqFields : ∀ (as bs : List Field), beqFields as bs = true → as = bs
  | [], bs => by cases bs <;> simp [beqFields]
  | ⟨_, a, _⟩ :: as, [] => by simp [beqFields]
  | ⟨_, a, _⟩ :: as, ⟨_, b, _⟩ :: bs => by
    simp only [beqFields, Bool.and_eq_true, beq_iff_eq, List.cons.injEq, Field.mk.injEq, and_imp]
    exact fun h h' h'' h''' =>
      ⟨⟨h, GoType.eq_of_beq a b h', h''⟩, eq_of_beqFields as bs h'''⟩
end

mutual
theorem GoType.beq_refl : ∀ a : GoType, a.beq a = true
  | .basic _ | .typeParam _ | .unknown => by simp [GoType.beq]
  | .array _ a | .slice a | .chan _ a | .pointer a => by simp [GoType.beq, GoType.beq_refl a]
  | .map k a => by simp [GoType.beq, GoType.beq_refl k, GoType.beq_refl a]
  | .interface as ms => by simp [GoType.beq, beqTypes_refl as, beqMethods_refl ms]
  | .func a => by simp [GoType.beq, Signature.beq_refl a]
  | .named _ as | .alias _ as => by simp [GoType.beq, beqTypes_refl as]
  | .union as => by simp [GoType.beq, beqTerms_refl as]
  | .struct as => by simp [GoType.beq, beqFields_refl as]

theorem Signature.beq_refl : ∀ a : Signature, a.beq a = true
  | ⟨ps, rs, _⟩ => by simp [Signature.beq, beqVars_refl ps, beqVars_refl rs]

theorem beqTypes_refl : ∀ as : List GoType, beqTypes as as = true
  | [] => rfl
  | a :: as => by simp [beqTypes, GoType.beq_refl a, beqTypes_refl as]

theorem beqVars_refl : ∀ as : List Var, beqVars as as = true
  | [] => rfl
  | ⟨_, a⟩ :: as => by simp [beqVars, GoType.beq_refl a, beqVars_refl as]

theorem beqMethods_refl : ∀ as : List Method, beqMethods as as = true
  | [] => rfl
  | ⟨_, a⟩ :: as => by simp [beqMethods, Signature.beq_refl a, beqMethods_refl as]

theorem beqTerms_refl : ∀ as : List Term, beqTerms as as = true
  | [] => rfl
  | ⟨_, a⟩ :: as => by simp [beqTerms, GoType.beq_refl a, beqTerms_refl as]

theorem beqFields_refl : ∀ as : List Field, beqFields as as = true
  | [] => rfl
  | ⟨_, a, _⟩ :: as => by simp [beqFields, GoType.beq_refl a, beqFields_refl as]
end

/-- `GoType.beq` decides equality. -/
theorem GoType.beq_eq_true_iff {a b : GoType} : a.beq b = true ↔ a = b :=
  ⟨GoType.eq_of_beq a b, fun h => h ▸ GoType.beq_refl a⟩

/-- `Signature.beq` decides equality. -/
theorem Signature.beq_eq_true_iff {a b : Signature} : a.beq b = true ↔ a = b :=
  ⟨Signature.eq_of_beq a b, fun h => h ▸ Signature.beq_refl a⟩

instance : DecidableEq GoType := fun _ _ => decidable_of_iff _ GoType.beq_eq_true_iff

instance : DecidableEq Signature := fun _ _ => decidable_of_iff _ Signature.beq_eq_true_iff

instance : DecidableEq Var := fun ⟨m, a⟩ ⟨n, b⟩ =>
  decidable_of_iff (m = n ∧ a = b) (by rw [Var.mk.injEq])

instance : DecidableEq Method := fun ⟨m, a⟩ ⟨n, b⟩ =>
  decidable_of_iff (m = n ∧ a = b) (by rw [Method.mk.injEq])

instance : DecidableEq Term := fun ⟨s, a⟩ ⟨t, b⟩ =>
  decidable_of_iff (s = t ∧ a = b) (by rw [Term.mk.injEq])

instance : DecidableEq Field := fun ⟨m, a, e⟩ ⟨n, b, f⟩ =>
  decidable_of_iff (m = n ∧ a = b ∧ e = f) (by rw [Field.mk.injEq])

end IfaceGen
