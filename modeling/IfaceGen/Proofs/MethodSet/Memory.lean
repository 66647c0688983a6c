import IfaceGen.MethodSet.Collector

/-!
# What a collector remembers

A collector answers from memory, or computes an answer and remembers it. So a property of answers
that holds of everything remembered, and of every answer that is computed, holds of every answer.
Within one program this makes the memory invisible.

## Key results

- `Scope.value_descriptors`: the descriptors of a package, one for each exported struct
- `Collector.Remembers.collect` / `Collector.Remembers.afterCalls`: a property of answers is kept
- `Collector.Faithful.collect`: within one program every answer is the computed one
-/

namespace IfaceGen

namespace Logged

instance : LawfulMonad Logged := .mk' Logged
  (fun x => congrArg (Logged.mk x.value) (List.append_nil x.log))
  (fun _ _ => rfl)
  (fun _ _ _ => congrArg (Logged.mk _) (List.append_assoc _ _ _))

/-- The values that a list of `Logged` computations comes to. -/
theorem value_mapM {α β : Type} (f : α → Logged β) (xs : List α) :
    (xs.mapM f).value = xs.map fun x => (f x).value := by
  induction xs with
  | nil => rfl
  | cons x xs ih => simp only [List.mapM_cons, value_bind, value_pure, ih, List.map_cons]

end Logged

/-- The exported structs of a package (`structDecls`) are among its types. -/
theorem Scope.mem_types_of_mem_structDecls {package : Package} {decl : TypeDecl}
    (h : decl ∈ structDecls package) : decl ∈ package.types :=
  (List.mem_filter.1 (List.mem_mergeSort.1 h)).1

/-- `Scope.descriptors` has one descriptor for each exported struct, in the order of their names. -/
theorem Scope.value_descriptors (scope : Scope) :
    scope.descriptors.value = (structDecls scope.package).map fun decl =>
      ⟨scope.package.ref, decl.name, decl.typeParams, (scope.methodSet decl).value⟩ := by
  rw [Scope.descriptors, Logged.value_mapM]
  rfl

namespace Collector

/-- Everything that a collector remembers of a path has the property `P`. -/
def Remembers (collector : Collector) (P : String → List StructDescriptor → Prop) : Prop :=
  ∀ path descriptors, collector.lookup path = some descriptors → P path descriptors

theorem remembers_nil (P : String → List StructDescriptor → Prop) : Remembers [] P :=
  fun _ _ h => nomatch h

variable {collector : Collector} {package : Package} {program : Program}

/-- A path that is remembered is answered from memory, and nothing is forgotten. -/
theorem value_collect_known {descriptors : List StructDescriptor}
    (h : collector.lookup package.path = some descriptors) :
    (collector.collect package program).value = (descriptors, collector) := by
  unfold collect
  rw [h]
  rfl

/-- What is not remembered is computed by `Scope.descriptors`, and remembered from then on. -/
theorem value_collect_new (h : collector.lookup package.path = none) :
    (collector.collect package program).value =
      ((Scope.descriptors ⟨package, program⟩).value,
        (package.path, (Scope.descriptors ⟨package, program⟩).value) :: collector) := by
  unfold collect
  rw [h]
  rfl

/-- A property of everything that is remembered, and of the answer that would be computed, is one of
    the answer, and of everything that is remembered afterwards. -/
theorem Remembers.collect {P : String → List StructDescriptor → Prop} (h : collector.Remembers P)
    (hnew : P package.path (Scope.descriptors ⟨package, program⟩).value) :
    P package.path (collector.collect package program).value.1 ∧
      Remembers (collector.collect package program).value.2 P := by
  cases hlookup : collector.lookup package.path with
  | some descriptors =>
    rw [value_collect_known hlookup]
    exact ⟨h _ _ hlookup, h⟩
  | none =>
    rw [value_collect_new hlookup]
    refine ⟨hnew, fun path descriptors hpath => ?_⟩
    rw [List.lookup_cons] at hpath
    -- What is remembered last is the new answer; other paths are remembered as before.
    by_cases heq : path = package.path
    · simp only [heq, beq_self_eq_true, Option.some.injEq] at hpath
      rw [heq, ← hpath]
      exact hnew
    · simp only [beq_eq_false_iff_ne.2 heq] at hpath
      exact h path descriptors hpath

/-- The collector after it was asked (`Collector.collect`) for some packages, each of them within a
    program of its own. -/
def afterCalls (collector : Collector) (calls : List (Package × Program)) : Collector :=
  calls.foldl (fun collector call => (collector.collect call.1 call.2).value.2) collector

theorem Remembers.afterCalls {P : String → List StructDescriptor → Prop}
    (h : collector.Remembers P) {calls : List (Package × Program)}
    (hcalls : ∀ call ∈ calls, P call.1.path (Scope.descriptors ⟨call.1, call.2⟩).value) :
    (collector.afterCalls calls).Remembers P := by
  induction calls generalizing collector with
  | nil => exact h
  | cons call calls ih =>
    have hstep := (h.collect (hcalls call List.mem_cons_self)).2
    exact ih hstep fun other hother => hcalls other (List.mem_cons_of_mem _ hother)

/-- A collector that remembers nothing but the descriptors of packages of the program. Then
    `Collector.collect` answers as `Scope.descriptors` does. -/
def Faithful (collector : Collector) (program : Program) : Prop :=
  collector.Remembers fun path descriptors => ∀ package, program.get? path = some package →
    descriptors = (Scope.descriptors ⟨package, program⟩).value

theorem faithful_nil (program : Program) : Faithful [] program := remembers_nil _

/-- Within one program every answer of `Collector.collect` is the computed one. -/
theorem Faithful.collect (h : collector.Faithful program)
    (hfound : program.get? package.path = some package) :
    (collector.collect package program).value.1 = (Scope.descriptors ⟨package, program⟩).value ∧
      Faithful (collector.collect package program).value.2 program := by
  -- Within one program a path stands for one package.
  have hnew : ∀ other, program.get? package.path = some other →
      (Scope.descriptors ⟨package, program⟩).value =
        (Scope.descriptors ⟨other, program⟩).value := by
    intro other hother
    rw [hfound] at hother
    cases hother
    rfl
  obtain ⟨hanswer, hafter⟩ := Remembers.collect h hnew
  exact ⟨hanswer package hfound, hafter⟩

end Collector

end IfaceGen
