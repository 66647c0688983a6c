import IfaceGen.Proofs.MethodSet.Memory

/-!
# The answers of a collector

A collector is asked for one package after the other, each time within a program of its own. Its
memory knows packages by their paths only, so that the first call for a path decides all answers for
it, whatever package and program the later calls bring.

## Key results

- `Collector.recalls_collect`: a call tells a collector nothing that was not settled before it
- `Collector.getElem?_answers`: what a run of calls answers, from any collector
- `Collector.answers_of_program`: within one program the memory does not show
- `Collector.answers_history`: a new collector answers as in the first call for a path
-/

namespace IfaceGen

namespace Collector

/-- A call of a collector: the package that it is asked for, and the program to look into. -/
abbrev Call := Package × Program

/-- The descriptors that a call would compute, with nothing in memory. -/
def Call.computed (call : Call) : List StructDescriptor :=
  (Scope.descriptors ⟨call.1, call.2⟩).value

/-- The answers to some calls, one after the other. -/
def answers : Collector → List Call → List (List StructDescriptor)
  | _, [] => []
  | collector, call :: calls =>
    let (answer, collector) := (collector.collect call.1 call.2).value
    answer :: collector.answers calls

/-- The first of some calls for a path. -/
def firstCall? (calls : List Call) (path : String) : Option Call :=
  calls.find? (·.1.path = path)

theorem firstCall?_cons (call : Call) (calls : List Call) (path : String) :
    firstCall? (call :: calls) path =
      if call.1.path = path then some call else firstCall? calls path := by
  rw [firstCall?]
  by_cases hpath : call.1.path = path
  · rw [if_pos hpath, List.find?_cons_of_pos (by simpa using hpath)]
  · rw [if_neg hpath, List.find?_cons_of_neg (by simpa using hpath), firstCall?]

/-- A call for a new path is what `firstCall?` finds for it. -/
theorem firstCall?_append_cons {before : List Call} {call : Call} (after : List Call)
    (h : ∀ earlier ∈ before, earlier.1.path ≠ call.1.path) :
    firstCall? (before ++ call :: after) call.1.path = some call := by
  induction before with
  | nil => rw [List.nil_append, firstCall?_cons, if_pos rfl]
  | cons earlier before ih =>
    rw [List.forall_mem_cons] at h
    rw [List.cons_append, firstCall?_cons, if_neg h.1, ih h.2]

/-- `firstCall?` finds a call for the path of each call. -/
theorem exists_firstCall? {calls : List Call} {call : Call} (h : call ∈ calls) :
    ∃ first ∈ calls, firstCall? calls call.1.path = some first ∧
      first.1.path = call.1.path := by
  cases hfirst : firstCall? calls call.1.path with
  | none => exact absurd (decide_eq_true rfl) (List.find?_eq_none.1 hfirst call h)
  | some first =>
    have hpath := List.find?_some hfirst
    exact ⟨first, List.mem_of_find?_eq_some hfirst, rfl, by simpa using hpath⟩

variable {collector : Collector}

/-- The answer that a collector is going to give for a path: from memory, or else what the call
    that `firstCall?` finds for the path computes. -/
def recalls (collector : Collector) (calls : List Call) (path : String) :
    Option (List StructDescriptor) :=
  (collector.lookup path).or ((firstCall? calls path).map (·.computed))

/-- A path is known after `collect` if it was before, or if it is the one of the call. -/
theorem lookup_collect (call : Call) (path : String) :
    (collector.collect call.1 call.2).value.2.lookup path =
      (collector.lookup path).or (if call.1.path = path then some call.computed else none) := by
  cases hlookup : collector.lookup call.1.path with
  | some descriptors =>
    rw [value_collect_known hlookup]
    by_cases hpath : call.1.path = path
    · rw [← hpath, hlookup, Option.some_or]
    · rw [if_neg hpath, Option.or_none]
  -- A new path is put in front, so that `lookup` sees it before anything else.
  | none =>
    rw [value_collect_new hlookup, List.lookup_cons]
    by_cases hpath : call.1.path = path
    · subst hpath
      rw [beq_self_eq_true, hlookup, if_pos rfl, Option.none_or]
      rfl
    · rw [beq_eq_false_iff_ne.2 (Ne.symm hpath), if_neg hpath, Option.or_none]

/-- The answer of `collect` is what is known of the path afterwards. -/
theorem lookup_collect_self (call : Call) :
    (collector.collect call.1 call.2).value.2.lookup call.1.path =
      some (collector.collect call.1 call.2).value.1 := by
  cases hlookup : collector.lookup call.1.path with
  | some descriptors =>
    rw [value_collect_known hlookup]
    exact hlookup
  | none => rw [value_collect_new hlookup, List.lookup_cons_self]

/-- A call changes nothing about the answers to come: `recalls` is an invariant of the run. -/
theorem recalls_collect (call : Call) (calls : List Call) (path : String) :
    (collector.collect call.1 call.2).value.2.recalls calls path =
      collector.recalls (call :: calls) path := by
  rw [recalls, recalls, lookup_collect, Option.or_assoc, firstCall?_cons]
  -- For its own path a call settles what it was the first to ask.
  by_cases hpath : call.1.path = path
  · rw [if_pos hpath, if_pos hpath, Option.some_or, Option.map_some]
  · rw [if_neg hpath, if_neg hpath, Option.none_or]

/-- Every call is answered with what was settled for its path before the first call, as `recalls`
    says. -/
theorem getElem?_answers {calls : List Call} {i : Nat} {call : Call} (h : calls[i]? = some call) :
    (collector.answers calls)[i]? = collector.recalls calls call.1.path := by
  induction calls generalizing collector i with
  | nil => exact nomatch h
  | cons first calls ih =>
    -- What is settled for the other calls does not change with the first one.
    rw [← recalls_collect, answers]
    cases i with
    | zero =>
      obtain rfl : first = call := Option.some.inj h
      rw [List.getElem?_cons_zero, recalls, lookup_collect_self, Option.some_or]
    | succ i =>
      rw [List.getElem?_cons_succ]
      exact ih h

theorem length_answers (collector : Collector) (calls : List Call) :
    (collector.answers calls).length = calls.length := by
  induction calls generalizing collector with
  | nil => rfl
  | cons call calls ih => rw [answers, List.length_cons, ih, List.length_cons]

section New

variable {calls : List Call}

/-- A new collector answers each call with what `firstCall?` computes for its path. -/
theorem exists_getElem?_answers {i : Nat} {call : Call} (h : calls[i]? = some call) :
    ∃ first, firstCall? calls call.1.path = some first ∧
      (answers [] calls)[i]? = some first.computed := by
  obtain ⟨first, -, hfirst, -⟩ := exists_firstCall? (List.mem_of_getElem? h)
  refine ⟨first, hfirst, ?_⟩
  rw [getElem?_answers h, recalls, hfirst]
  rfl

/-- A call for a new path is answered as if there were no calls before it. -/
theorem getElem?_answers_new {before : List Call} {call : Call} (after : List Call)
    (h : ∀ earlier ∈ before, earlier.1.path ≠ call.1.path) :
    (answers [] (before ++ call :: after))[before.length]? = some call.computed := by
  have hcall : (before ++ call :: after)[before.length]? = some call := by
    rw [List.getElem?_append_right (Nat.le_refl _), Nat.sub_self, List.getElem?_cons_zero]
  obtain ⟨first, hfirst, hanswer⟩ := exists_getElem?_answers hcall
  rw [firstCall?_append_cons after h] at hfirst
  rw [hanswer, Option.some.inj hfirst]

/-- Where all packages are taken from one program, the memory of a collector does not show: each of
    the `answers` is `Call.computed`. -/
theorem answers_of_program {program : Program}
    (h : ∀ call ∈ calls, call.2 = program ∧ program.get? call.1.path = some call.1) :
    answers [] calls = calls.map (·.computed) := by
  refine List.ext_getElem? fun i => ?_
  rw [List.getElem?_map]
  cases hcall : calls[i]? with
  | none =>
    rw [List.getElem?_eq_none_iff] at hcall
    exact List.getElem?_eq_none (by rw [length_answers]; exact hcall)
  | some call =>
    have hmem := List.mem_of_getElem? hcall
    obtain ⟨first, hfirstMem, hfirst, hpath⟩ := exists_firstCall? hmem
    -- The program has one package with the path, so that both calls are the same.
    obtain ⟨hprogram, hfound⟩ := h first hfirstMem
    obtain ⟨hprogram', hfound'⟩ := h call hmem
    rw [hpath, hfound'] at hfound
    obtain rfl : call = first :=
      Prod.ext (Option.some.inj hfound) (hprogram'.trans hprogram.symm)
    rw [getElem?_answers hcall, recalls, hfirst]
    rfl

end New

/-- A new collector answers each call with what the first call for its path computes. So calls for
    one path have one answer, a call for a new path has the answer that it would have without the
    calls before it, and if all packages are taken from one program every answer is the one that is
    computed from the call itself. -/
theorem answers_history (calls : List Call) :
    (answers [] calls).length = calls.length ∧
    (∀ (i : Nat) (call : Call), calls[i]? = some call →
      ∃ first, firstCall? calls call.1.path = some first ∧
        (answers [] calls)[i]? = some first.computed) ∧
    (∀ (i j : Nat) (call other : Call), calls[i]? = some call → calls[j]? = some other →
      call.1.path = other.1.path → (answers [] calls)[i]? = (answers [] calls)[j]?) ∧
    (∀ before call after, calls = before ++ call :: after →
      (∀ earlier ∈ before, earlier.1.path ≠ call.1.path) →
      (answers [] calls)[before.length]? = some call.computed) ∧
    ∀ program : Program,
      (∀ call ∈ calls, call.2 = program ∧ program.get? call.1.path = some call.1) →
      answers [] calls = calls.map (·.computed) := by
  refine ⟨length_answers [] calls, fun i call hcall => exists_getElem?_answers hcall,
    fun i j call other hcall hother hpath => ?_, fun before call after hcalls hnew => ?_,
    fun program hprogram => answers_of_program hprogram⟩
  · rw [getElem?_answers hcall, getElem?_answers hother, hpath]
  · rw [hcalls]
    exact getElem?_answers_new after hnew

end Collector

namespace Rebuild

/-- An exported struct with a method `Add`. -/
def counter : TypeDecl := ⟨"Counter", [], .struct [], [⟨"Add", .empty⟩]⟩

/-- A package with one struct. -/
def shop : Package := ⟨"example.com/shop", "shop", [counter], []⟩

/-- Another package with the same path, without types. -/
def emptied : Package := ⟨"example.com/shop", "shop", [], []⟩

/-- A package with another path. -/
def depot : Package := ⟨"example.com/depot", "depot", [counter], []⟩

/-- The calls of one run. -/
def calls : List Collector.Call := [(shop, []), (emptied, [emptied]), (depot, [emptied])]

/-- The emptied package has the answer of the package that was asked for before it, which is not the
    one that would be computed for it. The package with another path has its own answer. -/
theorem answers_calls :
    (Collector.answers [] calls)[1]? = some (Collector.Call.computed (shop, [])) ∧
      Collector.Call.computed (shop, []) ≠ Collector.Call.computed (emptied, [emptied]) ∧
      (∀ earlier ∈ [(shop, []), (emptied, [emptied])], earlier.1.path ≠ depot.path) ∧
      (Collector.answers [] calls)[2]? = some (Collector.Call.computed (depot, [emptied])) := by
  obtain ⟨-, hfirst, -, hnew, -⟩ := Collector.answers_history calls
  have hother : ∀ earlier ∈ [(shop, []), (emptied, [emptied])], earlier.1.path ≠ depot.path := by
    decide
  refine ⟨?_, fun hsame => ?_, hother, hnew _ (depot, [emptied]) [] rfl hother⟩
  · obtain ⟨first, hcall, hanswer⟩ := hfirst 1 (emptied, [emptied]) rfl
    obtain rfl : (shop, []) = first := Option.some.inj hcall
    exact hanswer
  · -- One of the two has the descriptor of the struct.
    have hcounter : counter ∈ Scope.structDecls shop :=
      List.mem_mergeSort.2 (List.mem_filter.2 ⟨List.mem_cons_self, by decide⟩)
    obtain ⟨descriptor, hmem⟩ :
        ∃ descriptor, descriptor ∈ Collector.Call.computed (shop, []) := by
      rw [Collector.Call.computed, Scope.value_descriptors]
      exact ⟨_, List.mem_map_of_mem hcounter⟩
    rw [hsame, Collector.Call.computed, Scope.value_descriptors] at hmem
    obtain ⟨decl, hdecl, -⟩ := List.mem_map.1 hmem
    exact absurd (Scope.mem_types_of_mem_structDecls hdecl) List.not_mem_nil

end Rebuild

end IfaceGen
