import IfaceGen.Package.Basic
import IfaceGen.Proofs.List

/-!
# Looking up declarations and packages

A package may declare a name more than once, and then its first declaration counts. A program may
hold several packages with one path, and of these the last one counts.

## Key results

- `Package.lookup?_eq_some_iff`: `Package.lookup?` finds the first declaration of a name
- `Program.get?_eq_some_iff`: `Program.get?` finds the last package with a path
-/

namespace IfaceGen

/-! ## Declarations of a package -/

/-- The first declaration of a name in a package. `Package.lookup?` finds it. -/
inductive Package.Declares (package : Package) : String → TypeDecl → Prop
  | first {before after : List TypeDecl} {decl : TypeDecl}
      (listed : package.types = before ++ decl :: after)
      (new : ∀ earlier ∈ before, earlier.name ≠ decl.name) : Declares package decl.name decl

/-- `Package.lookup?` goes through the declarations in their order. -/
theorem Package.lookup?_eq_some_iff {package : Package} {name : String} {decl : TypeDecl} :
    package.lookup? name = some decl ↔ package.Declares name decl := by
  rw [lookup?, List.find?_eq_some_iff_append, decide_eq_true_iff]
  constructor
  · rintro ⟨rfl, before, after, listed, new⟩
    exact .first listed fun earlier hearlier => by simpa using new earlier hearlier
  · rintro ⟨listed, new⟩
    exact ⟨rfl, _, _, listed, fun earlier hearlier => by simpa using new earlier hearlier⟩

/-- What `Package.lookup?` finds is a declaration of the package, and it has the name. -/
theorem Package.mem_of_lookup? {package : Package} {name : String} {decl : TypeDecl}
    (h : package.lookup? name = some decl) : decl ∈ package.types ∧ decl.name = name := by
  obtain ⟨listed, -⟩ := lookup?_eq_some_iff.1 h
  exact ⟨listed ▸ List.mem_append_right _ List.mem_cons_self, rfl⟩

/-- Where type names are distinct, `Package.lookup?` finds every declaration. -/
theorem Package.lookup?_of_mem {package : Package} {decl : TypeDecl}
    (hnodup : (package.types.map (·.name)).Nodup) (hmem : decl ∈ package.types) :
    package.lookup? decl.name = some decl := by
  exact find?_key_eq_some hnodup hmem

/-! ## Packages of a program -/

theorem Program.get?_eq_none_iff {program : Program} {path : String} :
    program.get? path = none ↔ ∀ package ∈ program, package.path ≠ path := by
  induction program with
  | nil => simp [Program.get?]
  | cons first rest ih =>
    rw [Program.get?, Option.or_eq_none_iff, ih, List.forall_mem_cons, and_comm]
    simp

/-- Of the packages with one path `Program.get?` takes the last one. -/
theorem Program.get?_eq_some_iff {program : Program} {path : String} {package : Package} :
    program.get? path = some package ↔
      package.path = path ∧ ∃ before after, program = before ++ package :: after ∧
        ∀ later ∈ after, later.path ≠ path := by
  induction program with
  | nil => simp [Program.get?]
  | cons first rest ih =>
    rw [Program.get?, Option.or_eq_some_iff, ih, Program.get?_eq_none_iff]
    constructor
    · -- The package stands in the rest, or it is the first one and the rest has none of the path.
      rintro (⟨hpath, before, after, rfl, last⟩ | ⟨hnone, h⟩)
      · exact ⟨hpath, first :: before, after, rfl, last⟩
      · split at h
        · rename_i hpath
          cases h
          exact ⟨hpath, [], rest, rfl, hnone⟩
        · exact nomatch h
    · rintro ⟨hpath, before, after, listed, last⟩
      cases before with
      | nil =>
        cases listed
        exact .inr ⟨last, if_pos hpath⟩
      | cons _ before =>
        cases listed
        exact .inl ⟨hpath, before, after, rfl, last⟩

/-- What `Program.get?` finds is a package of the program, under its own path. -/
theorem Program.mem_of_get? {program : Program} {path : String} {package : Package}
    (h : program.get? path = some package) : package ∈ program ∧ package.path = path := by
  obtain ⟨hpath, before, after, rfl, -⟩ := Program.get?_eq_some_iff.1 h
  exact ⟨List.mem_append_right _ List.mem_cons_self, hpath⟩

end IfaceGen
