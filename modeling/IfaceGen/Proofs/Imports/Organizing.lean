import IfaceGen.Proofs.List
import IfaceGen.Syntax.File
import Mathlib.Data.String.Basic

/-!
# Organizing imports

Which imports a file needs is a matter of its declarations: `Expr.Within` says where an expression
stands inside another one, `File.Uses` that some type in a declaration has a qualifier in front of a
name, however deep. Organizing keeps the imports that are used, each as often as it is listed, and
puts them in the order of their paths, imports of one path in the order in which they were listed.
This leaves no choice (`File.Organizes.unique`), so that the other properties follow from it.

## Key results

- `Expr.mem_qualifiers_iff`: the qualifiers of an expression are those that stand anywhere in it
- `File.mem_qualifiers_iff`: the same for all declarations of a file
- `File.organizes_organizeImports`: organizing keeps the used imports, in order
- `File.Organizes.unique`: there is only one way to do this
- `File.organizeImports_keepsUsed`: what organizing does, and what it does not depend on
-/

namespace IfaceGen

/-! ## Expressions inside expressions -/

/-- The types of the parameters, then those of the results. -/
def FuncType.types (type : FuncType) : List Expr :=
  type.params.map (·.type) ++ type.results.map (·.type)

/-- The expressions that stand directly in an expression, in reading order. -/
def Expr.parts : Expr → List Expr
  | .ident _ | .selector _ _ => []
  | .array _ elem | .chan _ elem | .star elem | .ellipsis elem | .tilde elem => [elem]
  | .map left right | .index left right | .or left right => [left, right]
  | .func type => type.types
  | .indexList base args => base :: args

/-- An expression stands somewhere in another one, or is that one. -/
inductive Expr.Within : Expr → Expr → Prop
  | refl (expr : Expr) : Within expr expr
  | part {inner part whole : Expr} (hinner : Within inner part) (hpart : part ∈ whole.parts) :
      Within inner whole

/-- The qualifier that an expression starts with, if it is a selector. -/
def Expr.ownQualifier : Expr → List String
  | .selector qualifier _ => [qualifier]
  | _ => []

theorem Expr.mem_ownQualifier {expr : Expr} {qualifier : String} :
    qualifier ∈ expr.ownQualifier ↔ ∃ name, expr = .selector qualifier name := by
  cases expr <;> simp [Expr.ownQualifier, eq_comm]

theorem exprsQualifiers_eq_flatMap (exprs : List Expr) :
    exprsQualifiers exprs = exprs.flatMap (·.qualifiers) := by
  induction exprs with
  | nil => rfl
  | cons expr exprs ih => rw [exprsQualifiers, List.flatMap_cons, ih]

theorem paramsQualifiers_eq_flatMap (params : List Param) :
    paramsQualifiers params = (params.map (·.type)).flatMap (·.qualifiers) := by
  induction params with
  | nil => rfl
  | cons param params ih =>
    obtain ⟨name, type⟩ := param
    rw [paramsQualifiers, List.map_cons, List.flatMap_cons, ih]

theorem FuncType.qualifiers_eq_flatMap (type : FuncType) :
    type.qualifiers = type.types.flatMap (·.qualifiers) := by
  obtain ⟨params, results⟩ := type
  rw [FuncType.qualifiers, paramsQualifiers_eq_flatMap, paramsQualifiers_eq_flatMap,
    ← List.flatMap_append]
  rfl

/-- `Expr.qualifiers` are the own qualifier of an expression and those of its `parts`. -/
theorem Expr.qualifiers_eq (expr : Expr) :
    expr.qualifiers = expr.ownQualifier ++ expr.parts.flatMap (·.qualifiers) := by
  cases expr with
  | func type => exact type.qualifiers_eq_flatMap
  | indexList base args =>
    rw [Expr.qualifiers, exprsQualifiers_eq_flatMap, ← List.flatMap_cons]
    rfl
  | _ => simp [Expr.qualifiers, Expr.ownQualifier, Expr.parts]

theorem FuncType.sizeOf_lt_of_mem_types {part : Expr} {type : FuncType} (h : part ∈ type.types) :
    sizeOf part < sizeOf type := by
  -- A type stands in a parameter, and the parameter in the list.
  have hlt {params : List Param} (h : part ∈ params.map (·.type)) :
      sizeOf part < sizeOf params := by
    obtain ⟨⟨name, type⟩, hparam, rfl⟩ := List.mem_map.1 h
    have hlt := List.sizeOf_lt_of_mem hparam
    simp only [Param.mk.sizeOf_spec] at hlt
    show sizeOf type < sizeOf params
    omega
  obtain ⟨params, results⟩ := type
  simp only [FuncType.mk.sizeOf_spec]
  rcases List.mem_append.1 h with h | h
  · have : sizeOf part < sizeOf params := hlt h
    omega
  · have : sizeOf part < sizeOf results := hlt h
    omega

theorem Expr.sizeOf_lt_of_mem_parts {part whole : Expr} (h : part ∈ whole.parts) :
    sizeOf part < sizeOf whole := by
  -- Each form of expression is greater than what stands in it.
  cases whole with
  | func type =>
    have := FuncType.sizeOf_lt_of_mem_types h
    simp only [Expr.func.sizeOf_spec]
    omega
  | indexList base args =>
    simp only [Expr.indexList.sizeOf_spec]
    rcases List.mem_cons.1 h with rfl | h
    · omega
    · have := List.sizeOf_lt_of_mem h
      omega
  | ident _ | selector _ _ => exact nomatch h
  | array _ elem | chan _ elem | star elem | ellipsis elem | tilde elem =>
    obtain rfl := List.mem_singleton.1 h
    decreasing_tactic
  | map left right | index left right | or left right =>
    simp only [Expr.parts, List.mem_cons, List.not_mem_nil, or_false] at h
    rcases h with rfl | rfl <;> decreasing_tactic

/-- `Expr.qualifiers` are those in front of a name somewhere in the expression (`Within`). -/
theorem Expr.mem_qualifiers_iff {expr : Expr} {qualifier : String} :
    qualifier ∈ expr.qualifiers ↔ ∃ name, (Expr.selector qualifier name).Within expr := by
  rw [Expr.qualifiers_eq, List.mem_append, List.mem_flatMap, Expr.mem_ownQualifier]
  -- A selector is the expression itself, or stands within one of its parts.
  constructor
  · rintro (⟨name, rfl⟩ | ⟨part, hpart, hqualifier⟩)
    · exact ⟨name, .refl _⟩
    · obtain ⟨name, hwithin⟩ := Expr.mem_qualifiers_iff.1 hqualifier
      exact ⟨name, .part hwithin hpart⟩
  · rintro ⟨name, hwithin⟩
    cases hwithin with
    | refl => exact .inl ⟨name, rfl⟩
    | part hinner hpart => exact .inr ⟨_, hpart, Expr.mem_qualifiers_iff.2 ⟨name, hinner⟩⟩
termination_by sizeOf expr
decreasing_by all_goals exact Expr.sizeOf_lt_of_mem_parts ‹_›

/-! ## Qualifiers of a file -/

/-- The types that a declaration writes: the constraints of its type parameters, and the parameters
    and results of its methods. -/
def InterfaceDecl.types (decl : InterfaceDecl) : List Expr :=
  decl.typeParams.map (·.type) ++ decl.methods.flatMap (·.type.types)

/-- Some declaration has the qualifier in front of a name, somewhere in one of its types. -/
def File.Uses (file : File) (qualifier : String) : Prop :=
  ∃ decl ∈ file.decls, ∃ type ∈ decl.types, ∃ name, (Expr.selector qualifier name).Within type

theorem InterfaceDecl.qualifiers_eq_flatMap (decl : InterfaceDecl) :
    decl.qualifiers = decl.types.flatMap (·.qualifiers) := by
  simp only [InterfaceDecl.qualifiers, InterfaceDecl.types, List.flatMap_append,
    paramsQualifiers_eq_flatMap, List.flatMap_assoc, FuncType.qualifiers_eq_flatMap]

/-- The qualifiers that `File.qualifiers` collects are those that the file `Uses`. -/
theorem File.mem_qualifiers_iff {file : File} {qualifier : String} :
    qualifier ∈ file.qualifiers ↔ file.Uses qualifier := by
  simp only [File.qualifiers, File.Uses, InterfaceDecl.qualifiers_eq_flatMap, List.mem_flatMap,
    Expr.mem_qualifiers_iff]

instance (file : File) (qualifier : String) : Decidable (file.Uses qualifier) :=
  decidable_of_iff _ File.mem_qualifiers_iff

/-! ## Organized files -/

/-- What organizing the imports of a file comes to: the imports that are used, in the order of their
    paths, and those of one path in the order in which they were listed. -/
structure File.Organizes (file organized : File) : Prop where
  package : organized.package = file.package
  decls : organized.decls = file.decls
  sorted : organized.imports.Pairwise fun a b => a.path ≤ b.path
  kept (path : String) : organized.imports.filter (·.path = path) =
    (file.imports.filter fun spec => file.Uses spec.localName).filter (·.path = path)

/-- The imports that `organizeImports` keeps are those that are used, sorted by path. -/
theorem File.imports_organizeImports (file : File) :
    file.organizeImports.imports =
      (file.imports.filter fun spec => file.Uses spec.localName).mergeSort
        (fun a b => a.path ≤ b.path) := by
  have hused : file.imports.filter (file.qualifiers.contains ·.localName) =
      file.imports.filter fun spec => file.Uses spec.localName := by
    refine List.filter_congr fun spec _ => ?_
    rw [List.contains_eq_mem]
    exact decide_eq_decide.2 File.mem_qualifiers_iff
  rw [File.organizeImports, hused]

theorem File.organizes_organizeImports (file : File) : file.Organizes file.organizeImports where
  package := rfl
  decls := rfl
  sorted := by
    rw [file.imports_organizeImports]
    exact pairwise_mergeSort_key _
  kept path := by
    rw [file.imports_organizeImports]
    exact filter_key_mergeSort _ path

/-- There is only one way to organize the imports of a file: `Organizes` is a function. -/
theorem File.Organizes.unique {file a b : File} (ha : file.Organizes a) (hb : file.Organizes b) :
    a = b := by
  have himports : a.imports = b.imports :=
    eq_of_filter_key_eq ha.sorted hb.sorted fun path => (ha.kept path).trans (hb.kept path).symm
  cases a
  cases b
  obtain rfl := himports
  obtain rfl := ha.package.trans hb.package.symm
  obtain rfl := ha.decls.trans hb.decls.symm
  rfl

theorem File.Organizes.uses {file organized : File} (h : file.Organizes organized) {spec : Import}
    (hspec : spec ∈ organized.imports) : file.Uses spec.localName := by
  have hmem : spec ∈ organized.imports.filter (·.path = spec.path) :=
    List.mem_filter.2 ⟨hspec, decide_eq_true rfl⟩
  rw [h.kept spec.path] at hmem
  exact of_decide_eq_true (List.mem_filter.1 (List.mem_filter.1 hmem).1).2

/-- An organized file `Organizes` to itself, as each of its imports is used. -/
theorem File.Organizes.self {file organized : File} (h : file.Organizes organized) :
    organized.Organizes organized where
  package := rfl
  decls := rfl
  sorted := h.sorted
  kept path := by
    -- All the imports that are left are used, as the declarations stay the same.
    have hall : organized.imports.filter (fun spec => organized.Uses spec.localName) =
        organized.imports := by
      refine List.filter_eq_self.2 fun spec hspec => decide_eq_true ?_
      rw [File.Uses, h.decls]
      exact h.uses hspec
    rw [hall]

/-- Where paths are distinct, `organizeImports` does not depend on the order of the imports. -/
theorem File.organizeImports_eq_of_perm {file : File} {imports : List Import}
    (hperm : imports.Perm file.imports) (hpaths : (imports.map (·.path)).Nodup) :
    { file with imports }.organizeImports = file.organizeImports := by
  have hused : ((imports.filter (file.qualifiers.contains ·.localName)).map (·.path)).Nodup :=
    (List.filter_sublist.map Import.path).nodup hpaths
  show { file with imports := _ } = { file with imports := _ }
  congr 1
  exact mergeSort_eq_of_perm (hperm.filter _) hused

/-- Organizing keeps the package clause and the declarations, and of the imports those that are
    used, each as often as it is listed, in the order of their paths. Doing so again changes
    nothing, and the order of the imports does not matter where their paths are distinct. Every
    qualifier is bound by the imports that bound it before. -/
theorem File.organizeImports_keepsUsed (file : File) :
    (file.organizeImports.package = file.package ∧ file.organizeImports.decls = file.decls) ∧
    file.organizeImports.imports.Perm (file.imports.filter fun spec => file.Uses spec.localName) ∧
    file.organizeImports.imports.Pairwise (fun a b => a.path ≤ b.path) ∧
    file.organizeImports.organizeImports = file.organizeImports ∧
    (∀ imports : List Import, imports.Perm file.imports → (imports.map (·.path)).Nodup →
      { file with imports }.organizeImports = file.organizeImports) ∧
    ∀ qualifier, file.Uses qualifier →
      (file.organizeImports.imports.filter (·.localName = qualifier)).Perm
        (file.imports.filter (·.localName = qualifier)) := by
  have horganizes := file.organizes_organizeImports
  have hperm : file.organizeImports.imports.Perm
      (file.imports.filter fun spec => file.Uses spec.localName) := by
    rw [file.imports_organizeImports]
    exact List.mergeSort_perm _ _
  refine ⟨⟨horganizes.package, horganizes.decls⟩, hperm, horganizes.sorted, ?_, ?_, ?_⟩
  · exact (File.organizes_organizeImports _).unique horganizes.self
  · exact fun imports => File.organizeImports_eq_of_perm
  · intro qualifier huses
    -- No import of that name was dropped.
    have hall : (file.imports.filter fun spec => file.Uses spec.localName).filter
        (·.localName = qualifier) = file.imports.filter (·.localName = qualifier) := by
      rw [List.filter_filter]
      refine List.filter_congr fun spec _ => ?_
      by_cases hname : spec.localName = qualifier
      · simp [hname, huses]
      · simp [hname]
    exact hall ▸ hperm.filter _

namespace Depot

/-- An import that is written with its name. -/
def named (name path : String) : Import := ⟨some name, path⟩

/-- A declaration with qualifiers in a constraint, inside a function type and in a type argument. -/
def decl : InterfaceDecl where
  name := "DepotIface"
  typeParams := [⟨some "T", .or (.tilde (.selector "util" "Key")) (.ident "string")⟩]
  methods := [⟨"Visit", ⟨[⟨none, .func ⟨[⟨none, .map (.ident "T") (.selector "ctx" "Context")⟩],
    []⟩⟩], [⟨none, .index (.ident "Box") (.selector "log" "Line")⟩]⟩⟩]

/-- A file with the declaration `decl`, with two imports of one name, one of which has its name from
    the path, and with an import that nothing refers to. -/
def file : File where
  package := "mocks"
  imports := [named "log" "z/log", ⟨none, "b/util"⟩, named "old" "a/ctx", ⟨none, "c/ctx"⟩,
    named "util" "a/util"]
  decls := [decl]

/-- Whatever the order of the imports, both imports named `util` are kept. -/
theorem organizeImports_file :
    ((file.imports.reverse.Perm file.imports ∧ (file.imports.reverse.map (·.path)).Nodup) ∧
      { file with imports := file.imports.reverse }.organizeImports = file.organizeImports) ∧
    file.Uses "util" ∧
      (file.organizeImports.imports.filter (·.localName = "util")).Perm
        [⟨none, "b/util"⟩, named "util" "a/util"] := by
  have hperm : file.imports.reverse.Perm file.imports := List.reverse_perm _
  have hpaths : (file.imports.reverse.map (·.path)).Nodup := by decide
  have huses : file.Uses "util" := by decide +kernel
  obtain ⟨-, -, -, -, horder, hbound⟩ := file.organizeImports_keepsUsed
  exact ⟨⟨⟨hperm, hpaths⟩, horder _ hperm hpaths⟩, huses, hbound "util" huses⟩

end Depot

end IfaceGen
