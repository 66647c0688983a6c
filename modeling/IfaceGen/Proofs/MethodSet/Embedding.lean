import IfaceGen.MethodSet.Search
import IfaceGen.Proofs.Package

/-!
# What embedded types refer to

An embedded type is a named type or an alias, or a pointer to one of them. `Scope.RefersTo` says
what it refers to: the predeclared interface `error`, or a declaration of the package to which the
name belongs, which is the package at hand or one that was loaded.

So the declaration is found by name alone: type arguments, and substitutions in them, do not matter.
In a scope of the shape that a type checker reports, the key of an embedding therefore determines
its declaration.

## Key results

- `Scope.resolve_eq_some_iff`: an embedded type is resolved to what it refers to
- `Scope.resolve_subst_key`: a substitution does not change the key of an embedded type
- `Scope.Known.decl_eq`: of known embeddings with one key the declarations are equal
- `Scope.RefersTo.known` / `Scope.known_root`: every embedding that a search meets is known
-/

namespace IfaceGen

/-- Whether a type is a type parameter or a pointer to one. Go does not let such a type be embedded,
    so `Package.WellShaped` excludes it. -/
def GoType.isParam : GoType → Bool
  | .typeParam _ | .pointer (.typeParam _) => true
  | _ => false

/-- The types that a struct or an interface embeds, in the order of its fields or elements. -/
def GoType.embeds : GoType → List GoType
  | .struct fields => (fields.filter (·.embedded)).map (·.type)
  | .interface embeddeds _ => embeddeds
  | _ => []

/-- The methods that an interface literal lists itself; other types have none. -/
def GoType.literalMethods : GoType → List Method
  | .interface _ methods => methods
  | _ => []

/-- The shape of a package that a type checker reports: it has a path, type names are distinct, so
    are the method names of one interface literal, and no type parameter is embedded. -/
structure Package.WellShaped (package : Package) : Prop where
  path_ne : package.path ≠ ""
  types_nodup : (package.types.map (·.name)).Nodup
  methods_nodup : ∀ decl ∈ package.types, (decl.underlying.literalMethods.map (·.name)).Nodup
  embeds_named : ∀ decl ∈ package.types, ∀ type ∈ decl.underlying.embeds, type.isParam = false

/-- What makes a type known by its key: the package has a path, type names are distinct, and what is
    embedded has a name. It is the part of `Package.WellShaped` that does not speak of methods. -/
structure Package.Keyed (package : Package) : Prop where
  path_ne : package.path ≠ ""
  types_nodup : (package.types.map (·.name)).Nodup
  embeds_named : ∀ decl ∈ package.types, ∀ type ∈ decl.underlying.embeds, type.isParam = false

/-! ## What embedded types refer to -/

/-- A type that is written as a name with type arguments: the name of a declared type (`.named`) or
    of an alias (`.alias`). -/
inductive GoType.IsName : GoType → TypeName → List GoType → Prop
  | named {name : TypeName} {args : List GoType} : IsName (.named name args) name args
  | alias {name : TypeName} {args : List GoType} : IsName (.alias name args) name args

/-- A type that embeds a name: the name itself (`GoType.IsName`), or a pointer to it. -/
inductive GoType.Embeds : GoType → TypeName → List GoType → Prop
  | value {type : GoType} {name : TypeName} {args : List GoType} (h : type.IsName name args) :
      Embeds type name args
  | pointer {elem : GoType} {name : TypeName} {args : List GoType} (h : elem.IsName name args) :
      Embeds (.pointer elem) name args

namespace Scope

/-- The package to which a path belongs: the package at hand if the path is its own, and else the
    package that was loaded last with this path. `Scope.package?` finds it. -/
inductive Owner (scope : Scope) (path : String) : Package → Prop
  | own (path_eq : path = scope.package.path) : Owner scope path scope.package
  | loaded {before after : List Package} {package : Package}
      (foreign : path ≠ scope.package.path) (path_eq : package.path = path)
      (listed : scope.program = before ++ package :: after)
      (last : ∀ later ∈ after, later.path ≠ path) : Owner scope path package

/-- What a type refers to where it is embedded. The only predeclared type that has methods is the
    interface `error`; a type of a package is its declaration there, whose type parameters stand for
    the type arguments by position. `Scope.resolve` finds it. -/
inductive RefersTo (scope : Scope) (type : GoType) : Embedding → Prop
  | error {args : List GoType} (embeds : type.Embeds ⟨none, "error"⟩ args) :
      RefersTo scope type ⟨"", errorDecl, [], false⟩
  | declared {ref : PackageRef} {name : String} {args : List GoType} {package : Package}
      {decl : TypeDecl} (embeds : type.Embeds ⟨some ref, name⟩ args)
      (owner : scope.Owner ref.path package) (declares : package.Declares name decl) :
      RefersTo scope type
        ⟨package.path, decl, (decl.typeParams.map (·.name)).zip args, false⟩

end Scope

/-! ## Looking up names -/

/-- `GoType.embeddedName?` reads the name of exactly the types that embed one. -/
theorem GoType.embeddedName?_eq_some_iff {type : GoType} {name : TypeName} {args : List GoType} :
    type.embeddedName? = some (name, args) ↔ type.Embeds name args := by
  constructor
  · intro h
    unfold embeddedName? at h
    -- One case for each pattern: a name or an alias, itself or behind a pointer.
    split at h <;> cases h
    · exact .value .named
    · exact .value .alias
    · exact .pointer .named
    · exact .pointer .alias
  · intro h
    cases h with
    | value h => cases h <;> rfl
    | pointer h => cases h <;> rfl

namespace Scope

/-- The packages that types are looked up in: the one at hand and those of the program. -/
def Loads (scope : Scope) (package : Package) : Prop :=
  package = scope.package ∨ ∃ path, scope.program.get? path = some package

/-- A scope all of whose packages are `Package.WellShaped`. -/
def WellShaped (scope : Scope) : Prop :=
  ∀ package, scope.Loads package → package.WellShaped

/-- A scope all of whose packages are `Package.Keyed`. -/
def Keyed (scope : Scope) : Prop :=
  ∀ package, scope.Loads package → package.Keyed

theorem WellShaped.keyed {scope : Scope} (h : scope.WellShaped) : scope.Keyed :=
  fun package hloads =>
    ⟨(h package hloads).path_ne, (h package hloads).types_nodup, (h package hloads).embeds_named⟩

/-- `Scope.package?` finds the package that the path of a reference belongs to; the name in the
    reference does not matter. -/
theorem package?_eq_some_iff {scope : Scope} {ref : PackageRef} {package : Package} :
    scope.package? ref = some package ↔ scope.Owner ref.path package := by
  rw [package?, Package.owns]
  -- Its own path never leads a scope to the program.
  by_cases hown : ref.path = scope.package.path
  · rw [if_pos (decide_eq_true hown)]
    constructor
    · rintro ⟨⟩
      exact .own hown
    · rintro (- | ⟨foreign, -, -, -⟩)
      · rfl
      · exact absurd hown foreign
  · rw [if_neg (by simpa using hown), Program.get?_eq_some_iff]
    constructor
    · rintro ⟨hpath, before, after, listed, last⟩
      exact .loaded hown hpath listed last
    · rintro (hown' | ⟨-, hpath, listed, last⟩)
      · exact absurd hown' hown
      · exact ⟨hpath, _, _, listed, last⟩

/-- The package of a reference is loaded and has the path of the reference. -/
theorem loads_of_package? {scope : Scope} {ref : PackageRef} {package : Package}
    (h : scope.package? ref = some package) :
    scope.Loads package ∧ package.path = ref.path := by
  unfold package? at h
  split at h
  · rename_i howns
    cases h
    exact ⟨.inl rfl, (of_decide_eq_true howns).symm⟩
  · exact ⟨.inr ⟨ref.path, h⟩, (Program.mem_of_get? h).2⟩

/-- References with one path lead `Scope.package?` to one package. -/
theorem package?_congr (scope : Scope) {ref ref' : PackageRef} (h : ref.path = ref'.path) :
    scope.package? ref = scope.package? ref' := by
  unfold package? Package.owns
  rw [h]

/-- The instance of a declared type that a name with type arguments denotes, as `Scope.resolve`
    computes it. -/
def instance? (scope : Scope) (name : TypeName) (args : List GoType) : Option Embedding :=
  match name.pkg with
  | none => if name.name = errorDecl.name then some ⟨"", errorDecl, [], false⟩ else none
  | some ref => (scope.package? ref).bind fun package =>
    (package.lookup? name.name).map fun decl =>
      ⟨package.path, decl, (decl.typeParams.map (·.name)).zip args, false⟩

/-- Apart from what it logs, `Scope.resolve` looks up a name with `Scope.instance?`. -/
theorem value_resolve (scope : Scope) (type : GoType) :
    (scope.resolve type).value =
      type.embeddedName?.bind fun (name, args) => scope.instance? name args := by
  unfold resolve
  -- The cases are those of `Scope.resolve`: no name, a predeclared name, a name in a package.
  split
  · rename_i hname
    rw [hname]; rfl
  · rename_i name args hname
    rw [hname]
    simp only [Option.bind_some, instance?]
    split <;> rfl
  · rename_i ref name args hname
    rw [hname]
    simp only [Option.bind_some, instance?]
    cases scope.package? ref with
    | none => rfl
    | some package =>
      simp only [Option.bind_some]
      cases package.lookup? name with
      | none => rfl
      | some decl => rfl

/-- `Scope.resolve` finds what a type refers to, and nothing if there is no such thing. -/
theorem resolve_eq_some_iff {scope : Scope} {type : GoType} {embedding : Embedding} :
    (scope.resolve type).value = some embedding ↔ scope.RefersTo type embedding := by
  rw [value_resolve, Option.bind_eq_some_iff]
  constructor
  · rintro ⟨⟨⟨pkg, name⟩, args⟩, hname, h⟩
    have embeds := GoType.embeddedName?_eq_some_iff.1 hname
    -- A name without a package is predeclared; any other one is looked up in its package.
    cases pkg with
    | none =>
      obtain ⟨rfl, h⟩ := Option.ite_none_right_eq_some.1 h
      cases h
      exact .error embeds
    | some ref =>
      obtain ⟨package, hpackage, h⟩ := Option.bind_eq_some_iff.1 h
      obtain ⟨decl, hdecl, rfl⟩ := Option.map_eq_some_iff.1 h
      exact .declared embeds (package?_eq_some_iff.1 hpackage) (Package.lookup?_eq_some_iff.1 hdecl)
  · intro h
    cases h with
    | error embeds => exact ⟨_, GoType.embeddedName?_eq_some_iff.2 embeds, rfl⟩
    | declared embeds owner declares =>
      refine ⟨_, GoType.embeddedName?_eq_some_iff.2 embeds, ?_⟩
      simp only [instance?, package?_eq_some_iff.2 owner, Package.lookup?_eq_some_iff.2 declares,
        Option.bind_some, Option.map_some]

/-- A type refers to one declaration at most, since `Scope.resolve` is a function. -/
theorem RefersTo.unique {scope : Scope} {type : GoType} {embedding other : Embedding}
    (h : scope.RefersTo type embedding) (h' : scope.RefersTo type other) : embedding = other :=
  Option.some.inj ((resolve_eq_some_iff.2 h).symm.trans (resolve_eq_some_iff.2 h'))

/-- An embedding whose declaration is the one that its key stands for, in `errorDecl` or in a
    package of the scope. -/
def Known (scope : Scope) (embedding : Embedding) : Prop :=
  embedding.pkg = "" ∧ embedding.decl = errorDecl ∨
    ∃ ref package, scope.package? ref = some package ∧ package.path = embedding.pkg ∧
      package.lookup? embedding.decl.name = some embedding.decl

/-- What an embedded type refers to is `Scope.Known`. -/
theorem RefersTo.known {scope : Scope} {type : GoType} {embedding : Embedding}
    (h : scope.RefersTo type embedding) : scope.Known embedding := by
  cases h with
  | error _ => exact .inl ⟨rfl, rfl⟩
  | @declared ref _ _ package _ _ owner declares =>
    have hname := (Package.mem_of_lookup? (Package.lookup?_eq_some_iff.2 declares)).2
    exact .inr ⟨ref, package, package?_eq_some_iff.2 owner, rfl,
      Package.lookup?_eq_some_iff.2 (hname ▸ declares)⟩

/-- A type to which one type refers has been reached on one way. -/
theorem RefersTo.multiple_eq {scope : Scope} {type : GoType} {embedding : Embedding}
    (h : scope.RefersTo type embedding) : embedding.multiple = false := by
  cases h <;> rfl

/-- The key of a declaration that `Package.lookup?` finds is one of the package at hand or of the
    loaded program. -/
theorem key_mem_of_lookup? {scope : Scope} {ref : PackageRef} {package : Package} {name : String}
    {decl : TypeDecl} (hpackage : scope.package? ref = some package)
    (hdecl : package.lookup? name = some decl) :
    (package.path, decl.name) ∈ scope.package.keys ++ scope.program.flatMap Package.keys := by
  have hkey : (package.path, decl.name) ∈ package.keys :=
    List.mem_map_of_mem (Package.mem_of_lookup? hdecl).1
  refine List.mem_append.2 ?_
  rcases (loads_of_package? hpackage).1 with rfl | ⟨path, hpath⟩
  · exact .inl hkey
  · exact .inr (List.mem_flatMap.2 ⟨package, (Program.mem_of_get? hpath).1, hkey⟩)

/-- Every type that is known is among `Scope.keys`. -/
theorem Known.key_mem_keys {scope : Scope} {embedding : Embedding} (h : scope.Known embedding) :
    embedding.key ∈ scope.keys := by
  rcases h with ⟨hpkg, hdecl⟩ | ⟨ref, package, hpackage, hpath, hdecl⟩
  · rw [Embedding.key, hpkg, hdecl]
    exact List.mem_cons_self
  · rw [Embedding.key, ← hpath]
    exact List.mem_cons_of_mem _ (key_mem_of_lookup? hpackage hdecl)

/-- Every type that can be reached through embedding is among `Scope.keys`. -/
theorem RefersTo.key_mem_keys {scope : Scope} {type : GoType} {embedding : Embedding}
    (h : scope.RefersTo type embedding) : embedding.key ∈ scope.keys :=
  h.known.key_mem_keys

/-- The key of what `Scope.instance?` finds does not depend on the type arguments. -/
theorem map_key_instance? (scope : Scope) (name : TypeName) (args args' : List GoType) :
    (scope.instance? name args).map Embedding.key =
      (scope.instance? name args').map Embedding.key := by
  unfold instance?
  split
  · rfl
  · rename_i ref _
    cases scope.package? ref with
    | none => rfl
    | some package =>
      simp only [Option.bind_some, Option.map_map]
      rfl

end Scope

/-- A substitution in an embedded type changes the type arguments that `GoType.embeddedName?` reads,
    and nothing else. -/
theorem GoType.embeddedName?_subst {type : GoType} (h : type.isParam = false) (s : Subst) :
    (type.subst s).embeddedName? =
      type.embeddedName?.map fun (name, args) => (name, substTypes s args) := by
  -- Only a type parameter is replaced by a type of another form.
  cases type with
  | typeParam name => exact nomatch h
  | pointer elem =>
    cases elem with
    | typeParam name => exact nomatch h
    | _ => rfl
  | _ => rfl

namespace Scope

/-- A substitution in an embedded type does not change the key of what `Scope.resolve` finds. -/
theorem resolve_subst_key (scope : Scope) {type : GoType} (h : type.isParam = false) (s : Subst) :
    (scope.resolve (type.subst s)).value.map Embedding.key =
      (scope.resolve type).value.map Embedding.key := by
  rw [value_resolve, value_resolve, GoType.embeddedName?_subst h]
  cases type.embeddedName? with
  | none => rfl
  | some found =>
    simp only [Option.map_some, Option.bind_some]
    exact scope.map_key_instance? _ _ _

/-- The declaration of a known embedding is `errorDecl` or stands in a loaded package. -/
theorem Known.decl_eq_or_mem {scope : Scope} {embedding : Embedding}
    (h : scope.Known embedding) :
    embedding.decl = errorDecl ∨
      ∃ package, scope.Loads package ∧ embedding.decl ∈ package.types := by
  rcases h with ⟨-, h⟩ | ⟨ref, package, hpackage, -, hdecl⟩
  · exact .inl h
  · exact .inr ⟨package, (loads_of_package? hpackage).1, (Package.mem_of_lookup? hdecl).1⟩

/-- No type parameter is embedded in the declaration of a known embedding. -/
theorem Known.embeds_named {scope : Scope} (hscope : scope.Keyed) {embedding : Embedding}
    (h : scope.Known embedding) {type : GoType} (htype : type ∈ embedding.decl.underlying.embeds) :
    type.isParam = false := by
  rcases h.decl_eq_or_mem with hdecl | ⟨package, hpackage, hdecl⟩
  · rw [hdecl] at htype
    exact nomatch htype
  · exact (hscope package hpackage).embeds_named _ hdecl type htype

/-- No type parameter is an element of a known interface. -/
theorem Known.elements_named {scope : Scope} (hscope : scope.Keyed) {embedding : Embedding}
    (h : scope.Known embedding) {embeddeds : List GoType} {own : List Method}
    (hinterface : embedding.decl.underlying = .interface embeddeds own) {type : GoType}
    (htype : type ∈ embeddeds) : type.isParam = false := by
  refine h.embeds_named hscope ?_
  rw [hinterface]
  exact htype

/-- The method names of an interface literal are distinct in a known declaration. -/
theorem Known.methods_nodup {scope : Scope} (hscope : scope.WellShaped) {embedding : Embedding}
    (h : scope.Known embedding) :
    (embedding.decl.underlying.literalMethods.map (·.name)).Nodup := by
  rcases h.decl_eq_or_mem with hdecl | ⟨package, hpackage, hdecl⟩
  · rw [hdecl]
    exact List.nodup_singleton _
  · exact (hscope package hpackage).methods_nodup _ hdecl

/-- Where every package has a path, the key of a known embedding determines its declaration. -/
theorem Known.decl_eq_of_path_ne {scope : Scope}
    (hpaths : ∀ package, scope.Loads package → package.path ≠ "") {a b : Embedding}
    (ha : scope.Known a) (hb : scope.Known b) (hkey : a.key = b.key) : a.decl = b.decl := by
  have hpkg : a.pkg = b.pkg := congrArg Prod.fst hkey
  have hname : a.decl.name = b.decl.name := congrArg Prod.snd hkey
  -- No package has the empty path, under which the predeclared interface is known.
  have path_ne {ref package} (h : scope.package? ref = some package) : package.path ≠ "" :=
    hpaths package (loads_of_package? h).1
  -- Either both are the predeclared interface, or both stand in the package of the key.
  rcases ha with ⟨hae, hade⟩ | ⟨ra, pa, hpa, hpatha, hda⟩
  · rcases hb with ⟨-, hbde⟩ | ⟨rb, pb, hpb, hpathb, -⟩
    · rw [hade, hbde]
    · exact absurd (by rw [hpathb, ← hpkg, hae]) (path_ne hpb)
  · rcases hb with ⟨hbe, -⟩ | ⟨rb, pb, hpb, hpathb, hdb⟩
    · exact absurd (by rw [hpatha, hpkg, hbe]) (path_ne hpa)
    · have hpath : ra.path = rb.path := by
        rw [← (loads_of_package? hpa).2, ← (loads_of_package? hpb).2, hpatha, hpathb, hpkg]
      rw [scope.package?_congr hpath, hpb] at hpa
      cases hpa
      rw [hname, hdb] at hda
      exact (Option.some.inj hda).symm

/-- The key of a known embedding determines its declaration. -/
theorem Known.decl_eq {scope : Scope} (hscope : scope.Keyed) {a b : Embedding}
    (ha : scope.Known a) (hb : scope.Known b) (hkey : a.key = b.key) : a.decl = b.decl :=
  ha.decl_eq_of_path_ne (fun package hloads => (hscope package hloads).path_ne) hb hkey

/-- The embedding that `Scope.methodSet` starts from. -/
def root (scope : Scope) (decl : TypeDecl) : Embedding :=
  ⟨scope.package.path, decl, [], false⟩

theorem known_root {scope : Scope} (hscope : scope.Keyed) {decl : TypeDecl}
    (h : decl ∈ scope.package.types) : scope.Known (scope.root decl) := by
  refine .inr ⟨scope.package.ref, scope.package, ?_, rfl, ?_⟩
  · simp [package?, Package.owns, Package.ref]
  · exact Package.lookup?_of_mem (hscope _ (.inl rfl)).types_nodup h

end Scope

end IfaceGen
