import IfaceGen.Package.Codec
import IfaceGen.Proofs.Data.Record

/-!
# Models as records

What a record is read as, for every part of a model: each field on its own, whatever else the record
holds. Writing a model and reading it again gives back the model.

## Key results

- `GoType.decode_record` / `Signature.read_record` / `Package.decode_record`: what the fields are
  read as
- `GoType.decode_encode` / `Signature.read_encode` / `Package.decode_encode`: writing and reading
-/

namespace IfaceGen

open Data

/-! ## Readers of whole documents -/

/-- Holds a variable whose type is read by `readType`. -/
def Var.read (readType : Data → Option GoType) (whole : Data) : Option Var :=
  Var.decodeWith whole (readType ·.val)

/-- Holds a signature whose types are read by `readType`. -/
def Signature.read (readType : Data → Option GoType) (whole : Data) : Option Signature :=
  Signature.decodeWith whole (readType ·.val)

/-- Holds a method whose types are read by `readType`. -/
def Method.read (readType : Data → Option GoType) (whole : Data) : Option Method :=
  Method.decodeWith whole (readType ·.val)

/-- Holds a term whose type is read by `readType`. -/
def Term.read (readType : Data → Option GoType) (whole : Data) : Option Term :=
  Term.decodeWith whole (readType ·.val)

/-- Holds a field whose type is read by `readType`. -/
def Field.read (readType : Data → Option GoType) (whole : Data) : Option Field :=
  Field.decodeWith whole (readType ·.val)

/-- Holds a type parameter, however deep its constraint nests: `TypeParam.decodeWithin` without the
    limit. -/
def TypeParam.decode (whole : Data) : Option TypeParam := do
  match ← whole.slots ["name", "constraint"] with
  | [name, constraint] =>
    return ⟨← Data.required? (·.val.str?) name,
      ← Data.required? (GoType.decode false ·.val) constraint⟩
  | _ => none

/-- Holds a declaration, however deep its types nest: `TypeDecl.decodeWithin` without the limit. -/
def TypeDecl.decode (whole : Data) : Option TypeDecl := do
  match ← whole.slots ["name", "type_params", "underlying", "methods"] with
  | [name, typeParams, underlying, methods] =>
    return ⟨← Data.required? (·.val.str?) name,
      ← Data.field? [] (readItems TypeParam.decode ·.val) typeParams,
      ← Data.required? (GoType.decode false ·.val) underlying,
      ← Data.field? [] (readItems (Method.read (GoType.decode false)) ·.val) methods⟩
  | _ => none

/-- Holds a package, however deep its types nest: `Package.decodeWithin` without the limit. -/
def Package.decode (whole : Data) : Option Package := do
  match ← whole.slots ["path", "name", "types", "errors"] with
  | [path, name, types, errors] =>
    return ⟨← Data.required? (·.val.str?) path, ← Data.required? (·.val.str?) name,
      ← Data.field? [] (readItems TypeDecl.decode ·.val) types,
      ← Data.field? [] (readItems str? ·.val) errors⟩
  | _ => none

/-! ## Fields of a record -/

section Fields

variable {fields : List (String × Data)} {readType : Data → Option GoType}

theorem PackageRef.decode_record {ref : PackageRef} :
    PackageRef.decode (.record fields) = some ref ↔
      Holds fields "path" none str? ref.path ∧ Holds fields "name" none str? ref.name := by
  obtain ⟨path, name⟩ := ref
  simp only [PackageRef.decode, slots, List.mapM_cons, List.mapM_nil, Option.bind_eq_bind,
    Option.bind_assoc, Option.bind_some, Option.pure_def]
  simp only [Option.bind_eq_some_iff, Option.some.injEq, PackageRef.mk.injEq, holds_required?]
  grind

theorem Var.read_record {var : Var} :
    Var.read readType (.record fields) = some var ↔
      Holds fields "name" (some "") str? var.name ∧
        Holds fields "type" none readType var.type := by
  obtain ⟨name, type⟩ := var
  simp only [Var.read, Var.decodeWith, slots, List.mapM_cons, List.mapM_nil, Option.bind_eq_bind,
    Option.bind_assoc, Option.bind_some, Option.pure_def]
  simp only [Option.bind_eq_some_iff, Option.some.injEq, Var.mk.injEq, holds_field?,
    holds_required?]
  grind

theorem Signature.read_record {signature : Signature} :
    Signature.read readType (.record fields) = some signature ↔
      Holds fields "params" (some []) (readItems (Var.read readType)) signature.params ∧
        Holds fields "results" (some []) (readItems (Var.read readType)) signature.results ∧
        Holds fields "variadic" (some false) bool? signature.variadic := by
  obtain ⟨params, results, variadic⟩ := signature
  -- Reading within a value is reading the value by itself.
  have hvars (part : Part (.record fields)) : (part.mapItems? fun item =>
      Var.decodeWith item.val fun inner => readType (item.sub inner).val) =
        readItems (Var.read readType) part.val := mapItems?_val (Var.read readType) part.val
  simp only [Signature.read, Signature.decodeWith, slots, List.mapM_cons, List.mapM_nil,
    Option.bind_eq_bind, Option.bind_assoc, Option.bind_some, Option.pure_def, hvars]
  simp only [Option.bind_eq_some_iff, Option.some.injEq, Signature.mk.injEq, holds_field?]
  grind

theorem Method.read_record {method : Method} :
    Method.read readType (.record fields) = some method ↔
      Holds fields "name" none str? method.name ∧
        Holds fields "signature" none (Signature.read readType) method.signature := by
  obtain ⟨name, signature⟩ := method
  have hsignature (part : Part (.record fields)) : (Signature.decodeWith part.val fun inner =>
      readType (part.sub inner).val) = Signature.read readType part.val := rfl
  simp only [Method.read, Method.decodeWith, slots, List.mapM_cons, List.mapM_nil,
    Option.bind_eq_bind, Option.bind_assoc, Option.bind_some, Option.pure_def, hsignature]
  simp only [Option.bind_eq_some_iff, Option.some.injEq, Method.mk.injEq, holds_required?]
  grind

theorem Term.read_record {term : Term} :
    Term.read readType (.record fields) = some term ↔
      Holds fields "tilde" (some false) bool? term.tilde ∧
        Holds fields "type" none readType term.type := by
  obtain ⟨tilde, type⟩ := term
  simp only [Term.read, Term.decodeWith, slots, List.mapM_cons, List.mapM_nil, Option.bind_eq_bind,
    Option.bind_assoc, Option.bind_some, Option.pure_def]
  simp only [Option.bind_eq_some_iff, Option.some.injEq, Term.mk.injEq, holds_field?,
    holds_required?]
  grind

theorem Field.read_record {field : Field} :
    Field.read readType (.record fields) = some field ↔
      Holds fields "name" none str? field.name ∧ Holds fields "type" none readType field.type ∧
        Holds fields "embedded" (some false) bool? field.embedded := by
  obtain ⟨name, type, embedded⟩ := field
  simp only [Field.read, Field.decodeWith, slots, List.mapM_cons, List.mapM_nil,
    Option.bind_eq_bind, Option.bind_assoc, Option.bind_some, Option.pure_def]
  simp only [Option.bind_eq_some_iff, Option.some.injEq, Field.mk.injEq, holds_field?,
    holds_required?]
  grind

theorem TypeParam.decode_record {param : TypeParam} :
    TypeParam.decode (.record fields) = some param ↔
      Holds fields "name" none str? param.name ∧
        Holds fields "constraint" none (GoType.decode false) param.constraint := by
  obtain ⟨name, constraint⟩ := param
  simp only [TypeParam.decode, slots, List.mapM_cons, List.mapM_nil, Option.bind_eq_bind,
    Option.bind_assoc, Option.bind_some, Option.pure_def]
  simp only [Option.bind_eq_some_iff, Option.some.injEq, TypeParam.mk.injEq, holds_required?]
  grind

theorem TypeDecl.decode_record {decl : TypeDecl} :
    TypeDecl.decode (.record fields) = some decl ↔
      Holds fields "name" none str? decl.name ∧
        Holds fields "type_params" (some []) (readItems TypeParam.decode) decl.typeParams ∧
        Holds fields "underlying" none (GoType.decode false) decl.underlying ∧
        Holds fields "methods" (some []) (readItems (Method.read (GoType.decode false)))
          decl.methods := by
  obtain ⟨name, typeParams, underlying, methods⟩ := decl
  -- The fields are looked up one by one, and each is read from its place.
  simp only [TypeDecl.decode, slots, List.mapM_cons, List.mapM_nil, Option.bind_eq_bind,
    Option.bind_assoc, Option.bind_some, Option.pure_def]
  simp only [Option.bind_eq_some_iff, Option.some.injEq, TypeDecl.mk.injEq, holds_field?,
    holds_required?]
  grind

theorem Package.decode_record {package : Package} :
    Package.decode (.record fields) = some package ↔
      Holds fields "path" none str? package.path ∧ Holds fields "name" none str? package.name ∧
        Holds fields "types" (some []) (readItems TypeDecl.decode) package.types ∧
        Holds fields "errors" (some []) (readItems str?) package.errors := by
  obtain ⟨path, name, types, errors⟩ := package
  simp only [Package.decode, slots, List.mapM_cons, List.mapM_nil, Option.bind_eq_bind,
    Option.bind_assoc, Option.bind_some, Option.pure_def]
  simp only [Option.bind_eq_some_iff, Option.some.injEq, Package.mk.injEq, holds_field?,
    holds_required?]
  grind

theorem decodeNamed_record {named : TypeName × List GoType} :
    decodeNamed (.record fields) (readType ·.val) = some named ↔
      Holds fields "pkg" (some none) decodePkg named.1.pkg ∧
        Holds fields "name" none str? named.1.name ∧
        Holds fields "type_args" (some []) (readItems readType) named.2 := by
  obtain ⟨⟨pkg, name⟩, args⟩ := named
  have hargs (part : Part (.record fields)) : (part.mapItems? fun item => readType item.val) =
      readItems readType part.val := mapItems?_val readType part.val
  simp only [decodeNamed, slots, List.mapM_cons, List.mapM_nil, Option.bind_eq_bind,
    Option.bind_assoc, Option.bind_some, Option.pure_def, hargs]
  simp only [Option.bind_eq_some_iff, Option.some.injEq, Prod.mk.injEq, TypeName.mk.injEq,
    holds_field?, holds_required?]
  grind

end Fields

/-! ## Fields of a type -/

/-- Holds the kind of a type: its name, or inside another type its number. -/
def Kind.read (nested : Bool) : Data → Option Kind
  | .str name => some (Kind.ofName name)
  | .nat index =>
    if nested && index < UInt64.size then some (Kind.ofIndex index) else none
  | _ => none

/-- What the fields of a record are read as if it stands for a type of the given kind. Each field is
    there once or left out (`Holds`). -/
def Kind.Body (fields : List (String × Data)) (type : GoType) : Kind → Prop
  | .basic => ∃ name, type = .basic name ∧ Holds fields "name" none str? name
  | .array => ∃ len elem, type = .array len elem ∧ Holds fields "len" none word? len ∧
      Holds fields "elem" none (GoType.decode true) elem
  | .slice => ∃ elem, type = .slice elem ∧ Holds fields "elem" none (GoType.decode true) elem
  | .map => ∃ key elem, type = .map key elem ∧ Holds fields "key" none (GoType.decode true) key ∧
      Holds fields "elem" none (GoType.decode true) elem
  | .chan => ∃ dir elem, type = .chan dir elem ∧
      Holds fields "dir" (some .both) (ChanDir.decode true) dir ∧
      Holds fields "elem" none (GoType.decode true) elem
  | .pointer => ∃ elem, type = .pointer elem ∧ Holds fields "elem" none (GoType.decode true) elem
  | .interface => ∃ embeddeds methods, type = .interface embeddeds methods ∧
      Holds fields "embeddeds" (some []) (readItems (GoType.decode true)) embeddeds ∧
      Holds fields "methods" (some []) (readItems (Method.read (GoType.decode true))) methods
  | .signature => ∃ signature, type = .func signature ∧
      Signature.read (GoType.decode true) (.record fields) = some signature
  | .named => ∃ name args, type = .named name args ∧
      Holds fields "pkg" (some none) decodePkg name.pkg ∧ Holds fields "name" none str? name.name ∧
      Holds fields "type_args" (some []) (readItems (GoType.decode true)) args
  | .alias => ∃ name args, type = .alias name args ∧
      Holds fields "pkg" (some none) decodePkg name.pkg ∧ Holds fields "name" none str? name.name ∧
      Holds fields "type_args" (some []) (readItems (GoType.decode true)) args
  | .typeParam => ∃ name, type = .typeParam name ∧ Holds fields "name" none str? name
  | .union => ∃ terms, type = .union terms ∧
      Holds fields "terms" none (readItems (Term.read (GoType.decode true))) terms
  | .struct => ∃ members, type = .struct members ∧
      Holds fields "fields" (some []) (readItems (Field.read (GoType.decode true))) members
  | .unknown => type = .unknown

theorem Kind.decode_record {nested : Bool} {fields : List (String × Data)} {kind : Kind} :
    Kind.decode nested (.record fields) = some kind ↔
      Holds fields "kind" none (Kind.read nested) kind := by
  have hkind : Kind.decode nested (.record fields) =
      (slot fields "kind").bind fun place => required? (Kind.read nested ·.val) place := by
    rw [Kind.decode.eq_def, tag?]
    -- The tag may be missing, or be neither a name nor a number.
    cases slot fields "kind" with
    | none => rfl
    | some place =>
      cases place with
      | none => rfl
      | some part =>
        simp only [Option.join_some, Option.map_some, Option.bind_some, required?, Kind.read.eq_def]
        split <;> simp_all
  rw [hkind, Option.bind_eq_some_iff, holds_required?]

theorem untagged_record (fields : List (String × Data)) :
    (Data.record fields).untagged = .record fields := rfl

/-- `GoType.decode` reads a record by its kind and the fields of that kind. -/
theorem GoType.decode_record {nested : Bool} {fields : List (String × Data)} {type : GoType} :
    GoType.decode nested (.record fields) = some type ↔
      ∃ kind, Holds fields "kind" none (Kind.read nested) kind ∧ kind.Body fields type := by
  -- The parts of a type are read like whole documents.
  have htypes (part : Part (.record fields)) : (part.mapItems? fun item =>
      GoType.decode true item.val) = readItems (GoType.decode true) part.val :=
    mapItems?_val (GoType.decode true) part.val
  have hmethods (part : Part (.record fields)) : (part.mapItems? fun item =>
      Method.decodeWith item.val fun inner => GoType.decode true (item.sub inner).val) =
        readItems (Method.read (GoType.decode true)) part.val :=
    mapItems?_val (Method.read (GoType.decode true)) part.val
  have hterms (part : Part (.record fields)) : (part.mapItems? fun item =>
      Term.decodeWith item.val fun inner => GoType.decode true (item.sub inner).val) =
        readItems (Term.read (GoType.decode true)) part.val :=
    mapItems?_val (Term.read (GoType.decode true)) part.val
  have hmembers (part : Part (.record fields)) : (part.mapItems? fun item =>
      Field.decodeWith item.val fun inner => GoType.decode true (item.sub inner).val) =
        readItems (Field.read (GoType.decode true)) part.val :=
    mapItems?_val (Field.read (GoType.decode true)) part.val
  rw [GoType.decode]
  dsimp only [untagged_record]
  simp only [Option.bind_eq_bind, Option.bind_eq_some_iff, Kind.decode_record]
  refine exists_congr fun kind => and_congr_right fun _ => ?_
  cases kind with
  | signature =>
    simp only [Kind.Body, Option.pure_def, Option.bind_eq_some_iff, Option.some.injEq]
    exact exists_congr fun signature => and_comm.trans (and_congr_left fun _ => eq_comm)
  | named | «alias» =>
    simp only [Kind.Body, Option.pure_def, Option.bind_eq_some_iff, Option.some.injEq,
      decodeNamed_record, Prod.exists]
    grind
  | _ =>
    simp only [slots, List.mapM_cons, List.mapM_nil, Option.bind_eq_bind, Option.bind_assoc,
      Option.bind_some, Option.pure_def, htypes, hmethods, hterms, hmembers]
    simp only [Option.bind_eq_some_iff, Option.some.injEq, Kind.Body, holds_field?,
      holds_required?]
    grind

/-! ## Writing and reading -/

theorem word?_nat_toNat (len : UInt64) : word? (.nat len.toNat) = some len := by
  have hlt : len.toNat < UInt64.size := len.toNat_lt_size
  rw [word?, if_pos hlt, UInt64.ofNat_toNat]

theorem ChanDir.decode_encode (nested : Bool) (dir : ChanDir) :
    ChanDir.decode nested dir.encode = some dir := by
  cases dir with
  | send => rfl
  | recv => rfl
  | both => rfl

theorem PackageRef.decode_encode (ref : PackageRef) : PackageRef.decode ref.encode = some ref :=
  PackageRef.decode_record.2 ⟨.present rfl rfl, .present rfl rfl⟩

theorem decodePkg_encodePkg (name : TypeName) : decodePkg name.encodePkg = some name.pkg := by
  rw [TypeName.encodePkg]
  cases name.pkg with
  | none => rfl
  | some ref =>
    show (PackageRef.decode ref.encode).map some = some (some ref)
    rw [ref.decode_encode, Option.map_some]

mutual
/-- What `GoType.encode` writes is read again, inside another type or not. -/
theorem GoType.decode_encode (nested : Bool) : (type : GoType) →
    GoType.decode nested type.encode = some type
  -- In each record the kind is found, and then the fields of this kind, the inner types by
  -- recursion.
  | .basic name => by
    rw [GoType.encode, GoType.decode_record]
    exact ⟨.basic, .present rfl rfl, name, rfl, .present rfl rfl⟩
  | .array len elem => by
    rw [GoType.encode, GoType.decode_record]
    exact ⟨.array, .present rfl rfl, len, elem, rfl, .present rfl (word?_nat_toNat len),
      .present rfl (elem.decode_encode true)⟩
  | .slice elem => by
    rw [GoType.encode, GoType.decode_record]
    exact ⟨.slice, .present rfl rfl, elem, rfl, .present rfl (elem.decode_encode true)⟩
  | .map key elem => by
    rw [GoType.encode, GoType.decode_record]
    exact ⟨.map, .present rfl rfl, key, elem, rfl, .present rfl (key.decode_encode true),
      .present rfl (elem.decode_encode true)⟩
  | .chan dir elem => by
    rw [GoType.encode, GoType.decode_record]
    exact ⟨.chan, .present rfl rfl, dir, elem, rfl, .present rfl (dir.decode_encode true),
      .present rfl (elem.decode_encode true)⟩
  | .pointer elem => by
    rw [GoType.encode, GoType.decode_record]
    exact ⟨.pointer, .present rfl rfl, elem, rfl, .present rfl (elem.decode_encode true)⟩
  | .interface embeddeds methods => by
    rw [GoType.encode, GoType.decode_record]
    exact ⟨.interface, .present rfl rfl, embeddeds, methods, rfl,
      .present rfl (readItems_encodeTypes embeddeds),
      .present rfl (readItems_encodeMethods methods)⟩
  -- A function type has the fields of its signature beside its kind.
  | .func ⟨params, results, variadic⟩ => by
    rw [GoType.encode, GoType.decode_record]
    refine ⟨.signature, .present rfl rfl, ⟨params, results, variadic⟩, rfl, ?_⟩
    rw [Signature.read_record]
    exact ⟨.present rfl (readItems_encodeVars true params),
      .present rfl (readItems_encodeVars true results), .present rfl rfl⟩
  | .named name args => by
    rw [GoType.encode, GoType.decode_record]
    exact ⟨.named, .present rfl rfl, name, args, rfl, .present rfl (decodePkg_encodePkg name),
      .present rfl rfl, .present rfl (readItems_encodeTypes args)⟩
  | .alias name args => by
    rw [GoType.encode, GoType.decode_record]
    exact ⟨.alias, .present rfl rfl, name, args, rfl, .present rfl (decodePkg_encodePkg name),
      .present rfl rfl, .present rfl (readItems_encodeTypes args)⟩
  | .typeParam name => by
    rw [GoType.encode, GoType.decode_record]
    exact ⟨.typeParam, .present rfl rfl, name, rfl, .present rfl rfl⟩
  | .union terms => by
    rw [GoType.encode, GoType.decode_record]
    exact ⟨.union, .present rfl rfl, terms, rfl, .present rfl (readItems_encodeTerms terms)⟩
  | .struct members => by
    rw [GoType.encode, GoType.decode_record]
    exact ⟨.struct, .present rfl rfl, members, rfl, .present rfl (readItems_encodeFields members)⟩
  | .unknown => by
    rw [GoType.encode, GoType.decode_record]
    exact ⟨.unknown, .present rfl rfl, rfl⟩

/-- What `Signature.encode` writes is read again. -/
theorem Signature.read_encode (nested : Bool) : (signature : Signature) →
    Signature.read (GoType.decode nested) signature.encode = some signature
  | ⟨params, results, variadic⟩ => by
    rw [Signature.encode, Signature.read_record]
    exact ⟨.present rfl (readItems_encodeVars nested params),
      .present rfl (readItems_encodeVars nested results), .present rfl rfl⟩

theorem readItems_encodeTypes : (types : List GoType) →
    readItems (GoType.decode true) (.list (encodeTypes types)) = some types
  | [] => rfl
  | type :: types => readItems_cons (type.decode_encode true) (readItems_encodeTypes types)

theorem readItems_encodeVars (nested : Bool) : (vars : List Var) →
    readItems (Var.read (GoType.decode nested)) (.list (encodeVars vars)) = some vars
  | [] => rfl
  | ⟨name, type⟩ :: vars => by
    refine readItems_cons ?_ (readItems_encodeVars nested vars)
    rw [Var.read_record]
    exact ⟨.present rfl rfl, .present rfl (type.decode_encode nested)⟩

theorem readItems_encodeMethods : (methods : List Method) →
    readItems (Method.read (GoType.decode true)) (.list (encodeMethods methods)) = some methods
  | [] => rfl
  | ⟨name, signature⟩ :: methods => by
    refine readItems_cons ?_ (readItems_encodeMethods methods)
    rw [Method.read_record]
    exact ⟨.present rfl rfl, .present rfl (signature.read_encode true)⟩

theorem readItems_encodeTerms : (terms : List Term) →
    readItems (Term.read (GoType.decode true)) (.list (encodeTerms terms)) = some terms
  | [] => rfl
  | ⟨tilde, type⟩ :: terms => by
    refine readItems_cons ?_ (readItems_encodeTerms terms)
    rw [Term.read_record]
    exact ⟨.present rfl rfl, .present rfl (type.decode_encode true)⟩

theorem readItems_encodeFields : (members : List Field) →
    readItems (Field.read (GoType.decode true)) (.list (encodeFields members)) = some members
  | [] => rfl
  | ⟨name, type, embedded⟩ :: members => by
    refine readItems_cons ?_ (readItems_encodeFields members)
    rw [Field.read_record]
    exact ⟨.present rfl rfl, .present rfl (type.decode_encode true), .present rfl rfl⟩
end

theorem TypeParam.decode_encode (param : TypeParam) :
    TypeParam.decode param.encode = some param := by
  rw [TypeParam.encode, TypeParam.decode_record]
  exact ⟨.present rfl rfl, .present rfl (param.constraint.decode_encode false)⟩

theorem Method.read_encode (method : Method) :
    Method.read (GoType.decode false) method.encode = some method := by
  rw [Method.encode, Method.read_record]
  exact ⟨.present rfl rfl, .present rfl (method.signature.read_encode false)⟩

theorem TypeDecl.decode_encode (decl : TypeDecl) : TypeDecl.decode decl.encode = some decl := by
  rw [TypeDecl.encode, TypeDecl.decode_record]
  exact ⟨.present rfl rfl, .present rfl (readItems_map fun param _ => param.decode_encode),
    .present rfl (decl.underlying.decode_encode false),
    .present rfl (readItems_map fun method _ => method.read_encode)⟩

/-- What `Package.encode` writes is read again. -/
theorem Package.decode_encode (package : Package) :
    Package.decode package.encode = some package := by
  rw [Package.encode, Package.decode_record]
  exact ⟨.present rfl rfl, .present rfl rfl,
    .present rfl (readItems_map fun decl _ => decl.decode_encode),
    .present rfl (readItems_map fun _ _ => rfl)⟩

end IfaceGen
