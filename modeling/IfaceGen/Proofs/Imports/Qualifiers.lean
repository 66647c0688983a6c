import IfaceGen.Proofs.Imports.Build

/-!
# Package references and qualifiers

A type is walked for the packages it refers to, and its spelling is walked for qualifiers. The two
trees differ in shape: unions lean to the left, a generic type with one argument is not one with
several, an ellipsis takes the place of a list, and the interface around a constraint is gone. Both
walks visit the same places in the same order nevertheless.

## Key results

- `GoType.qualifiers_spell` / `Signature.qualifiers_spell`: the qualifiers of a spelling
- `StructDescriptor.qualifiers_interface`: those of an interface
- `FileBuilder.structs_foldl_offer`: a builder keeps the descriptors it accepts, in order
- `FileBuilder.qualifiers_agree`: the two walks agree on types, constraints, signatures and files
-/

namespace IfaceGen

/-- The qualifiers among names that are `written` are the aliases of the packages that are
    mentioned. -/
theorem qualifiers_written (qualify : Qualifier) (mentions : List Mention) :
    (mentions.map (·.written qualify)).filterMap (·.qualifier) =
      (mentions.filterMap (·.pkg)).filterMap qualify := by
  rw [List.filterMap_map, List.filterMap_filterMap]
  rfl

/-! ## Spellings -/

/-- The qualifiers in what `GoType.spell` makes are the aliases of the packages in `GoType.refs`. -/
theorem GoType.qualifiers_spell {qualify : Qualifier} {type : GoType} {expr : Expr}
    (h : type.spell qualify = .ok expr) : expr.qualifiers = type.refs.filterMap qualify := by
  rw [expr.qualifiers_eq_filterMap, type.names_spell h, qualifiers_written,
    ← type.refs_eq_filterMap]

theorem GoType.qualifiers_spellConstraint {qualify : Qualifier} {constraint : GoType}
    {expr : Expr} (h : constraint.spellConstraint qualify = .ok expr) :
    expr.qualifiers = constraint.refs.filterMap qualify := by
  rw [expr.qualifiers_eq_filterMap, GoType.names_spellConstraint h, qualifiers_written,
    ← constraint.refs_eq_filterMap]

theorem Signature.qualifiers_spell {qualify : Qualifier} {signature : Signature}
    {type : FuncType} (h : signature.spell qualify = .ok type) :
    type.qualifiers = signature.refs.filterMap qualify := by
  rw [type.qualifiers_eq_filterMap, signature.names_spell h, qualifiers_written,
    ← signature.refs_eq_filterMap]

/-! ## Interfaces and files -/

/-- The qualifiers in what `StructDescriptor.interface` makes are the aliases of the packages that
    the descriptor refers to. -/
theorem StructDescriptor.qualifiers_interface {descriptor : StructDescriptor}
    {qualify : Qualifier} {name : String} {decl : InterfaceDecl}
    (h : descriptor.interface qualify name = .ok decl) :
    decl.qualifiers = descriptor.refs.filterMap qualify := by
  rw [decl.qualifiers_eq_filterMap, (StructDescriptor.interface_eq_ok h).2.2, qualifiers_written,
    ← descriptor.refs_eq_filterMap]

/-- Something that is offered to a builder by `addStruct` or `addImport`. -/
inductive Offer where
  | struct (descriptor : StructDescriptor)
  | package (entry : ImportEntry)

/-- The descriptor that is accepted, if there is one: it must have methods. -/
def Offer.accepted? : Offer → Option StructDescriptor
  | .struct descriptor => if descriptor.hasMethods then some descriptor else none
  | .package _ => none

namespace FileBuilder

/-- What a builder makes of an offer. -/
def offer (builder : FileBuilder) : Offer → FileBuilder
  | .struct descriptor => builder.addStruct descriptor
  | .package entry => builder.addImport entry

/-- A descriptor is accepted if and only if `outcome` announces an interface for it. -/
theorem accepted?_isSome_iff (builder : FileBuilder) (descriptor : StructDescriptor) :
    (Offer.struct descriptor).accepted?.isSome ↔
      ∃ name count, builder.outcome descriptor = .interface name count := by
  rw [Offer.accepted?, outcome]
  cases descriptor.hasMethods with
  | true => exact iff_of_true rfl ⟨_, _, rfl⟩
  | false => exact iff_of_false Bool.false_ne_true fun ⟨_, _, h⟩ => Added.noConfusion h

/-- An offer that is `Offer.accepted?` goes behind the others. -/
theorem structs_offer (builder : FileBuilder) (first : Offer) :
    (builder.offer first).structs = builder.structs ++ first.accepted?.toList := by
  cases first with
  | package entry => exact (List.append_nil _).symm
  | struct descriptor =>
    simp only [offer, addStruct, Offer.accepted?]
    cases descriptor.hasMethods with
    | true => rfl
    | false => exact (List.append_nil _).symm

/-- A builder keeps the descriptors that are `accepted?`, in the order of the offers. -/
theorem structs_foldl_offer (builder : FileBuilder) (offers : List Offer) :
    (offers.foldl offer builder).structs =
      builder.structs ++ offers.filterMap (·.accepted?) := by
  induction offers generalizing builder with
  | nil => exact (List.append_nil _).symm
  | cons first offers ih =>
    rw [List.foldl_cons, ih, structs_offer, List.append_assoc, List.filterMap_cons]
    cases first.accepted? with
    | none => rfl
    | some descriptor => rfl

/-- The qualifiers of a file from `FileBuilder.build` are the aliases of the packages that its
    descriptors refer to. -/
theorem qualifiers_build {builder : FileBuilder} {qualify : Qualifier} {file : File}
    (h : builder.build qualify = .ok file) :
    file.qualifiers = (builder.structs.flatMap (·.refs)).filterMap qualify := by
  simp only [build, bind_eq_ok, pure_eq_ok, mapM_eq_ok] at h
  obtain ⟨decls, hdecls, rfl⟩ := h
  show decls.flatMap (·.qualifiers) = _
  generalize builder.structs = structs at hdecls ⊢
  -- The builder makes its declarations struct by struct.
  induction hdecls with
  | nil => rfl
  | cons hdecl _ ih =>
    rw [List.flatMap_cons, List.flatMap_cons, List.filterMap_append, ih,
      StructDescriptor.qualifiers_interface hdecl]

/-- Wherever a spelling succeeds, the qualifiers in it (`Expr.qualifiers`) are the aliases of the
    packages that the type refers to (`GoType.refs`), in the same order and with the same
    repetitions; packages without an alias leave no trace. The same holds of constraints, of
    signatures, and of whole files: their references are those of the descriptors that were
    accepted, in the order in which they were offered. -/
theorem qualifiers_agree (qualify : Qualifier) :
    (∀ (type : GoType) expr, type.spell qualify = .ok expr →
      expr.qualifiers = type.refs.filterMap qualify) ∧
    (∀ (constraint : GoType) expr, constraint.spellConstraint qualify = .ok expr →
      expr.qualifiers = constraint.refs.filterMap qualify) ∧
    (∀ (signature : Signature) type, signature.spell qualify = .ok type →
      type.qualifiers = signature.refs.filterMap qualify) ∧
    ∀ package suffix (offers : List Offer) file,
      (offers.foldl offer (empty package suffix)).build qualify = .ok file →
        file.qualifiers =
          ((offers.filterMap (·.accepted?)).flatMap (·.refs)).filterMap qualify := by
  refine ⟨fun _ _ h => GoType.qualifiers_spell h, fun _ _ h => GoType.qualifiers_spellConstraint h,
    fun _ _ h => Signature.qualifiers_spell h, fun package suffix offers file h => ?_⟩
  rw [qualifiers_build h, structs_foldl_offer, empty, List.nil_append]

end FileBuilder

/-! ## A generic table -/

namespace Ledger

/-- A type of one of two packages that have the same name. -/
def keyOf (path : String) (args : List GoType) : GoType := .named ⟨some ⟨path, "util"⟩, "Key"⟩ args

/-- The aliases of the packages; a third package is the one at hand. -/
def qualify : Qualifier := fun ref =>
  if ref.path = "example.com/a/util" then some "util"
  else if ref.path = "example.com/b/util" then some "util1" else none

/-- The constraint `~util.Key | util1.Key[Row]`, as an interface around a union. -/
def constraint : GoType :=
  .interface [.union [⟨true, keyOf "example.com/a/util" []⟩,
    ⟨false, keyOf "example.com/b/util" [keyOf "example.com/ledger" []]⟩]] []

/-- A variadic signature whose last parameter is a list of maps. -/
def signature : Signature where
  params := [⟨"at", keyOf "example.com/b/util" []⟩,
    ⟨"rows", .slice (.map (keyOf "example.com/a/util" []) (keyOf "example.com/b/util"
      [keyOf "example.com/a/util" [], .basic "int"]))⟩]
  results := [⟨"", .func ⟨[⟨"", keyOf "example.com/a/util" []⟩], [], false⟩⟩]
  variadic := true

/-- A generic struct with one method. -/
def descriptor : StructDescriptor :=
  ⟨⟨"example.com/ledger", "ledger"⟩, "Table", [⟨"K", constraint⟩], [⟨"Put", signature⟩]⟩

/-- A struct without methods, that is not accepted. -/
def record : StructDescriptor :=
  ⟨⟨"example.com/ledger", "ledger"⟩, "Record", [⟨"K", constraint⟩], []⟩

/-- What is offered to the builder, the import of a package among it. -/
def offers : List Offer :=
  [.package ⟨"example.com/b/util", "util", "util1"⟩, .struct record, .struct descriptor]

/-- The qualifiers of the table, in order. -/
theorem qualifiers_table :
    ∃ spelled spelledConstraint spelledSignature file,
      (GoType.func signature).spell qualify = .ok spelled ∧
      constraint.spellConstraint qualify = .ok spelledConstraint ∧
      signature.spell qualify = .ok spelledSignature ∧
      (offers.foldl FileBuilder.offer (FileBuilder.empty "mocks" "Iface")).build qualify =
        .ok file ∧
      spelled.qualifiers = ["util1", "util", "util1", "util", "util"] ∧
      spelledConstraint.qualifiers = ["util", "util1"] ∧
      spelledSignature.qualifiers = ["util1", "util", "util1", "util", "util"] ∧
      file.qualifiers = ["util", "util1", "util1", "util", "util1", "util", "util"] := by
  obtain ⟨htype, hconstraint, hsignature, hfile⟩ := FileBuilder.qualifiers_agree qualify
  exact ⟨_, _, _, _, rfl, rfl, rfl, rfl, htype (.func signature) _ rfl,
    hconstraint constraint _ rfl, hsignature signature _ rfl, hfile _ _ offers _ rfl⟩

end Ledger

end IfaceGen
