import IfaceGen.Proofs.Types.Records
import Mathlib.Data.List.Nodup
import Mathlib.Logic.Relation

/-!
# Edited documents

A written model may be edited without being read differently. In each record that stands for a part
of the model, fields may change places, the kind of a type among them; a field may be left out if it
has a default and holds it; and fields may be added that the record does not know. `Edit` is one
such change, anywhere in a document, and documents are edited step by step.

## Key results

- `Element.read_of_keeps`: a record is read as before if its fields are kept
- `Edit.refines` / `Edits.refines`: edits do not change what a document is read as
-/

namespace IfaceGen

open Data

/-! ## What records know -/

/-- The parts of a model that are written as records. -/
inductive Element where
  /-- The owner of a type name, which may also be `null`. -/
  | owner
  | type
  | signature
  | var
  | method
  | term
  | field
  | typeParam
  | typeDecl
  | package

/-- What stands in a field: a text, a number or the like, a part of the model (`Element`), or a list
    of parts. -/
inductive Shape where
  | leaf
  | one (element : Element)
  | many (element : Element)

/-- A field that a record knows, with the value that it is taken to hold if it is left out. A field
    without a default is required. -/
structure FieldRule where
  name : String
  default : Option Data
  shape : Shape

/-- The fields of a signature, also of one that stands for a function type. -/
def signatureRules : List FieldRule :=
  [⟨"params", some (.list []), .many .var⟩, ⟨"results", some (.list []), .many .var⟩,
    ⟨"variadic", some (.bool false), .leaf⟩]

/-- The fields of a named type. -/
def namedRules : List FieldRule :=
  [⟨"pkg", some .null, .one .owner⟩, ⟨"name", none, .leaf⟩,
    ⟨"type_args", some (.list []), .many .type⟩]

/-- The fields of the types of each kind, aside from the field `kind` itself. -/
def Kind.rules : Kind → List FieldRule
  | .basic | .typeParam => [⟨"name", none, .leaf⟩]
  | .array => [⟨"len", none, .leaf⟩, ⟨"elem", none, .one .type⟩]
  | .slice | .pointer => [⟨"elem", none, .one .type⟩]
  | .map => [⟨"key", none, .one .type⟩, ⟨"elem", none, .one .type⟩]
  | .chan => [⟨"dir", some (.str "both"), .leaf⟩, ⟨"elem", none, .one .type⟩]
  | .interface =>
    [⟨"embeddeds", some (.list []), .many .type⟩, ⟨"methods", some (.list []), .many .method⟩]
  | .signature => signatureRules
  | .named | .alias => namedRules
  | .union => [⟨"terms", none, .many .term⟩]
  | .struct => [⟨"fields", some (.list []), .many .field⟩]
  | .unknown => []

/-- The kind that a record is tagged with. Unknown tags stand for `Kind.unknown`. -/
def kindOf (fields : List (String × Data)) : Kind :=
  ((fields.lookup "kind").bind (Kind.read true)).getD .unknown

/-- The fields that a record knows. Those of a type depend on its kind (`kindOf`). -/
def Element.rules (fields : List (String × Data)) : Element → List FieldRule
  | .owner => [⟨"path", none, .leaf⟩, ⟨"name", none, .leaf⟩]
  | .type => ⟨"kind", none, .leaf⟩ :: (kindOf fields).rules
  | .signature => signatureRules
  | .var => [⟨"name", some (.str ""), .leaf⟩, ⟨"type", none, .one .type⟩]
  | .method => [⟨"name", none, .leaf⟩, ⟨"signature", none, .one .signature⟩]
  | .term => [⟨"tilde", some (.bool false), .leaf⟩, ⟨"type", none, .one .type⟩]
  | .field =>
    [⟨"name", none, .leaf⟩, ⟨"type", none, .one .type⟩, ⟨"embedded", some (.bool false), .leaf⟩]
  | .typeParam => [⟨"name", none, .leaf⟩, ⟨"constraint", none, .one .type⟩]
  | .typeDecl =>
    [⟨"name", none, .leaf⟩, ⟨"type_params", some (.list []), .many .typeParam⟩,
      ⟨"underlying", none, .one .type⟩, ⟨"methods", some (.list []), .many .method⟩]
  | .package =>
    [⟨"path", none, .leaf⟩, ⟨"name", none, .leaf⟩, ⟨"types", some (.list []), .many .typeDecl⟩,
      ⟨"errors", some (.list []), .leaf⟩]

/-! ## Edits -/

/-- One change of a document. -/
inductive Edit : Shape → Data → Data → Prop
  /-- The fields of a record change places. -/
  | permute (element : Element) {fields fields' : List (String × Data)}
      (perm : fields.Perm fields') :
      Edit (.one element) (.record fields) (.record fields')
  /-- A field that holds its default is left out. -/
  | leaveOut {element : Element} {rule : FieldRule} {value : Data}
      {before after : List (String × Data)}
      (known : rule ∈ element.rules (before ++ (rule.name, value) :: after))
      (default_eq : rule.default = some value) :
      Edit (.one element) (.record (before ++ (rule.name, value) :: after))
        (.record (before ++ after))
  /-- A field is added that the record does not know. -/
  | add {element : Element} {name : String} {value : Data} {before after : List (String × Data)}
      (unknown : ∀ rule ∈ element.rules (before ++ after), rule.name ≠ name) :
      Edit (.one element) (.record (before ++ after)) (.record (before ++ (name, value) :: after))
  /-- The value of a field is edited. -/
  | inside {element : Element} {rule : FieldRule} {value value' : Data}
      {before after : List (String × Data)}
      (known : rule ∈ element.rules (before ++ (rule.name, value) :: after))
      (edit : Edit rule.shape value value') :
      Edit (.one element) (.record (before ++ (rule.name, value) :: after))
        (.record (before ++ (rule.name, value') :: after))
  /-- An item of a list is edited. -/
  | item {element : Element} {item item' : Data} (before after : List Data)
      (edit : Edit (.one element) item item') :
      Edit (.many element) (.list (before ++ item :: after)) (.list (before ++ item' :: after))

/-- Any number of changes of a document, one `Edit` after the other. -/
def Edits (shape : Shape) : Data → Data → Prop :=
  Relation.ReflTransGen (Edit shape)

namespace Edits

variable {element : Element}

/-- Edits of the value of a field that the record knows (`Element.rules`) are edits of the
    record. -/
theorem inside (rule : FieldRule) {value value' : Data} (before after : List (String × Data))
    (known : ∀ value, rule ∈ element.rules (before ++ (rule.name, value) :: after))
    (edits : Edits rule.shape value value') :
    Edits (.one element) (.record (before ++ (rule.name, value) :: after))
      (.record (before ++ (rule.name, value') :: after)) := by
  induction edits with
  | refl => exact .refl
  | tail _ edit ih => exact ih.tail (.inside (known _) edit)

/-- Edits of an item are edits of the list (`Shape.many`). -/
theorem item {item item' : Data} (before after : List Data)
    (edits : Edits (.one element) item item') :
    Edits (.many element) (.list (before ++ item :: after)) (.list (before ++ item' :: after)) := by
  induction edits with
  | refl => exact .refl
  | tail _ edit ih => exact ih.tail (.item before after edit)

end Edits

/-! ## What is read -/

/-- What `Element.read` makes of a record. -/
def Element.Value : Element → Type
  | .owner => Option PackageRef
  | .type => GoType
  | .signature => Signature
  | .var => Var
  | .method => Method
  | .term => Term
  | .field => Field
  | .typeParam => TypeParam
  | .typeDecl => TypeDecl
  | .package => Package

/-- Holds a record, inside a type or not. -/
def Element.read (nested : Bool) : (element : Element) → Data → Option element.Value
  | .owner => decodePkg
  | .type => GoType.decode nested
  | .signature => Signature.read (GoType.decode nested)
  | .var => Var.read (GoType.decode nested)
  | .method => Method.read (GoType.decode nested)
  | .term => Term.read (GoType.decode nested)
  | .field => Field.read (GoType.decode nested)
  | .typeParam => TypeParam.decode
  | .typeDecl => TypeDecl.decode
  | .package => Package.decode

/-- What `Shape.read` makes of a value of a field; texts and the like are left as they are. -/
def Shape.Value : Shape → Type
  | .leaf => Data
  | .one element => element.Value
  | .many element => List element.Value

/-- Holds the value of a field. -/
def Shape.read (nested : Bool) : (shape : Shape) → Data → Option shape.Value
  | .leaf => some
  | .one element => element.read nested
  | .many element => readItems (element.read nested)

/-- Whatever `Shape.read` makes of a value, it makes the same of another one. -/
def Shape.Refines (shape : Shape) (value value' : Data) : Prop :=
  ∀ nested result, shape.read nested value = some result → shape.read nested value' = some result

/-- How the values of a field may change without being read differently. Nothing is said of fields
    that stand in the record twice, as these cannot be read. -/
inductive Kept (rule : FieldRule) : List Data → List Data → Prop
  | same (found : List Data) : Kept rule found found
  | omitted {value : Data} (default_eq : rule.default = some value) : Kept rule [value] []
  | edited {value value' : Data} (refines : rule.shape.Refines value value') :
      Kept rule [value] [value']
  | repeated {found found' : List Data} (many : 1 < found.length) : Kept rule found found'

/-- All fields that the rules know are `Kept`. -/
def Keeps (rules : List FieldRule) (fields fields' : List (String × Data)) : Prop :=
  ∀ rule ∈ rules, Kept rule (values fields rule.name) (values fields' rule.name)

/-- A field that is kept is read as before (`Holds`), if its reader knows the default and takes to
    edits. -/
theorem Kept.holds {rule : FieldRule} {fields fields' : List (String × Data)}
    (h : Kept rule (values fields rule.name) (values fields' rule.name)) {α : Type}
    {default : Option α} {read : Data → Option α} {a : α}
    (hdefault : rule.default.bind read = default)
    (hread : ∀ value value', rule.shape.Refines value value' →
      ∀ a, read value = some a → read value' = some a)
    (ha : Holds fields rule.name default read a) : Holds fields' rule.name default read a := by
  generalize hfound : values fields rule.name = found at h
  generalize hfound' : values fields' rule.name = found' at h
  cases ha with
  | missing none_eq default_eq =>
    rw [hfound] at none_eq
    -- Edits of the field need a value, and there is none.
    cases h with
    | same => exact .missing (hfound'.trans none_eq) default_eq
    | omitted | edited => cases none_eq
    | repeated many =>
      rw [none_eq] at many
      cases many
  | @present value one_eq read_eq =>
    rw [hfound] at one_eq
    cases h with
    | same => exact .present (hfound'.trans one_eq) read_eq
    | omitted default_eq =>
      -- The value was the default, so that the reader's default is what it was read as.
      cases one_eq
      rw [default_eq, Option.bind_some, read_eq] at hdefault
      exact .missing hfound' hdefault.symm
    | edited refines =>
      cases one_eq
      exact .present hfound' (hread value _ refines a read_eq)
    | repeated many =>
      rw [one_eq] at many
      exact absurd many (Nat.lt_irrefl 1)

namespace Keeps

variable {rules : List FieldRule} {fields fields' : List (String × Data)} {name : String}
  {default? : Option Data} {α : Type} {default : Option α} {a : α}

/-- A text or the like is read as before where the fields of the record are kept. -/
theorem leaf (h : Keeps rules fields fields') (hrule : ⟨name, default?, .leaf⟩ ∈ rules)
    {read : Data → Option α} (hdefault : default?.bind read = default)
    (ha : Holds fields name default read a) : Holds fields' name default read a := by
  refine (h _ hrule).holds hdefault (fun value value' hrefines a hread => ?_) ha
  -- Texts and the like are not edited.
  have heq : some value' = some value := hrefines false value rfl
  rw [Option.some.inj heq]
  exact hread

/-- A part of the model, or a list of parts, is read as before by `Shape.read` where the fields of
    the record are kept. -/
theorem part {shape : Shape} (h : Keeps rules fields fields')
    (nested : Bool) (hrule : ⟨name, default?, shape⟩ ∈ rules)
    {default : Option shape.Value} {a : shape.Value}
    (hdefault : default?.bind (shape.read nested) = default)
    (ha : Holds fields name default (shape.read nested) a) :
    Holds fields' name default (shape.read nested) a :=
  (h _ hrule).holds hdefault (fun _ _ hrefines a hread => hrefines nested a hread) ha

end Keeps

/-- A signature is read as before if `signatureRules` are kept. -/
theorem Signature.read_of_keeps {fields fields' : List (String × Data)}
    (h : Keeps signatureRules fields fields') {nested : Bool} {signature : Signature}
    (hread : Signature.read (GoType.decode nested) (.record fields) = some signature) :
    Signature.read (GoType.decode nested) (.record fields') = some signature := by
  rw [Signature.read_record] at hread ⊢
  obtain ⟨hparams, hresults, hvariadic⟩ := hread
  exact ⟨h.part _ (.head _) rfl hparams, h.part _ (.tail _ (.head _)) rfl hresults,
    h.leaf (.tail _ (.tail _ (.head _))) rfl hvariadic⟩

/-- The fields of a type (`Kind.Body`) are read as before if those of its kind are kept. -/
theorem Kind.body_of_keeps {kind : Kind} {fields fields' : List (String × Data)}
    (h : Keeps kind.rules fields fields') {type : GoType} (hbody : kind.Body fields type) :
    kind.Body fields' type := by
  -- Field by field: texts and the like by `Keeps.leaf`, parts by `Keeps.part`.
  cases kind with
  | basic =>
    obtain ⟨name, rfl, hname⟩ := hbody
    exact ⟨name, rfl, h.leaf (.head _) rfl hname⟩
  | array =>
    obtain ⟨len, elem, rfl, hlen, helem⟩ := hbody
    exact ⟨len, elem, rfl, h.leaf (.head _) rfl hlen, h.part _ (.tail _ (.head _)) rfl helem⟩
  | slice =>
    obtain ⟨elem, rfl, helem⟩ := hbody
    exact ⟨elem, rfl, h.part _ (.head _) rfl helem⟩
  | map =>
    obtain ⟨key, elem, rfl, hkey, helem⟩ := hbody
    exact ⟨key, elem, rfl, h.part _ (.head _) rfl hkey, h.part _ (.tail _ (.head _)) rfl helem⟩
  | chan =>
    obtain ⟨dir, elem, rfl, hdir, helem⟩ := hbody
    exact ⟨dir, elem, rfl, h.leaf (.head _) rfl hdir, h.part _ (.tail _ (.head _)) rfl helem⟩
  | pointer =>
    obtain ⟨elem, rfl, helem⟩ := hbody
    exact ⟨elem, rfl, h.part _ (.head _) rfl helem⟩
  | interface =>
    obtain ⟨embeddeds, methods, rfl, hembeddeds, hmethods⟩ := hbody
    exact ⟨embeddeds, methods, rfl, h.part _ (.head _) rfl hembeddeds,
      h.part _ (.tail _ (.head _)) rfl hmethods⟩
  -- A function type has the fields of its signature.
  | signature =>
    obtain ⟨signature, rfl, hsignature⟩ := hbody
    exact ⟨signature, rfl, Signature.read_of_keeps h hsignature⟩
  | named | «alias» =>
    -- The owner of a name is a part that may be `null`.
    obtain ⟨name, args, rfl, hpkg, hname, hargs⟩ := hbody
    exact ⟨name, args, rfl, h.part true (.head _) rfl hpkg, h.leaf (.tail _ (.head _)) rfl hname,
      h.part _ (.tail _ (.tail _ (.head _))) rfl hargs⟩
  | typeParam =>
    obtain ⟨name, rfl, hname⟩ := hbody
    exact ⟨name, rfl, h.leaf (.head _) rfl hname⟩
  | union =>
    obtain ⟨terms, rfl, hterms⟩ := hbody
    exact ⟨terms, rfl, h.part _ (.head _) rfl hterms⟩
  | struct =>
    obtain ⟨members, rfl, hmembers⟩ := hbody
    exact ⟨members, rfl, h.part _ (.head _) rfl hmembers⟩
  | unknown => exact hbody

/-- Inside another type more tags are read as kinds (`Kind.read`): their numbers as well. -/
theorem Kind.read_true {nested : Bool} {value : Data} {kind : Kind}
    (h : Kind.read nested value = some kind) : Kind.read true value = some kind := by
  cases nested with
  | true => exact h
  | false =>
    match value with
    | .str name => exact h
    | .nat _ | .null | .bool _ | .number | .list _ | .record _ | .unreadable => cases h

/-- The kind that a record is read with is its `kindOf`. -/
theorem kindOf_of_holds {nested : Bool} {fields : List (String × Data)} {kind : Kind}
    (h : Holds fields "kind" none (Kind.read nested) kind) : kindOf fields = kind := by
  cases h with
  | missing _ default_eq => cases default_eq
  | present one_eq read_eq =>
    rw [kindOf, ← head?_values, one_eq, List.head?_cons, Option.bind_some, Kind.read_true read_eq,
      Option.getD_some]

/-- A record is read as before if all fields that it knows (`Element.rules`) are kept (`Keeps`). -/
theorem Element.read_of_keeps {element : Element} {fields fields' : List (String × Data)}
    (h : Keeps (element.rules fields) fields fields') {nested : Bool} {result : element.Value}
    (hread : element.read nested (.record fields) = some result) :
    element.read nested (.record fields') = some result := by
  -- For each part of the model: its fields are read as before, by the lemma that splits its reader
  -- into fields.
  cases element with
  | owner =>
    obtain ⟨ref, href, hresult⟩ := Option.map_eq_some_iff.1 hread
    rw [PackageRef.decode_record] at href
    refine Option.map_eq_some_iff.2 ⟨ref, PackageRef.decode_record.2 ?_, hresult⟩
    exact ⟨h.leaf (.head _) rfl href.1, h.leaf (.tail _ (.head _)) rfl href.2⟩
  | type =>
    -- The kind is read first; which other fields the record knows depends on it.
    obtain ⟨kind, hkind, hbody⟩ := GoType.decode_record.1 hread
    refine GoType.decode_record.2 ⟨kind, h.leaf (.head _) rfl hkind, Kind.body_of_keeps ?_ hbody⟩
    rw [← kindOf_of_holds hkind]
    exact fun rule hrule => h rule (.tail _ hrule)
  -- A signature stands on its own as it does inside a type.
  | signature => exact Signature.read_of_keeps h hread
  | var =>
    obtain ⟨hname, htype⟩ := Var.read_record.1 hread
    exact Var.read_record.2 ⟨h.leaf (.head _) rfl hname, h.part _ (.tail _ (.head _)) rfl htype⟩
  | method =>
    obtain ⟨hname, hsignature⟩ := Method.read_record.1 hread
    exact Method.read_record.2
      ⟨h.leaf (.head _) rfl hname, h.part _ (.tail _ (.head _)) rfl hsignature⟩
  | term =>
    obtain ⟨htilde, htype⟩ := Term.read_record.1 hread
    exact Term.read_record.2 ⟨h.leaf (.head _) rfl htilde, h.part _ (.tail _ (.head _)) rfl htype⟩
  | field =>
    obtain ⟨hname, htype, hembedded⟩ := Field.read_record.1 hread
    exact Field.read_record.2 ⟨h.leaf (.head _) rfl hname, h.part _ (.tail _ (.head _)) rfl htype,
      h.leaf (.tail _ (.tail _ (.head _))) rfl hembedded⟩
  -- From here on nothing is read inside another type, and the limit on nesting starts anew.
  | typeParam =>
    obtain ⟨hname, hconstraint⟩ := TypeParam.decode_record.1 hread
    exact TypeParam.decode_record.2
      ⟨h.leaf (.head _) rfl hname, h.part _ (.tail _ (.head _)) rfl hconstraint⟩
  | typeDecl =>
    obtain ⟨hname, hparams, hunderlying, hmethods⟩ := TypeDecl.decode_record.1 hread
    exact TypeDecl.decode_record.2 ⟨h.leaf (.head _) rfl hname,
      h.part false (.tail _ (.head _)) rfl hparams,
      h.part _ (.tail _ (.tail _ (.head _))) rfl hunderlying,
      h.part _ (.tail _ (.tail _ (.tail _ (.head _)))) rfl hmethods⟩
  | package =>
    obtain ⟨hpath, hname, htypes, herrors⟩ := Package.decode_record.1 hread
    exact Package.decode_record.2 ⟨h.leaf (.head _) rfl hpath, h.leaf (.tail _ (.head _)) rfl hname,
      h.part false (.tail _ (.tail _ (.head _))) rfl htypes,
      h.leaf (.tail _ (.tail _ (.tail _ (.head _)))) rfl herrors⟩

/-! ## What edits keep -/

/-- The fields that a record knows (`Element.rules`) have different names. -/
theorem Element.nodup_rules (element : Element) (fields : List (String × Data)) :
    ((element.rules fields).map (·.name)).Nodup := by
  cases element with
  | type =>
    have hkinds (kind : Kind) : ("kind" :: kind.rules.map (·.name)).Nodup := by
      cases kind <;> decide
    exact hkinds (kindOf fields)
  | _ => simp [Element.rules, signatureRules]

namespace Kept

variable {rule : FieldRule}

/-- A value among others of its field stands in the record more than once, so that `Kept` asks
    nothing. -/
theorem of_around {value : Data} {before after found : List Data}
    (h : before = [] → after = [] → Kept rule [value] found) :
    Kept rule (before ++ value :: after) found := by
  -- A value with others around it is one of several.
  cases before with
  | nil =>
    cases after with
    | nil => exact h rfl rfl
    | cons next after => exact .repeated (by simp)
  | cons first before =>
    refine .repeated ?_
    rw [List.length_append, List.length_cons, List.length_cons]
    omega

theorem of_perm {found found' : List Data} (h : found.Perm found') : Kept rule found found' := by
  match found with
  | [] =>
    rw [List.nil_perm.1 h]
    exact .same []
  | [value] =>
    rw [← List.singleton_perm.1 h]
    exact .same [value]
  | _ :: _ :: _ => exact .repeated (by simp)

end Kept

theorem values_around (name : String) (value : Data) (before after : List (String × Data)) :
    values (before ++ (name, value) :: after) name =
      values before name ++ value :: values after name := by
  rw [values_append, values_cons_self]

theorem values_beside {key name : String} (h : key ≠ name) (value : Data)
    (before after : List (String × Data)) :
    values (before ++ (key, value) :: after) name = values (before ++ after) name := by
  rw [values_append, values_append, values_cons_ne h]

/-- A change to one field that a record knows keeps the others, as `Element.rules` have different
    names. -/
theorem Element.keeps_of_known {element : Element} {fields fields' : List (String × Data)}
    {rule : FieldRule} (hrule : rule ∈ element.rules fields)
    (hself : Kept rule (values fields rule.name) (values fields' rule.name))
    (hothers : ∀ name, rule.name ≠ name → values fields name = values fields' name) :
    Keeps (element.rules fields) fields fields' := by
  intro other hother
  by_cases hname : rule.name = other.name
  · rw [← List.inj_on_of_nodup_map (element.nodup_rules fields) hrule hother hname]
    exact hself
  · rw [hothers other.name hname]
    exact .same _

/-- An `Edit` does not change what a document is read as. -/
theorem Edit.refines {shape : Shape} {document document' : Data}
    (h : Edit shape document document') : shape.Refines document document' := by
  intro nested result hread
  -- An edit further inside is the induction hypothesis for the value of one field, or for one item;
  -- the other edits keep each field of one record.
  induction h generalizing nested with
  | permute element perm =>
    exact Element.read_of_keeps (fun rule _ => .of_perm (perm.filterMap _)) hread
  | @leaveOut element rule value before after known default_eq =>
    refine Element.read_of_keeps (element.keeps_of_known known ?_ fun name hname => ?_) hread
    · rw [values_around, values_append]
      refine .of_around fun hbefore hafter => ?_
      rw [hbefore, hafter]
      exact .omitted default_eq
    · exact values_beside hname value before after
  | @add element name value before after unknown =>
    refine Element.read_of_keeps (fun rule hrule => ?_) hread
    rw [values_beside (unknown rule hrule).symm]
    exact .same _
  | @inside element rule value value' before after known edit ih =>
    refine Element.read_of_keeps (element.keeps_of_known known ?_ fun name hname => ?_) hread
    · rw [values_around, values_around]
      refine .of_around fun hbefore hafter => ?_
      rw [hbefore, hafter]
      exact .edited ih
    · rw [values_beside hname, values_beside hname]
  | item before after edit ih => exact readItems_replace (fun a => ih nested a) hread

/-- No number of `Edits` changes what a document is read as. -/
theorem Edits.refines {shape : Shape} {document document' : Data}
    (h : Edits shape document document') : shape.Refines document document' := by
  intro nested result hread
  induction h with
  | refl => exact hread
  | tail _ edit ih => exact edit.refines nested result ih

end IfaceGen
