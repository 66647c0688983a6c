import IfaceGen.Data.Record
import IfaceGen.Types.Basic

/-!
# Semantic types as documents

A type is a record tagged by its `kind`, or a list that starts with the kind. Writing
(`GoType.encode`) fills in every field; reading (`GoType.decode`) supplies defaults for missing
fields, passes over unknown ones, and reads an unknown kind as `GoType.unknown`.

`Signature.decodeWith` and `Var.decodeWith` take the reader of the types they contain, so that the
same definitions serve inside a type, where reading recurses, and outside.
-/

namespace IfaceGen

open Data (Part)

/-! ## Writing -/

/-- A package reference as a record. -/
def PackageRef.encode (ref : PackageRef) : Data :=
  .record [("path", .str ref.path), ("name", .str ref.name)]

/-- A direction as a text. -/
def ChanDir.encode : ChanDir → Data
  | .send => .str "send"
  | .recv => .str "recv"
  | .both => .str "both"

/-- The owner of a type name: a package reference or `null`. -/
def TypeName.encodePkg (name : TypeName) : Data :=
  name.pkg.elim .null PackageRef.encode

mutual
/-- A type as a tagged record: its `kind` and the fields of that kind. -/
def GoType.encode : GoType → Data
  | .basic name => .record [("kind", .str "basic"), ("name", .str name)]
  | .array len elem =>
    .record [("kind", .str "array"), ("len", .nat len.toNat), ("elem", elem.encode)]
  | .slice elem => .record [("kind", .str "slice"), ("elem", elem.encode)]
  | .map key elem => .record [("kind", .str "map"), ("key", key.encode), ("elem", elem.encode)]
  | .chan dir elem => .record [("kind", .str "chan"), ("dir", dir.encode), ("elem", elem.encode)]
  | .pointer elem => .record [("kind", .str "pointer"), ("elem", elem.encode)]
  | .interface embeddeds methods =>
    .record [("kind", .str "interface"), ("embeddeds", .list (encodeTypes embeddeds)),
      ("methods", .list (encodeMethods methods))]
  | .func ⟨params, results, variadic⟩ =>
    .record [("kind", .str "signature"), ("params", .list (encodeVars params)),
      ("results", .list (encodeVars results)), ("variadic", .bool variadic)]
  | .named name args =>
    .record [("kind", .str "named"), ("pkg", name.encodePkg), ("name", .str name.name),
      ("type_args", .list (encodeTypes args))]
  | .alias name args =>
    .record [("kind", .str "alias"), ("pkg", name.encodePkg), ("name", .str name.name),
      ("type_args", .list (encodeTypes args))]
  | .typeParam name => .record [("kind", .str "type_param"), ("name", .str name)]
  | .union terms => .record [("kind", .str "union"), ("terms", .list (encodeTerms terms))]
  | .struct fields => .record [("kind", .str "struct"), ("fields", .list (encodeFields fields))]
  | .unknown => .record [("kind", .str "unknown")]

/-- A signature as a record. -/
def Signature.encode : Signature → Data
  | ⟨params, results, variadic⟩ =>
    .record [("params", .list (encodeVars params)), ("results", .list (encodeVars results)),
      ("variadic", .bool variadic)]

/-- Each type as a tagged record. -/
def encodeTypes : List GoType → List Data
  | [] => []
  | type :: types => type.encode :: encodeTypes types

/-- Each variable as a record. -/
def encodeVars : List Var → List Data
  | [] => []
  | ⟨name, type⟩ :: vars =>
    .record [("name", .str name), ("type", type.encode)] :: encodeVars vars

/-- Each method as a record. -/
def encodeMethods : List Method → List Data
  | [] => []
  | ⟨name, signature⟩ :: methods =>
    .record [("name", .str name), ("signature", signature.encode)] :: encodeMethods methods

/-- Each term as a record. -/
def encodeTerms : List Term → List Data
  | [] => []
  | ⟨tilde, type⟩ :: terms =>
    .record [("tilde", .bool tilde), ("type", type.encode)] :: encodeTerms terms

/-- Each field as a record. -/
def encodeFields : List Field → List Data
  | [] => []
  | ⟨name, type, embedded⟩ :: fields =>
    .record [("name", .str name), ("type", type.encode), ("embedded", .bool embedded)]
      :: encodeFields fields
end

/-! ## Reading the parts -/

/-- Reads a package reference. -/
def PackageRef.decode (whole : Data) : Option PackageRef := do
  match ← whole.slots ["path", "name"] with
  | [path, name] =>
    return ⟨← Data.required? (·.val.str?) path, ← Data.required? (·.val.str?) name⟩
  | _ => none

/-- The direction with the given name. -/
def ChanDir.ofName? : String → Option ChanDir
  | "send" => some .send
  | "recv" => some .recv
  | "both" => some .both
  | _ => none

/-- Reads a direction: its name, or a record whose only field has that name and no content. Inside a
    type an empty record is no content, too. -/
def ChanDir.decode (nested : Bool) : Data → Option ChanDir
  | .str name => ChanDir.ofName? name
  | .record [(name, .null)] => ChanDir.ofName? name
  | .record [(name, .record [])] => if nested then ChanDir.ofName? name else none
  | _ => none

/-- Reads the owner of a type name, which `null` says is missing. -/
def decodePkg : Data → Option (Option PackageRef)
  | .null => some none
  | whole => (PackageRef.decode whole).map some

/-- Reads a variable. -/
def Var.decodeWith (whole : Data) (readType : Part whole → Option GoType) : Option Var := do
  match ← whole.slots ["name", "type"] with
  | [name, type] =>
    return ⟨← Data.field? "" (·.val.str?) name, ← Data.required? readType type⟩
  | _ => none

/-- Reads a signature. -/
def Signature.decodeWith (whole : Data) (readType : Part whole → Option GoType) :
    Option Signature := do
  let readVars (part : Part whole) : Option (List Var) :=
    part.mapItems? fun item => Var.decodeWith item.val fun inner => readType (item.sub inner)
  match ← whole.slots ["params", "results", "variadic"] with
  | [params, results, variadic] =>
    return ⟨← Data.field? [] readVars params, ← Data.field? [] readVars results,
      ← Data.field? false (·.val.bool?) variadic⟩
  | _ => none

/-- Reads a method. -/
def Method.decodeWith (whole : Data) (readType : Part whole → Option GoType) :
    Option Method := do
  let readSignature (part : Part whole) : Option Signature :=
    Signature.decodeWith part.val fun inner => readType (part.sub inner)
  match ← whole.slots ["name", "signature"] with
  | [name, signature] =>
    return ⟨← Data.required? (·.val.str?) name, ← Data.required? readSignature signature⟩
  | _ => none

/-- Reads a term of a union. -/
def Term.decodeWith (whole : Data) (readType : Part whole → Option GoType) : Option Term := do
  match ← whole.slots ["tilde", "type"] with
  | [tilde, type] =>
    return ⟨← Data.field? false (·.val.bool?) tilde, ← Data.required? readType type⟩
  | _ => none

/-- Reads a struct field. -/
def Field.decodeWith (whole : Data) (readType : Part whole → Option GoType) : Option Field := do
  match ← whole.slots ["name", "type", "embedded"] with
  | [name, type, embedded] =>
    return ⟨← Data.required? (·.val.str?) name, ← Data.required? readType type,
      ← Data.field? false (·.val.bool?) embedded⟩
  | _ => none

/-! ## Reading types -/

/-- The kinds by which types are tagged. -/
inductive Kind where
  | basic
  | array
  | slice
  | map
  | chan
  | pointer
  | interface
  | signature
  | named
  | alias
  | typeParam
  | union
  | struct
  | unknown
deriving DecidableEq, Repr

/-- The kind with the given name. -/
def Kind.ofName : String → Kind
  | "basic" => .basic
  | "array" => .array
  | "slice" => .slice
  | "map" => .map
  | "chan" => .chan
  | "pointer" => .pointer
  | "interface" => .interface
  | "signature" => .signature
  | "named" => .named
  | "alias" => .alias
  | "type_param" => .typeParam
  | "union" => .union
  | "struct" => .struct
  | _ => .unknown

/-- The kind with the given number, counted in the order of `Kind`. -/
def Kind.ofIndex (index : Nat) : Kind :=
  [Kind.basic, .array, .slice, .map, .chan, .pointer, .interface, .signature, .named, .alias,
    .typeParam, .union, .struct].getD index .unknown

/-- Reads the kind of a type. Inside another type a kind may be given by its number. -/
def Kind.decode (nested : Bool) (whole : Data) : Option Kind :=
  match whole.tag? "kind" with
  | some (.str name) => some (Kind.ofName name)
  | some (.nat index) =>
    if nested && index < UInt64.size then some (Kind.ofIndex index) else none
  | _ => none

/-- Reads the name and the arguments of a named type. -/
def decodeNamed (whole : Data) (readType : Part whole → Option GoType) :
    Option (TypeName × List GoType) := do
  match ← whole.slots ["pkg", "name", "type_args"] with
  | [pkg, name, args] =>
    return (⟨← Data.field? none (decodePkg ·.val) pkg, ← Data.required? (·.val.str?) name⟩,
      ← Data.field? [] (·.mapItems? readType) args)
  | _ => none

/-- Reads a type; `nested` is set inside another type. -/
def GoType.decode (nested : Bool) (whole : Data) : Option GoType := do
  let body := whole.untagged
  let read (part : Part body) : Option GoType :=
    have : sizeOf part.val < sizeOf whole :=
      Nat.lt_of_lt_of_le part.property whole.sizeOf_untagged_le
    GoType.decode true part.val
  match ← Kind.decode nested whole with
  | .basic =>
    match ← body.slots ["name"] with
    | [name] => return .basic (← Data.required? (·.val.str?) name)
    | _ => none
  | .array =>
    match ← body.slots ["len", "elem"] with
    | [len, elem] =>
      return .array (← Data.required? (·.val.word?) len) (← Data.required? read elem)
    | _ => none
  | .slice =>
    match ← body.slots ["elem"] with
    | [elem] => return .slice (← Data.required? read elem)
    | _ => none
  | .map =>
    match ← body.slots ["key", "elem"] with
    | [key, elem] => return .map (← Data.required? read key) (← Data.required? read elem)
    | _ => none
  | .chan =>
    match ← body.slots ["dir", "elem"] with
    | [dir, elem] =>
      return .chan (← Data.field? .both (ChanDir.decode true ·.val) dir)
        (← Data.required? read elem)
    | _ => none
  | .pointer =>
    match ← body.slots ["elem"] with
    | [elem] => return .pointer (← Data.required? read elem)
    | _ => none
  | .interface =>
    let readMethod (part : Part body) : Option Method :=
      Method.decodeWith part.val fun inner => read (part.sub inner)
    match ← body.slots ["embeddeds", "methods"] with
    | [embeddeds, methods] =>
      return .interface (← Data.field? [] (·.mapItems? read) embeddeds)
        (← Data.field? [] (·.mapItems? readMethod) methods)
    | _ => none
  | .signature => return .func (← Signature.decodeWith body read)
  | .named =>
    let (name, args) ← decodeNamed body read
    return .named name args
  | .alias =>
    let (name, args) ← decodeNamed body read
    return .alias name args
  | .typeParam =>
    match ← body.slots ["name"] with
    | [name] => return .typeParam (← Data.required? (·.val.str?) name)
    | _ => none
  | .union =>
    let readTerm (part : Part body) : Option Term :=
      Term.decodeWith part.val fun inner => read (part.sub inner)
    match ← body.slots ["terms"] with
    | [terms] => return .union (← Data.required? (·.mapItems? readTerm) terms)
    | _ => none
  | .struct =>
    let readField (part : Part body) : Option Field :=
      Field.decodeWith part.val fun inner => read (part.sub inner)
    match ← body.slots ["fields"] with
    | [fields] => return .struct (← Data.field? [] (·.mapItems? readField) fields)
    | _ => none
  | .unknown =>
    match ← body.slots [] with
    | [] => return .unknown
    | _ => none
termination_by sizeOf whole

/-- Reads a type that opens at most `limit` lists and records within one another. -/
def GoType.decodeWithin (limit : Nat) (whole : Data) : Option GoType :=
  if whole.readable limit then GoType.decode false whole else none

/-- Reads a signature. Three lists and records are open around the types of its variables. -/
def Signature.decodeWithin (limit : Nat) (whole : Data) : Option Signature :=
  Signature.decodeWith whole (GoType.decodeWithin (limit - 3) ·.val)

end IfaceGen
