import IfaceGen.MethodSet.Closure
import IfaceGen.MethodSet.Descriptor

/-!
# Method sets

The method set of a struct holds the methods that can be called through a pointer to it: those
declared on the type, whatever the receiver, and those promoted from embedded fields. A name found
at a smaller depth of embedding hides the same name further down. A name that occurs more than once
at the smallest depth at which it occurs is ambiguous and belongs to nobody; a type reached on
several ways at one depth makes all its names ambiguous.

The search goes level by level. It is bounded by the list of types that no level has expanded yet.
-/

namespace IfaceGen

/-- A name introduced at some depth: a method or a field. Fields matter as they hide and clash like
    methods. -/
inductive Entry where
  | method (declared : Method)
  | field

/-- The method of an entry, if it is not a `field`. -/
def Entry.method? : Entry → Option Method
  | .method declared => some declared
  | .field => none

/-- What the types of one depth bring in: names with their `entries`, and the types of the `next`
    depth. -/
structure Level where
  entries : List (String × Entry)
  next : List Embedding

/-- Adds a type to a level: a type that is not `fresh` is dropped, one that is already there is
    reached on several ways (`Embedding.multiple`). -/
def mergeEmbedding (fresh : List TypeKey) (level : List Embedding) (embedding : Embedding) :
    List Embedding :=
  if embedding.key ∈ fresh then
    if level.any (·.key = embedding.key) then
      level.map fun known =>
        if known.key = embedding.key then { known with multiple := true } else known
    else level ++ [embedding]
  else level

/-- Drops the types that are not `fresh` and merges those reached more than once, by
    `mergeEmbedding`. -/
def consolidate (fresh : List TypeKey) (embeddings : List Embedding) : List Embedding :=
  embeddings.foldl (mergeEmbedding fresh) []

theorem key_mem_of_mem_mergeEmbedding {fresh : List TypeKey} {level : List Embedding}
    {e x : Embedding} (hl : ∀ y ∈ level, y.key ∈ fresh) (hx : x ∈ mergeEmbedding fresh level e) :
    x.key ∈ fresh := by
  unfold mergeEmbedding at hx
  split at hx
  · rename_i hfresh
    split at hx
    · obtain ⟨y, hy, rfl⟩ := List.mem_map.1 hx
      split <;> exact hl y hy
    · rcases List.mem_append.1 hx with hx | hx
      · exact hl x hx
      · exact List.mem_singleton.1 hx ▸ hfresh
  · exact hl x hx

/-- Only fresh types are kept by `consolidate`. -/
theorem key_mem_of_mem_consolidate {fresh : List TypeKey} {embeddings : List Embedding}
    {embedding : Embedding} (h : embedding ∈ consolidate fresh embeddings) :
    embedding.key ∈ fresh := by
  suffices ∀ (es level : List Embedding), (∀ e ∈ level, e.key ∈ fresh) →
      ∀ e ∈ es.foldl (mergeEmbedding fresh) level, e.key ∈ fresh from
    this embeddings [] (by simp) embedding h
  intro es
  induction es with
  | nil => exact fun level hl => hl
  | cons e es ih => exact fun level hl => ih _ fun x hx => key_mem_of_mem_mergeEmbedding hl hx

/-- The types that are still `fresh` after a level has been expanded. -/
def unexpanded (fresh : List TypeKey) (level : List Embedding) : List TypeKey :=
  fresh.filter fun key => !level.any (·.key = key)

theorem length_unexpanded_lt {fresh : List TypeKey} {current : List Embedding}
    (h : consolidate fresh current ≠ []) :
    (unexpanded fresh (consolidate fresh current)).length < fresh.length := by
  obtain ⟨e, he⟩ := List.exists_mem_of_ne_nil _ h
  refine List.length_filter_lt_length_iff_exists.2
    ⟨e.key, key_mem_of_mem_consolidate he, ?_⟩
  simp only [Bool.not_eq_true, Bool.not_eq_false', List.any_eq_true, decide_eq_true_eq]
  exact ⟨e, he, rfl⟩

/-- Of the entries of a depth, the methods whose names occur once there and at no smaller depth
    (`decided`). -/
def unambiguous (decided : List String) (entries : List (String × Entry)) : List Method :=
  entries.filterMap fun (name, entry) =>
    if !decided.contains name && (entries.countP (·.1 = name)) = 1 then entry.method? else none

namespace Scope

/-- The types embedded by the fields of a struct, as far as `Scope.resolve` finds them. A struct
    reached on several ways hands that on to what it embeds. -/
def embeddedFields (scope : Scope) (embedding : Embedding) :
    List Field → Logged (List Embedding)
  | [] => pure []
  | field :: fields => do
    let found ←
      if field.embedded then scope.resolve (field.type.subst embedding.subst) else pure none
    let more ← scope.embeddedFields embedding fields
    return (found.map ({ · with multiple := embedding.multiple })).toList ++ more

/-- What one type brings in: its declared methods, then the fields of a struct or the methods of an
    interface. The names of a type reached on several ways count twice. -/
def introduce (scope : Scope) (embedding : Embedding) : Logged Level := do
  let declared := embedding.decl.methods.map (Method.subst embedding.subst)
  let (inner, next) ← match embedding.decl.underlying with
    | .struct fields => do
      let next ← scope.embeddedFields embedding fields
      pure (fields.map fun field => (field.name, Entry.field), next)
    | .interface embeddeds methods => do
      let all ← scope.interfaceMethods embedding.subst embeddeds methods
      pure (all.map fun method => (method.name, Entry.method method), [])
    | _ => pure ([], [])
  let entries := declared.map (fun method => (method.name, Entry.method method)) ++ inner
  -- A name that counts twice is not unique on its level, so `unambiguous` passes it over.
  return ⟨if embedding.multiple then entries ++ entries else entries, next⟩

/-- What the types of one depth bring in, in order, each by `Scope.introduce`. -/
def introduceAll (scope : Scope) : List Embedding → Logged Level
  | [] => pure ⟨[], []⟩
  | embedding :: embeddings => do
    let first ← scope.introduce embedding
    let others ← scope.introduceAll embeddings
    return ⟨first.entries ++ others.entries, first.next ++ others.next⟩

/-- Searches level by level, from the types `current`. `decided` are the names of smaller depths,
    which a level cannot introduce again, be they methods, fields or ambiguous. -/
def search (scope : Scope) (fresh : List TypeKey) (decided : List String)
    (current : List Embedding) : Logged (List Method) :=
  if h : consolidate fresh current = [] then pure []
  else do
    have := length_unexpanded_lt h
    let level ← scope.introduceAll (consolidate fresh current)
    let found := unambiguous decided level.entries
    let deeper ← scope.search (unexpanded fresh (consolidate fresh current))
      (decided ++ level.entries.map (·.1)) level.next
    return found ++ deeper
termination_by fresh.length

/-- The exported method set of a declaration, sorted by name: what `Scope.search` finds from it. -/
def methodSet (scope : Scope) (decl : TypeDecl) : Logged (List Method) := do
  let root : Embedding := ⟨scope.package.path, decl, [], false⟩
  let methods ← scope.search (root.key :: scope.keys) [] [root]
  -- Unexported names hide and clash like others, so they are dropped only at the end.
  return (methods.filter Method.isExported).mergeSort (fun a b => a.name ≤ b.name)

/-- The exported structs a package declares, those with `TypeDecl.structFields?`, sorted by name. -/
def structDecls (package : Package) : List TypeDecl :=
  (package.types.filter fun decl => decl.isExported && decl.structFields?.isSome).mergeSort
    (fun a b => a.name ≤ b.name)

/-- The descriptor of a struct declaration, with its `Scope.methodSet`. -/
def describe (scope : Scope) (decl : TypeDecl) : Logged StructDescriptor := do
  let methods ← scope.methodSet decl
  return ⟨scope.package.ref, decl.name, decl.typeParams, methods⟩

/-- The descriptors of the exported structs of the package (`Scope.structDecls`). -/
def descriptors (scope : Scope) : Logged (List StructDescriptor) :=
  (structDecls scope.package).mapM scope.describe

end Scope

end IfaceGen
