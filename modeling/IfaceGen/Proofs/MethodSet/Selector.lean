import IfaceGen.Proofs.MethodSet.Interface

/-!
# Go's selector rule

The rule by which a name is promoted, as the language states it, without any search: a path of
embedded fields leads from a struct to a type, and every type at the end of a path introduces the
names of its fields, of its declared methods and of the methods of its interface. A name is
selected if, at the smallest depth at which it occurs, there is exactly one pair of a path and an
occurrence at its end. Paths may be many and, where types embed each other, endlessly many; nothing
is pruned or merged here.

## Key results

- `Scope.mem_walks`: `walks depth` lists the paths of one length with their ends
- `Scope.mem_sightings`: `sightings depth name` lists the pairs of a path and an occurrence
- `Scope.selects_iff`: a name is selected at a depth if and only if it has a single sighting there
  and none before
-/

namespace IfaceGen

/-- An occurrence of a name in a type: a field, a declared method, or a method of an interface. The
    methods of an interface are a set, so one of them is known by its name. -/
inductive Occurrence where
  | field (index : Nat)
  | declared (index : Nat)
  | interface (name : String)
deriving DecidableEq

/-- Whether the occurrence is that of a method. -/
def Occurrence.isMethod : Occurrence → Bool
  | .field _ => false
  | .declared _ | .interface _ => true

/-- A path of embedded fields, given by their positions, and an occurrence in the type to which it
    leads (`Scope.Leads`). -/
structure Sighting where
  path : List Nat
  occurrence : Occurrence
deriving DecidableEq

/-- The fields of a struct declaration, as `TypeDecl.structFields?` gives them; other types have
    none. -/
def TypeDecl.fields (decl : TypeDecl) : List Field :=
  decl.structFields?.getD []

/-- The entries of one name in a list of names with entries. -/
def entriesWithName (name : String) (entries : List (String × Entry)) : List Entry :=
  entries.filterMap fun (other, entry) => if other = name then some entry else none

namespace Scope

/-! ## The rule -/

/-- A path of embedded fields leads to the type at its end. On the way each type is taken with the
    type arguments of its embedding (`Scope.RefersTo`), in which the type parameters of the
    embedding type are replaced. -/
inductive Leads (scope : Scope) : Embedding → List Nat → Embedding → Prop
  | here {embedding : Embedding} : Leads scope embedding [] embedding
  | field {embedding target last : Embedding} {index : Nat} {field : Field} {path : List Nat}
      (h : embedding.decl.fields[index]? = some field) (embedded : field.embedded = true)
      (refers : scope.RefersTo (field.type.subst embedding.subst) target)
      (next : Leads scope target path last) : Leads scope embedding (index :: path) last

/-- A type introduces a name at an occurrence: as a field, as a declared method, or as a method of
    its interface. -/
inductive Introduces (scope : Scope) (embedding : Embedding) : Occurrence → String → Prop
  | field {index : Nat} {field : Field} (h : embedding.decl.fields[index]? = some field) :
      Introduces scope embedding (.field index) field.name
  | declared {index : Nat} {method : Method} (h : embedding.decl.methods[index]? = some method) :
      Introduces scope embedding (.declared index) method.name
  | interface {embeddeds : List GoType} {own : List Method} {method : Method}
      (isInterface : embedding.decl.underlying = .interface embeddeds own)
      (h : scope.InterfaceMethod embedding.subst embeddeds own method) :
      Introduces scope embedding (.interface method.name) method.name

/-- A method that stands at an occurrence, with the type parameters of its type replaced. The
    interfaces that an interface embeds may each bring a method of the same name. -/
inductive Denotes (scope : Scope) (embedding : Embedding) : Occurrence → Method → Prop
  | declared {index : Nat} {method : Method} (h : embedding.decl.methods[index]? = some method) :
      Denotes scope embedding (.declared index) (method.subst embedding.subst)
  | interface {embeddeds : List GoType} {own : List Method} {method : Method}
      (isInterface : embedding.decl.underlying = .interface embeddeds own)
      (h : scope.InterfaceMethod embedding.subst embeddeds own method) :
      Denotes scope embedding (.interface method.name) method

/-- A name is found at the end of a path from the declaration. -/
def Sees (scope : Scope) (decl : TypeDecl) (name : String) (sighting : Sighting) : Prop :=
  ∃ embedding, scope.Leads (scope.root decl) sighting.path embedding ∧
    scope.Introduces embedding sighting.occurrence name

/-- The selector rule: the name is found at the `sighting`, not at a smaller depth, and at the same
    depth nowhere else. -/
structure Selects (scope : Scope) (decl : TypeDecl) (name : String) (sighting : Sighting) :
    Prop where
  sees : scope.Sees decl name sighting
  shallowest : ∀ other, scope.Sees decl name other → sighting.path.length ≤ other.path.length
  unique : ∀ other, scope.Sees decl name other →
    other.path.length = sighting.path.length → other = sighting

/-- `Selects` leaves one sighting at most. -/
theorem Selects.sighting_eq {scope : Scope} {decl : TypeDecl} {name : String}
    {sighting other : Sighting} (h : scope.Selects decl name sighting)
    (h' : scope.Selects decl name other) : other = sighting :=
  h.unique other h'.sees
    (Nat.le_antisymm (h'.shallowest sighting h.sees) (h.shallowest other h'.sees))

/-! ## Listing paths -/

/-- Different entries of a list numbered by `List.zipIdx` have different numbers. -/
theorem pairwise_zipIdx {α : Type} (xs : List α) : xs.zipIdx.Pairwise (·.2 ≠ ·.2) := by
  refine List.pairwise_map.1 ?_
  rw [List.zipIdx_map_snd]
  exact List.nodup_range'

/-- The type that a field embeds, as `Scope.resolve` finds it. -/
def fieldTarget? (scope : Scope) (embedding : Embedding) (field : Field) : Option Embedding :=
  if field.embedded then (scope.resolve (field.type.subst embedding.subst)).value else none

theorem fieldTarget?_eq_some_iff {scope : Scope} {embedding target : Embedding} {field : Field} :
    scope.fieldTarget? embedding field = some target ↔
      field.embedded = true ∧ scope.RefersTo (field.type.subst embedding.subst) target := by
  rw [fieldTarget?, Option.ite_none_right_eq_some, resolve_eq_some_iff]

/-- The types that a struct embeds, with the positions of the fields that embed them. -/
def steps (scope : Scope) (embedding : Embedding) : List (Nat × Embedding) :=
  embedding.decl.fields.zipIdx.filterMap fun (field, index) =>
    (scope.fieldTarget? embedding field).map (index, ·)

/-- The types that a struct embeds, in the order of its fields. -/
def targets (scope : Scope) (embedding : Embedding) : List Embedding :=
  embedding.decl.fields.filterMap (scope.fieldTarget? embedding)

/-- A type among the `targets` is what the type of some field refers to. -/
theorem exists_refersTo_of_mem_targets {scope : Scope} {embedding target : Embedding}
    (h : target ∈ scope.targets embedding) : ∃ type, scope.RefersTo type target := by
  obtain ⟨field, -, h⟩ := List.mem_filterMap.1 h
  exact ⟨_, (fieldTarget?_eq_some_iff.1 h).2⟩

theorem multiple_of_mem_targets {scope : Scope} {embedding target : Embedding}
    (h : target ∈ scope.targets embedding) : target.multiple = false := by
  obtain ⟨type, htype⟩ := exists_refersTo_of_mem_targets h
  exact htype.multiple_eq

theorem known_of_mem_targets {scope : Scope} {embedding target : Embedding}
    (h : target ∈ scope.targets embedding) : scope.Known target := by
  obtain ⟨type, htype⟩ := exists_refersTo_of_mem_targets h
  exact htype.known

theorem key_mem_keys_of_mem_targets {scope : Scope} {embedding target : Embedding}
    (h : target ∈ scope.targets embedding) : target.key ∈ scope.keys := by
  obtain ⟨type, htype⟩ := exists_refersTo_of_mem_targets h
  exact htype.key_mem_keys

/-- All paths of the given length, with the types to which they lead. -/
def walks (scope : Scope) (start : Embedding) : Nat → List (List Nat × Embedding)
  | 0 => [([], start)]
  | depth + 1 => (scope.walks start depth).flatMap fun (path, embedding) =>
    (scope.steps embedding).map fun (index, target) => (path ++ [index], target)

/-- The types at the ends of all `walks` of the given length, once for each path. -/
def ends (scope : Scope) (start : Embedding) (depth : Nat) : List Embedding :=
  (scope.walks start depth).map (·.2)

theorem mem_steps {scope : Scope} {embedding target : Embedding} {index : Nat} :
    (index, target) ∈ scope.steps embedding ↔
      embedding.decl.fields[index]?.bind (scope.fieldTarget? embedding) = some target := by
  simp only [steps, List.mem_filterMap, Prod.exists, List.mem_zipIdx_iff_getElem?,
    Option.map_eq_some_iff, Prod.mk.injEq, Option.bind_eq_some_iff]
  constructor
  · rintro ⟨field, i, hfield, t, ht, rfl, rfl⟩
    exact ⟨field, hfield, ht⟩
  · rintro ⟨field, hfield, ht⟩
    exact ⟨field, index, hfield, target, ht, rfl, rfl⟩

theorem map_snd_steps (scope : Scope) (embedding : Embedding) :
    (scope.steps embedding).map (·.2) = scope.targets embedding := by
  rw [steps, targets, List.map_filterMap]
  conv => rhs; rw [← List.zipIdx_map_fst 0 embedding.decl.fields, List.filterMap_map]
  congr 1
  funext ⟨field, index⟩
  simp only [Function.comp_apply, Option.map_map]
  cases scope.fieldTarget? embedding field <;> rfl

/-- Different entries of `steps` are at different positions. -/
theorem pairwise_steps (scope : Scope) (embedding : Embedding) :
    (scope.steps embedding).Pairwise (·.1 ≠ ·.1) := by
  refine (pairwise_zipIdx embedding.decl.fields).filterMap _ fun a a' hne b hb b' hb' => ?_
  obtain ⟨t, -, rfl⟩ := Option.map_eq_some_iff.1 hb
  obtain ⟨t', -, rfl⟩ := Option.map_eq_some_iff.1 hb'
  exact hne

/-- The `steps` are the paths of one field. -/
theorem mem_steps_iff_leads {scope : Scope} {embedding target : Embedding} {index : Nat} :
    (index, target) ∈ scope.steps embedding ↔ scope.Leads embedding [index] target := by
  rw [mem_steps, Option.bind_eq_some_iff]
  constructor
  · rintro ⟨field, hfield, h⟩
    obtain ⟨embedded, refers⟩ := fieldTarget?_eq_some_iff.1 h
    exact .field hfield embedded refers .here
  · rintro (- | ⟨hfield, embedded, refers, ⟨⟩⟩)
    exact ⟨_, hfield, fieldTarget?_eq_some_iff.2 ⟨embedded, refers⟩⟩

/-- A path is taken one part after the other: `Leads` composes. -/
theorem leads_append_iff {scope : Scope} {start last : Embedding} {path rest : List Nat} :
    scope.Leads start (path ++ rest) last ↔
      ∃ middle, scope.Leads start path middle ∧ scope.Leads middle rest last := by
  constructor
  · -- A path is split after its first part, by induction on that part.
    intro h
    induction path generalizing start with
    | nil => exact ⟨start, .here, h⟩
    | cons index path ih =>
      cases h with
      | field h embedded refers next =>
        obtain ⟨middle, hbefore, hafter⟩ := ih next
        exact ⟨middle, .field h embedded refers hbefore, hafter⟩
  · rintro ⟨middle, hbefore, hafter⟩
    induction hbefore with
    | here => exact hafter
    | field h embedded refers _ ih => exact .field h embedded refers (ih hafter)

/-- A path leads (`Scope.Leads`) to one type at most. -/
theorem Leads.unique {scope : Scope} {start last other : Embedding} {path : List Nat}
    (h : scope.Leads start path last) (h' : scope.Leads start path other) : last = other := by
  induction h with
  | here =>
    cases h'
    rfl
  | field h _ refers _ ih =>
    cases h' with
    | field h' _ refers' next' =>
      -- There is one field at a position, and its type refers to one declaration.
      obtain rfl := Option.some.inj (h.symm.trans h')
      obtain rfl := refers.unique refers'
      exact ih next'

/-- The list `walks` of paths is complete. -/
theorem mem_walks {scope : Scope} {start embedding : Embedding} {depth : Nat} {path : List Nat} :
    (path, embedding) ∈ scope.walks start depth ↔
      path.length = depth ∧ scope.Leads start path embedding := by
  induction depth generalizing path embedding with
  | zero =>
    rw [walks, List.mem_singleton, Prod.mk.injEq, List.length_eq_zero_iff]
    constructor
    · rintro ⟨rfl, rfl⟩
      exact ⟨rfl, .here⟩
    · rintro ⟨rfl, ⟨⟩⟩
      exact ⟨rfl, rfl⟩
  | succ depth ih =>
    simp only [walks, List.mem_flatMap, List.mem_map, Prod.exists, Prod.mk.injEq, ih,
      mem_steps_iff_leads]
    constructor
    · rintro ⟨before, middle, ⟨rfl, hbefore⟩, index, target, htarget, rfl, rfl⟩
      exact ⟨List.length_append, leads_append_iff.2 ⟨middle, hbefore, htarget⟩⟩
    · -- The last step of the path is the one that was added.
      rintro ⟨hlength, hleads⟩
      rcases List.eq_nil_or_concat path with rfl | ⟨before, index, rfl⟩
      · exact nomatch hlength
      rw [List.concat_eq_append] at hlength hleads ⊢
      obtain ⟨middle, hbefore, htarget⟩ := leads_append_iff.1 hleads
      rw [List.length_append, List.length_singleton] at hlength
      exact ⟨before, middle, ⟨Nat.succ.inj hlength, hbefore⟩, index, embedding, htarget, rfl, rfl⟩

/-- Different `walks` take different paths. -/
theorem pairwise_walks (scope : Scope) (start : Embedding) (depth : Nat) :
    (scope.walks start depth).Pairwise (·.1 ≠ ·.1) := by
  induction depth with
  | zero => exact List.pairwise_singleton _ _
  | succ depth ih =>
    rw [walks, List.pairwise_flatMap]
    -- Paths that go on from one place differ in the last step, others differ before it.
    refine ⟨fun ⟨path, embedding⟩ _ => ?_, ih.imp fun {a b} hne => ?_⟩
    · refine List.pairwise_map.2 ((scope.pairwise_steps embedding).imp fun {a b} hne heq => ?_)
      exact hne (List.singleton_inj.1 (List.append_cancel_left heq))
    · intro x hx y hy heq
      obtain ⟨i, -, rfl⟩ := List.mem_map.1 hx
      obtain ⟨j, -, rfl⟩ := List.mem_map.1 hy
      exact hne (List.append_inj_left' heq rfl)

theorem ends_zero (scope : Scope) (start : Embedding) : scope.ends start 0 = [start] := rfl

/-- The `ends` one step further down are the `targets` of those before. -/
theorem ends_succ (scope : Scope) (start : Embedding) (depth : Nat) :
    scope.ends start (depth + 1) = (scope.ends start depth).flatMap scope.targets := by
  rw [ends, ends, walks, List.map_flatMap, List.flatMap_map]
  refine List.flatMap_congr fun walk _ => ?_
  rw [List.map_map, ← map_snd_steps]
  rfl

/-- Every type at the end of a path is `Scope.Known`. -/
theorem known_of_mem_ends {scope : Scope} {start : Embedding} (hstart : scope.Known start)
    {depth : Nat} {embedding : Embedding} (h : embedding ∈ scope.ends start depth) :
    scope.Known embedding := by
  induction depth generalizing embedding with
  | zero => exact List.mem_singleton.1 h ▸ hstart
  | succ depth ih =>
    rw [ends_succ, List.mem_flatMap] at h
    obtain ⟨parent, -, h⟩ := h
    exact known_of_mem_targets h

/-! ## Listing occurrences -/

/-- The methods of the interface that a type is, as `interfaceMethods` collects them; other types
    have none. -/
def collected (scope : Scope) (embedding : Embedding) : List Method :=
  match embedding.decl.underlying with
  | .interface embeddeds own => (scope.interfaceMethods embedding.subst embeddeds own).value
  | _ => []

/-- The names that a type introduces, with their entries, in the order in which `Scope.introduceAll`
    brings them. -/
def entries (scope : Scope) (embedding : Embedding) : List (String × Entry) :=
  embedding.decl.methods.map (fun method =>
      (method.name, Entry.method (method.subst embedding.subst))) ++
    (embedding.decl.fields.map (fun field => (field.name, Entry.field)) ++
      (scope.collected embedding).map fun method => (method.name, Entry.method method))

/-- All occurrences in a type, with their names and the `entries` of the names. -/
def occurrences (scope : Scope) (embedding : Embedding) : List (Occurrence × String × Entry) :=
  embedding.decl.methods.zipIdx.map (fun (method, index) =>
      (.declared index, method.name, .method (method.subst embedding.subst))) ++
    (embedding.decl.fields.zipIdx.map (fun (field, index) => (.field index, field.name, .field)) ++
      (scope.collected embedding).map fun method =>
        (.interface method.name, method.name, .method method))

theorem mem_collected {scope : Scope} {embedding : Embedding} {method : Method} :
    method ∈ scope.collected embedding ↔
      ∃ embeddeds own, embedding.decl.underlying = .interface embeddeds own ∧
        method ∈ (scope.interfaceMethods embedding.subst embeddeds own).value := by
  rw [collected]
  split
  · rename_i embeddeds own hinterface
    rw [hinterface]
    constructor
    · exact fun h => ⟨embeddeds, own, rfl, h⟩
    · rintro ⟨_, _, heq, h⟩
      cases heq
      exact h
  · rename_i hother
    constructor
    · -- Only interfaces collect; a declaration of another kind has nothing.
      intro h
      exact absurd h List.not_mem_nil
    · rintro ⟨embeddeds, own, heq, _⟩
      exact absurd heq (hother embeddeds own)

theorem collected_nodup {scope : Scope} (hscope : scope.WellShaped) {embedding : Embedding}
    (hknown : scope.Known embedding) : ((scope.collected embedding).map (·.name)).Nodup := by
  rw [collected]
  split
  · rename_i embeddeds own hinterface
    exact interfaceMethods_nodup hscope hknown hinterface _
  · exact List.nodup_nil

theorem map_snd_occurrences (scope : Scope) (embedding : Embedding) :
    (scope.occurrences embedding).map (·.2) = scope.entries embedding := by
  rw [occurrences, entries, List.map_append, List.map_append, List.map_map, List.map_map,
    List.map_map]
  congr 1
  · conv => rhs; rw [← List.zipIdx_map_fst 0 embedding.decl.methods, List.map_map]
    rfl
  · congr 1
    conv => rhs; rw [← List.zipIdx_map_fst 0 embedding.decl.fields, List.map_map]
    rfl

theorem mem_occurrences {scope : Scope} {embedding : Embedding} {occurrence : Occurrence}
    {name : String} {entry : Entry} :
    (occurrence, name, entry) ∈ scope.occurrences embedding ↔
      (∃ index method, embedding.decl.methods[index]? = some method ∧
        occurrence = .declared index ∧ name = method.name ∧
        entry = .method (method.subst embedding.subst)) ∨
      (∃ index field, embedding.decl.fields[index]? = some field ∧
        occurrence = .field index ∧ name = field.name ∧ entry = .field) ∨
      ∃ method ∈ scope.collected embedding,
        occurrence = .interface method.name ∧ name = method.name ∧ entry = .method method := by
  rw [occurrences, List.mem_append, List.mem_append]
  -- Declared methods and fields are known by their positions, methods of an interface by their
  -- names.
  refine or_congr ?_ (or_congr ?_ ?_)
  · simp only [List.mem_map, Prod.exists, List.mem_zipIdx_iff_getElem?, Prod.mk.injEq]
    constructor
    · rintro ⟨method, index, h, rfl, rfl, rfl⟩
      exact ⟨index, method, h, rfl, rfl, rfl⟩
    · rintro ⟨index, method, h, rfl, rfl, rfl⟩
      exact ⟨method, index, h, rfl, rfl, rfl⟩
  · simp only [List.mem_map, Prod.exists, List.mem_zipIdx_iff_getElem?, Prod.mk.injEq]
    constructor
    · rintro ⟨field, index, h, rfl, rfl, rfl⟩
      exact ⟨index, field, h, rfl, rfl, rfl⟩
    · rintro ⟨index, field, h, rfl, rfl, rfl⟩
      exact ⟨field, index, h, rfl, rfl, rfl⟩
  · simp only [List.mem_map, Prod.mk.injEq]
    constructor
    · rintro ⟨method, h, rfl, rfl, rfl⟩
      exact ⟨method, h, rfl, rfl, rfl⟩
    · rintro ⟨method, h, rfl, rfl, rfl⟩
      exact ⟨method, h, rfl, rfl, rfl⟩

/-- A type introduces a name at the `occurrences` with that name, and nowhere else. -/
theorem introduces_iff {scope : Scope} (hscope : scope.WellShaped) {embedding : Embedding}
    {occurrence : Occurrence} {name : String} :
    scope.Introduces embedding occurrence name ↔
      ∃ entry, (occurrence, name, entry) ∈ scope.occurrences embedding := by
  constructor
  · rintro (⟨h⟩ | ⟨h⟩ | ⟨isInterface, h⟩)
    · exact ⟨_, mem_occurrences.2 (.inr (.inl ⟨_, _, h, rfl, rfl, rfl⟩))⟩
    · exact ⟨_, mem_occurrences.2 (.inl ⟨_, _, h, rfl, rfl, rfl⟩)⟩
    · -- The collected method may be another one, but it has the name.
      obtain ⟨method, hmethod, hname⟩ := List.mem_map.1 (interfaceMethods_complete hscope.keyed h)
      exact ⟨.method method, mem_occurrences.2 (.inr (.inr
        ⟨method, mem_collected.2 ⟨_, _, isInterface, hmethod⟩, by rw [hname], hname.symm, rfl⟩))⟩
  · rintro ⟨entry, hmem⟩
    rcases mem_occurrences.1 hmem with ⟨index, method, h, rfl, rfl, -⟩ |
      ⟨index, field, h, rfl, rfl, -⟩ | ⟨method, h, rfl, rfl, -⟩
    · exact .declared h
    · exact .field h
    · obtain ⟨embeddeds, own, isInterface, h⟩ := mem_collected.1 h
      exact .interface isInterface (interfaceMethods_sound hscope.keyed h)

/-- An occurrence among `occurrences` denotes the method of its entry. -/
theorem denotes_of_mem_occurrences {scope : Scope} (hscope : scope.WellShaped)
    {embedding : Embedding} {occurrence : Occurrence} {name : String} {method : Method}
    (hmem : (occurrence, name, .method method) ∈ scope.occurrences embedding) :
    scope.Denotes embedding occurrence method := by
  rcases mem_occurrences.1 hmem with ⟨index, declared, h, rfl, -, heq⟩ |
    ⟨index, field, h, -, -, heq⟩ | ⟨found, h, rfl, -, heq⟩
  · cases heq
    exact .declared h
  · exact nomatch heq
  · cases heq
    obtain ⟨embeddeds, own, isInterface, h⟩ := mem_collected.1 h
    exact .interface isInterface (interfaceMethods_sound hscope.keyed h)

/-- The entry at an occurrence with `Occurrence.isMethod` is a method of the name. -/
theorem exists_method_of_mem_occurrences {scope : Scope} {embedding : Embedding}
    {occurrence : Occurrence} {name : String} {entry : Entry}
    (hmem : (occurrence, name, entry) ∈ scope.occurrences embedding)
    (hmethod : occurrence.isMethod) : ∃ method, entry = .method method ∧ method.name = name := by
  rcases mem_occurrences.1 hmem with ⟨index, declared, -, -, rfl, heq⟩ |
    ⟨index, field, -, rfl, -, -⟩ | ⟨found, -, -, rfl, heq⟩
  · exact ⟨declared.subst embedding.subst, heq, rfl⟩
  · exact nomatch hmethod
  · exact ⟨found, heq, rfl⟩

/-- What denotes a method (`Scope.Denotes`) is an occurrence of a method, not of a field. -/
theorem Denotes.isMethod {scope : Scope} {embedding : Embedding} {occurrence : Occurrence}
    {method : Method} (h : scope.Denotes embedding occurrence method) :
    occurrence.isMethod := by
  cases h with
  | declared => rfl
  | interface => rfl

/-- No occurrence is listed twice in `Scope.occurrences`. -/
theorem pairwise_occurrences {scope : Scope} (hscope : scope.WellShaped) {embedding : Embedding}
    (hknown : scope.Known embedding) : (scope.occurrences embedding).Pairwise (·.1 ≠ ·.1) := by
  rw [occurrences, List.pairwise_append, List.pairwise_append]
  -- Declared methods, fields and collected methods, and then each of these against the others.
  refine ⟨?_, ⟨?_, ?_, ?_⟩, ?_⟩
  · refine List.pairwise_map.2 ((pairwise_zipIdx _).imp fun {a b} hne heq => ?_)
    exact hne (Occurrence.declared.inj heq)
  · refine List.pairwise_map.2 ((pairwise_zipIdx _).imp fun {a b} hne heq => ?_)
    exact hne (Occurrence.field.inj heq)
  · have hnodup := List.pairwise_map.1 (collected_nodup hscope hknown)
    refine List.pairwise_map.2 (hnodup.imp fun {a b} hne heq => ?_)
    exact hne (Occurrence.interface.inj heq)
  · intro x hx y hy heq
    obtain ⟨_, -, rfl⟩ := List.mem_map.1 hx
    obtain ⟨_, -, rfl⟩ := List.mem_map.1 hy
    exact nomatch heq
  · intro x hx y hy heq
    obtain ⟨_, -, rfl⟩ := List.mem_map.1 hx
    rcases List.mem_append.1 hy with hy | hy
    · obtain ⟨_, -, rfl⟩ := List.mem_map.1 hy
      exact nomatch heq
    · obtain ⟨_, -, rfl⟩ := List.mem_map.1 hy
      exact nomatch heq

/-! ## Listing sightings -/

/-- The `entries` of one name in a type. -/
def entriesNamed (scope : Scope) (name : String) (embedding : Embedding) : List Entry :=
  entriesWithName name (scope.entries embedding)

/-- All sightings of a name at one depth, with their entries. -/
def sightings (scope : Scope) (start : Embedding) (depth : Nat) (name : String) :
    List (Sighting × Entry) :=
  (scope.walks start depth).flatMap fun (path, embedding) =>
    (scope.occurrences embedding).filterMap fun (occurrence, other, entry) =>
      if other = name then some (⟨path, occurrence⟩, entry) else none

theorem mem_sightings {scope : Scope} {start : Embedding} {depth : Nat} {name : String}
    {sighting : Sighting} {entry : Entry} :
    (sighting, entry) ∈ scope.sightings start depth name ↔
      sighting.path.length = depth ∧ ∃ embedding,
        scope.Leads start sighting.path embedding ∧
          (sighting.occurrence, name, entry) ∈ scope.occurrences embedding := by
  simp only [sightings, List.mem_flatMap, List.mem_filterMap, Prod.exists, mem_walks]
  constructor
  · rintro ⟨path, embedding, ⟨rfl, hleads⟩, occurrence, other, entry', hmem, heq⟩
    -- Of the occurrences those of the name are kept.
    split at heq
    · rename_i hname
      cases heq
      exact ⟨rfl, embedding, hleads, hname ▸ hmem⟩
    · exact nomatch heq
  · rintro ⟨hlength, embedding, hleads, hmem⟩
    exact ⟨sighting.path, embedding, ⟨hlength, hleads⟩, sighting.occurrence, name, entry, hmem,
      if_pos rfl⟩

theorem map_snd_sightings (scope : Scope) (start : Embedding) (depth : Nat) (name : String) :
    (scope.sightings start depth name).map (·.2) =
      (scope.ends start depth).flatMap (scope.entriesNamed name) := by
  rw [sightings, ends, List.map_flatMap, List.flatMap_map]
  refine List.flatMap_congr fun walk _ => ?_
  rw [entriesNamed, entriesWithName, ← map_snd_occurrences, List.map_filterMap, List.filterMap_map]
  congr 1
  funext ⟨occurrence, other, entry⟩
  simp only [Function.comp_apply]
  split <;> rfl

/-- No sighting is listed twice in `Scope.sightings`. -/
theorem pairwise_sightings {scope : Scope} (hscope : scope.WellShaped) {start : Embedding}
    (hstart : scope.Known start) (depth : Nat) (name : String) :
    (scope.sightings start depth name).Pairwise (·.1 ≠ ·.1) := by
  rw [sightings, List.pairwise_flatMap]
  refine ⟨fun ⟨path, embedding⟩ hwalk => ?_, (scope.pairwise_walks start depth).imp
    fun {a b} hne => ?_⟩
  · -- At the end of one path the occurrences differ; sightings of different walks have different
    -- paths.
    have hknown := known_of_mem_ends hstart (List.mem_map_of_mem hwalk)
    refine (pairwise_occurrences hscope hknown).filterMap _
      fun ⟨o, n, _⟩ ⟨o', n', _⟩ hne x hx y hy heq => ?_
    simp only [Option.ite_none_right_eq_some, Option.some.injEq] at hx hy
    obtain ⟨-, rfl⟩ := hx
    obtain ⟨-, rfl⟩ := hy
    exact hne (congrArg Sighting.occurrence heq)
  · intro x hx y hy heq
    obtain ⟨⟨o, n, _⟩, -, hx⟩ := List.mem_filterMap.1 hx
    obtain ⟨⟨o', n', _⟩, -, hy⟩ := List.mem_filterMap.1 hy
    simp only [Option.ite_none_right_eq_some, Option.some.injEq] at hx hy
    obtain ⟨-, rfl⟩ := hx
    obtain ⟨-, rfl⟩ := hy
    exact hne (congrArg Sighting.path heq)

/-- `Sees` holds of what `sightings` lists. -/
theorem sees_iff {scope : Scope} (hscope : scope.WellShaped) {decl : TypeDecl} {name : String}
    {sighting : Sighting} :
    scope.Sees decl name sighting ↔
      ∃ entry, (sighting, entry) ∈
        scope.sightings (scope.root decl) sighting.path.length name := by
  simp only [Sees, introduces_iff hscope, mem_sightings, true_and]
  constructor
  · rintro ⟨embedding, hleads, entry, h⟩
    exact ⟨entry, embedding, hleads, h⟩
  · rintro ⟨entry, embedding, hleads, h⟩
    exact ⟨embedding, hleads, entry, h⟩

/-- The selector rule in terms of `sightings`: none at smaller depths, and a single one at the depth
    of the path. -/
theorem selects_iff {scope : Scope} (hscope : scope.WellShaped) {decl : TypeDecl}
    (hdecl : decl ∈ scope.package.types) {name : String} {sighting : Sighting} :
    scope.Selects decl name sighting ↔
      (∀ depth < sighting.path.length, scope.sightings (scope.root decl) depth name = []) ∧
        ∃ entry, scope.sightings (scope.root decl) sighting.path.length name =
          [(sighting, entry)] := by
  constructor
  · intro h
    refine ⟨fun depth hdepth => List.eq_nil_iff_forall_not_mem.2 ?_, ?_⟩
    · rintro ⟨other, entry⟩ hmem
      have hlength := (mem_sightings.1 hmem).1
      have hsees : scope.Sees decl name other := (sees_iff hscope).2 ⟨entry, hlength ▸ hmem⟩
      have := h.shallowest other hsees
      omega
    · obtain ⟨entry, hmem⟩ := (sees_iff hscope).1 h.sees
      have hpairwise :=
        pairwise_sightings hscope (known_root hscope.keyed hdecl) sighting.path.length name
      -- Every listed sighting is this one, and none is listed twice.
      have honly : ∀ x ∈ scope.sightings (scope.root decl) sighting.path.length name,
          x.1 = sighting := by
        rintro ⟨other, entry'⟩ hmem'
        have hlength := (mem_sightings.1 hmem').1
        exact h.unique other ((sees_iff hscope).2 ⟨entry', hlength ▸ hmem'⟩) hlength
      refine ⟨entry, ?_⟩
      match hlist : scope.sightings (scope.root decl) sighting.path.length name,
        hmem, hpairwise, honly with
      | [x], hmem, _, _ => rw [List.mem_singleton.1 hmem]
      | x :: y :: _, _, hpairwise, honly =>
        have hne := List.rel_of_pairwise_cons hpairwise (List.mem_cons_self (a := y))
        rw [honly x List.mem_cons_self, honly y (List.mem_cons_of_mem _ List.mem_cons_self)] at hne
        exact absurd rfl hne
  · rintro ⟨hbefore, entry, hone⟩
    refine ⟨(sees_iff hscope).2 ⟨entry, ?_⟩, fun other hother => ?_, fun other hother hlength => ?_⟩
    · rw [hone]
      exact List.mem_singleton_self _
    · by_contra hlt
      obtain ⟨entry', hmem⟩ := (sees_iff hscope).1 hother
      rw [hbefore _ (by omega)] at hmem
      exact nomatch hmem
    · obtain ⟨entry', hmem⟩ := (sees_iff hscope).1 hother
      rw [hlength, hone] at hmem
      exact congrArg Prod.fst (List.mem_singleton.1 hmem)

end Scope

end IfaceGen
