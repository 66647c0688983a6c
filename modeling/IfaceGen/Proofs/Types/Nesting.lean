import IfaceGen.Proofs.Types.Records

/-!
# Nesting limits

Readers of models refuse types that nest too deep, and types with parts that cannot be held. What
is readable within the limit they read like readers without one, and what is written is readable
within its depth.

## Key results

- `GoType.decodeWithin_eq` / `Signature.decodeWithin_eq` / `Package.decodeWithin_eq`: the limit
  makes no difference to what is readable within it
- `GoType.holdable_encode` / `Signature.holdable_encode` / `Package.holdable_encode`: all parts of
  what is written can be held
-/

namespace IfaceGen

open Data

/-! ## Parts of readable documents -/

theorem exists_of_mem_mapM {α β : Type} {f : α → Option β} {xs : List α} {ys : List β}
    (h : xs.mapM f = some ys) {y : β} (hy : y ∈ ys) : ∃ x ∈ xs, f x = some y := by
  induction xs generalizing ys with
  | nil =>
    cases h
    cases hy
  | cons x xs ih =>
    simp only [List.mapM_cons, Option.bind_eq_bind, Option.bind_eq_some_iff, Option.pure_def,
      Option.some.injEq] at h
    obtain ⟨first, hfirst, rest, hrest, rfl⟩ := h
    rcases List.mem_cons.1 hy with rfl | hy
    · exact ⟨x, List.mem_cons_self, hfirst⟩
    · obtain ⟨other, hother, hread⟩ := ih hrest hy
      exact ⟨other, List.mem_cons_of_mem _ hother, hread⟩

theorem mapM_congr {α β : Type} {f g : α → Option β} {xs : List α} (h : ∀ x ∈ xs, f x = g x) :
    xs.mapM f = xs.mapM g := by
  induction xs with
  | nil => rfl
  | cons x xs ih =>
    rw [List.forall_mem_cons] at h
    rw [List.mapM_cons, List.mapM_cons, h.1, ih h.2]

section Parts

variable {whole : Data} {limit : Nat}

/-- What `Data.slots` finds in a readable value is readable one level further down. -/
theorem readable_of_slots (h : whole.readable limit = true) {names : List String}
    {places : List (Option (Part whole))} (hplaces : whole.slots names = some places)
    {part : Part whole} (hpart : some part ∈ places) : part.val.readable (limit - 1) = true := by
  match whole with
  | .record fields =>
    rw [Data.readable, Bool.and_eq_true, fieldsReadable_iff] at h
    obtain ⟨name, -, hslot⟩ := exists_of_mem_mapM hplaces hpart
    exact h.2 _ (mem_of_slot hslot)
  | .list items =>
    rw [Data.readable, Bool.and_eq_true, itemsReadable_iff] at h
    rw [slots] at hplaces
    split at hplaces
    · cases hplaces
      -- The items stand in front, and the places left over are empty.
      rcases List.mem_append.1 hpart with hpart | hpart
      · obtain ⟨found, hfound, heq⟩ := List.mem_map.1 hpart
        cases heq
        obtain ⟨⟨item, hitem⟩, -, rfl⟩ := List.mem_map.1 hfound
        exact h.2 item hitem
      · cases (List.mem_replicate.1 hpart).2
    · cases hplaces
  | .null | .bool _ | .nat _ | .number | .str _ | .unreadable => cases hplaces

/-- Readers that agree on what `Data.slots` finds in a value agree on the value. -/
theorem slots_bind_congr {β : Type} (h : whole.readable limit = true) {names : List String}
    {read read' : List (Option (Part whole)) → Option β}
    (hread : ∀ places, (∀ part, some part ∈ places → part.val.readable (limit - 1) = true) →
      read places = read' places) :
    (whole.slots names >>= read) = (whole.slots names >>= read') := by
  cases hplaces : whole.slots names with
  | none => rfl
  | some places => exact hread places fun part hpart => readable_of_slots h hplaces hpart

theorem field?_congr {α : Type} (default : α) {read read' : Part whole → Option α}
    {place : Option (Part whole)} (h : ∀ part, place = some part → read part = read' part) :
    field? default read place = field? default read' place := by
  cases place with
  | none => rfl
  | some part => exact h part rfl

theorem required?_congr {α : Type} {read read' : Part whole → Option α}
    {place : Option (Part whole)} (h : ∀ part, place = some part → read part = read' part) :
    required? read place = required? read' place := by
  cases place with
  | none => rfl
  | some part => exact h part rfl

theorem readItems_congr {α : Type} (h : whole.readable limit = true) {read read' : Data → Option α}
    (hread : ∀ item, item.readable (limit - 1) = true → read item = read' item) :
    readItems read whole = readItems read' whole := by
  match whole with
  | .list items =>
    rw [Data.readable, Bool.and_eq_true, itemsReadable_iff] at h
    exact mapM_congr fun item hitem => hread item (h.2 item hitem)
  | .null | .bool _ | .nat _ | .number | .str _ | .record _ | .unreadable => rfl

/-- Lists whose items are read alike are read alike, whether `Part` by `Part` or by `readItems`. -/
theorem field?_items_congr {α : Type} {place : Option (Part whole)}
    (hplace : ∀ part, place = some part → part.val.readable limit = true)
    {read read' : Data → Option α}
    (hread : ∀ item, item.readable (limit - 1) = true → read item = read' item) :
    field? [] (·.mapItems? (read ·.val)) place = field? [] (readItems read' ·.val) place :=
  field?_congr [] fun part hpart =>
    (mapItems?_val read part.val).trans (readItems_congr (hplace part hpart) hread)

end Parts

/-! ## The limit -/

section Limit

variable {whole : Data} {limit : Nat} (h : whole.readable limit = true)
include h

theorem GoType.decodeWithin_eq : GoType.decodeWithin limit whole = GoType.decode false whole :=
  if_pos h

theorem Var.read_congr {read read' : Data → Option GoType}
    (hread : ∀ type, type.readable (limit - 1) = true → read type = read' type) :
    Var.read read whole = Var.read read' whole := by
  refine slots_bind_congr h fun places hplaces => ?_
  match places with
  | [name, type] =>
    have htype : required? (read ·.val) type = required? (read' ·.val) type :=
      required?_congr fun part hpart => hread part.val (hplaces part (by simp [hpart]))
    simp only [htype]
  | [] | [_] | _ :: _ :: _ :: _ => rfl

/-- The types that `Signature.read` meets stand in the records of its variables, and these in a
    list: three levels further down. -/
theorem Signature.read_congr {read read' : Data → Option GoType}
    (hread : ∀ type, type.readable (limit - 3) = true → read type = read' type) :
    Signature.read read whole = Signature.read read' whole := by
  have hvars (part : Part whole) (hpart : part.val.readable (limit - 1) = true) :
      (part.mapItems? fun item => Var.decodeWith item.val fun inner => read (item.sub inner).val) =
        part.mapItems? fun item => Var.decodeWith item.val fun inner =>
          read' (item.sub inner).val := by
    show part.val.mapItems? (Var.read read ·.val) = part.val.mapItems? (Var.read read' ·.val)
    rw [mapItems?_val, mapItems?_val]
    exact readItems_congr hpart fun item hitem => Var.read_congr hitem hread
  refine slots_bind_congr h fun places hplaces => ?_
  -- The fields `params` and `results` hold variables, and `variadic` holds no type.
  match places with
  | [params, results, variadic] =>
    have hparams := field?_congr [] fun part (hpart : params = some part) =>
      hvars part (hplaces part (by simp [hpart]))
    have hresults := field?_congr [] fun part (hpart : results = some part) =>
      hvars part (hplaces part (by simp [hpart]))
    simp only [hparams, hresults]
  | [] | [_] | [_, _] | _ :: _ :: _ :: _ :: _ => rfl

theorem Signature.decodeWithin_eq :
    Signature.decodeWithin limit whole = Signature.read (GoType.decode false) whole :=
  Signature.read_congr h fun _ htype => GoType.decodeWithin_eq htype

theorem Method.decodeWithin_eq :
    Method.decodeWithin limit whole = Method.read (GoType.decode false) whole := by
  refine slots_bind_congr h fun places hplaces => ?_
  match places with
  | [name, signature] =>
    have hsignature : required? (Signature.read (GoType.decodeWithin (limit - 4)) ·.val) signature =
        required? (Signature.read (GoType.decode false) ·.val) signature :=
      required?_congr fun part hpart => by
        -- The method's own record is one of the four that are open.
        rw [show limit - 4 = limit - 1 - 3 by omega]
        exact Signature.decodeWithin_eq (hplaces part (by simp [hpart]))
    show (required? (·.val.str?) name >>= fun name =>
        required? (Signature.read (GoType.decodeWithin (limit - 4)) ·.val) signature >>= _) = _
    simp only [hsignature]
    rfl
  | [] | [_] | _ :: _ :: _ :: _ => rfl

theorem TypeParam.decodeWithin_eq :
    TypeParam.decodeWithin limit whole = TypeParam.decode whole := by
  refine slots_bind_congr h fun places hplaces => ?_
  match places with
  | [name, constraint] =>
    have hconstraint := required?_congr fun part (hpart : constraint = some part) =>
      GoType.decodeWithin_eq (hplaces part (by simp [hpart]))
    simp only [hconstraint]
  | [] | [_] | _ :: _ :: _ :: _ => rfl

theorem TypeDecl.decodeWithin_eq : TypeDecl.decodeWithin limit whole = TypeDecl.decode whole := by
  refine slots_bind_congr h fun places hplaces => ?_
  -- Each field is read one level further down, and the items of a list two.
  match places with
  | [name, typeParams, underlying, methods] =>
    have hparams : field? [] (·.mapItems? (TypeParam.decodeWithin (limit - 2) ·.val)) typeParams =
        field? [] (readItems TypeParam.decode ·.val) typeParams :=
      field?_items_congr (fun part hpart => hplaces part (by simp [hpart]))
        fun _ hparam => TypeParam.decodeWithin_eq hparam
    have hunderlying := required?_congr fun part (hpart : underlying = some part) =>
      GoType.decodeWithin_eq (hplaces part (by simp [hpart]))
    have hmethods : field? [] (·.mapItems? (Method.decodeWithin (limit - 2) ·.val)) methods =
        field? [] (readItems (Method.read (GoType.decode false)) ·.val) methods :=
      field?_items_congr (fun part hpart => hplaces part (by simp [hpart]))
        fun _ hmethod => Method.decodeWithin_eq hmethod
    simp only [hparams, hunderlying, hmethods]
  | [] | [_] | [_, _] | [_, _, _] | _ :: _ :: _ :: _ :: _ :: _ => rfl

theorem Package.decodeWithin_eq : Package.decodeWithin limit whole = Package.decode whole := by
  refine slots_bind_congr h fun places hplaces => ?_
  -- The types are two levels further down, and nothing else nests.
  match places with
  | [path, name, types, errors] =>
    have htypes : field? [] (·.mapItems? (TypeDecl.decodeWithin (limit - 2) ·.val)) types =
        field? [] (readItems TypeDecl.decode ·.val) types :=
      field?_items_congr (fun part hpart => hplaces part (by simp [hpart]))
        fun _ hdecl => TypeDecl.decodeWithin_eq hdecl
    have herrors : field? [] (·.mapItems? (·.val.str?)) errors =
        field? [] (readItems str? ·.val) errors :=
      field?_congr [] fun part _ => mapItems?_val str? part.val
    simp only [htypes, herrors]
  | [] | [_] | [_, _] | [_, _, _] | _ :: _ :: _ :: _ :: _ :: _ => rfl

end Limit

/-! ## What is written -/

theorem PackageRef.holdable_encode (ref : PackageRef) : ref.encode.Holdable :=
  .record_cons (.str _) (.record_cons (.str _) .record_nil)

theorem TypeName.holdable_encodePkg (name : TypeName) : name.encodePkg.Holdable := by
  rw [TypeName.encodePkg]
  cases name.pkg with
  | none => exact .null
  | some ref => exact ref.holdable_encode

theorem ChanDir.holdable_encode (dir : ChanDir) : dir.encode.Holdable := by
  cases dir with
  | send | recv | both => exact .str _

mutual
theorem GoType.holdable_encode : (type : GoType) → type.encode.Holdable
  -- The kind first, then the fields of the kind.
  | .basic name => by
    rw [GoType.encode]
    exact .record_cons (.str _) (.record_cons (.str _) .record_nil)
  | .array len elem => by
    rw [GoType.encode]
    exact .record_cons (.str _) (.record_cons (.nat _)
      (.record_cons elem.holdable_encode .record_nil))
  | .slice elem => by
    rw [GoType.encode]
    exact .record_cons (.str _) (.record_cons elem.holdable_encode .record_nil)
  | .map key elem => by
    rw [GoType.encode]
    exact .record_cons (.str _) (.record_cons key.holdable_encode
      (.record_cons elem.holdable_encode .record_nil))
  | .chan dir elem => by
    rw [GoType.encode]
    exact .record_cons (.str _) (.record_cons dir.holdable_encode
      (.record_cons elem.holdable_encode .record_nil))
  | .pointer elem => by
    rw [GoType.encode]
    exact .record_cons (.str _) (.record_cons elem.holdable_encode .record_nil)
  | .interface embeddeds methods => by
    rw [GoType.encode]
    exact .record_cons (.str _) (.record_cons (holdable_encodeTypes embeddeds)
      (.record_cons (holdable_encodeMethods methods) .record_nil))
  | .func ⟨params, results, variadic⟩ => by
    rw [GoType.encode]
    exact .record_cons (.str _) (.record_cons (holdable_encodeVars params)
      (.record_cons (holdable_encodeVars results) (.record_cons (.bool _) .record_nil)))
  | .named name args | .alias name args => by
    rw [GoType.encode]
    exact .record_cons (.str _) (.record_cons name.holdable_encodePkg
      (.record_cons (.str _) (.record_cons (holdable_encodeTypes args) .record_nil)))
  | .typeParam name => by
    rw [GoType.encode]
    exact .record_cons (.str _) (.record_cons (.str _) .record_nil)
  | .union terms => by
    rw [GoType.encode]
    exact .record_cons (.str _) (.record_cons (holdable_encodeTerms terms) .record_nil)
  | .struct members => by
    rw [GoType.encode]
    exact .record_cons (.str _) (.record_cons (holdable_encodeFields members) .record_nil)
  | .unknown => by
    rw [GoType.encode]
    exact .record_cons (.str _) .record_nil

theorem Signature.holdable_encode : (signature : Signature) → signature.encode.Holdable
  | ⟨params, results, variadic⟩ => by
    rw [Signature.encode]
    exact .record_cons (holdable_encodeVars params)
      (.record_cons (holdable_encodeVars results) (.record_cons (.bool _) .record_nil))

theorem holdable_encodeTypes : (types : List GoType) → (Data.list (encodeTypes types)).Holdable
  | [] => .list_nil
  | type :: types => .list_cons type.holdable_encode (holdable_encodeTypes types)

theorem holdable_encodeVars : (vars : List Var) → (Data.list (encodeVars vars)).Holdable
  | [] => .list_nil
  | ⟨_, type⟩ :: vars =>
    .list_cons (.record_cons (.str _) (.record_cons type.holdable_encode .record_nil))
      (holdable_encodeVars vars)

theorem holdable_encodeMethods : (methods : List Method) →
    (Data.list (encodeMethods methods)).Holdable
  | [] => .list_nil
  | ⟨_, signature⟩ :: methods =>
    .list_cons (.record_cons (.str _) (.record_cons signature.holdable_encode .record_nil))
      (holdable_encodeMethods methods)

theorem holdable_encodeTerms : (terms : List Term) → (Data.list (encodeTerms terms)).Holdable
  | [] => .list_nil
  | ⟨_, type⟩ :: terms =>
    .list_cons (.record_cons (.bool _) (.record_cons type.holdable_encode .record_nil))
      (holdable_encodeTerms terms)

theorem holdable_encodeFields : (members : List Field) →
    (Data.list (encodeFields members)).Holdable
  | [] => .list_nil
  | ⟨_, type, _⟩ :: members =>
    .list_cons (.record_cons (.str _) (.record_cons type.holdable_encode
      (.record_cons (.bool _) .record_nil))) (holdable_encodeFields members)
end

theorem TypeParam.holdable_encode (param : TypeParam) : param.encode.Holdable :=
  .record_cons (.str _) (.record_cons param.constraint.holdable_encode .record_nil)

theorem Method.holdable_encode (method : Method) : method.encode.Holdable :=
  .record_cons (.str _) (.record_cons method.signature.holdable_encode .record_nil)

theorem TypeDecl.holdable_encode (decl : TypeDecl) : decl.encode.Holdable :=
  .record_cons (.str _)
    (.record_cons (.list (List.forall_mem_map.2 fun param _ => param.holdable_encode))
      (.record_cons decl.underlying.holdable_encode
        (.record_cons (.list (List.forall_mem_map.2 fun method _ => method.holdable_encode))
          .record_nil)))

theorem Package.holdable_encode (package : Package) : package.encode.Holdable :=
  .record_cons (.str _) (.record_cons (.str _)
    (.record_cons (.list (List.forall_mem_map.2 fun decl _ => decl.holdable_encode))
      (.record_cons (.list (List.forall_mem_map.2 fun _ _ => .str _)) .record_nil)))

end IfaceGen
