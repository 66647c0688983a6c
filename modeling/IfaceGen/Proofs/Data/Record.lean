import IfaceGen.Data.Record
import Mathlib.Data.List.Forall2

/-!
# Reading a record field by field

A reader of records looks up the places of all fields, and then reads one after the other. Whether
it succeeds, and with what, depends on the values of each field alone: there must be one value that
can be read, or none and a default.

## Key results

- `Data.holds_field?` / `Data.holds_required?`: a place is read as its field says
- `Data.mapItems?_val`: a list is read item by item
- `Data.Holdable.readable`: what can be held is readable within its depth
-/

namespace IfaceGen.Data

/-! ## Fields -/

/-- The values of the fields called `name`. -/
def values (fields : List (String × Data)) (name : String) : List Data :=
  fields.filterMap fun (key, value) => if key = name then some value else none

/-- What a field is read as. It may be missing if there is a default, and it may not stand there
    twice. -/
inductive Holds {α : Type} (fields : List (String × Data)) (name : String) (default : Option α)
    (read : Data → Option α) (a : α) : Prop
  | missing (none_eq : values fields name = []) (default_eq : default = some a)
  | present {value : Data} (one_eq : values fields name = [value]) (read_eq : read value = some a)

theorem values_append (fields more : List (String × Data)) (name : String) :
    values (fields ++ more) name = values fields name ++ values more name :=
  List.filterMap_append

theorem values_cons_self (name : String) (value : Data) (fields : List (String × Data)) :
    values ((name, value) :: fields) name = value :: values fields name :=
  List.filterMap_cons_some (if_pos rfl)

theorem values_cons_ne {key name : String} (h : key ≠ name) (value : Data)
    (fields : List (String × Data)) : values ((key, value) :: fields) name = values fields name :=
  List.filterMap_cons_none (if_neg h)

/-- The first of the `values` of a field is the one that a lookup finds. -/
theorem head?_values (fields : List (String × Data)) (name : String) :
    (values fields name).head? = fields.lookup name := by
  induction fields with
  | nil => rfl
  | cons field fields ih =>
    obtain ⟨key, value⟩ := field
    rw [List.lookup_cons]
    by_cases hkey : key = name
    · rw [hkey, values_cons_self, beq_self_eq_true]
      rfl
    · rw [values_cons_ne hkey, ih, beq_eq_false_iff_ne.2 (Ne.symm hkey)]

theorem map_val_valuesOf (fields : List (String × Data)) (name : String) :
    (valuesOf name fields).map (·.val) = values fields name := by
  rw [valuesOf, List.map_filterMap, values]
  conv => rhs; rw [← List.attach_map_subtype_val fields, List.filterMap_map]
  refine List.filterMap_congr fun ⟨⟨key, value⟩, h⟩ _ => ?_
  by_cases hkey : key = name
  · simp [hkey]
  · simp [hkey]

/-- A field without a value has an empty `slot`. -/
theorem slot_eq_none_iff {fields : List (String × Data)} {name : String} :
    slot fields name = some none ↔ values fields name = [] := by
  rw [slot, ← map_val_valuesOf, List.map_eq_nil_iff]
  match valuesOf name fields with
  | [] => simp
  | [_] => simp
  | _ :: _ :: _ => simp

/-- A field with one value has it at its `slot`. -/
theorem exists_slot_iff {fields : List (String × Data)} {name : String}
    {P : Part (.record fields) → Prop} :
    (∃ part, slot fields name = some (some part) ∧ P part) ↔
      ∃ part, valuesOf name fields = [part] ∧ P part := by
  rw [slot]
  match valuesOf name fields with
  | [] => simp
  | [_] => simp
  | _ :: _ :: _ => simp

/-- What stands at a `slot` is the value of a field. -/
theorem mem_of_slot {fields : List (String × Data)} {name : String} {part : Part (.record fields)}
    (h : slot fields name = some (some part)) : (name, part.val) ∈ fields := by
  obtain ⟨found, hfound, rfl⟩ := (exists_slot_iff (P := (· = part))).1 ⟨part, h, rfl⟩
  have hmem : found ∈ valuesOf name fields := hfound ▸ List.mem_singleton_self found
  obtain ⟨⟨⟨key, value⟩, hfield⟩, -, hvalue⟩ := List.mem_filterMap.1 hmem
  by_cases hkey : key = name
  · simp only [if_pos hkey, Option.some.injEq] at hvalue
    rw [← hvalue, ← hkey]
    exact hfield
  · simp only [if_neg hkey, reduceCtorEq] at hvalue

section Places

variable {α : Type} {fields : List (String × Data)} {name : String} {read : Data → Option α} {a : α}

/-- A field `Holds` what is read from its `slot`, or the default if the slot is empty. -/
theorem holds_iff {default : Option α} :
    Holds fields name default read a ↔
      ∃ place, slot fields name = some place ∧ place.elim default (read ·.val) = some a := by
  -- A field that stands there once has one place, with the value in it.
  have hpresent : (∃ part, slot fields name = some (some part) ∧ read part.val = some a) ↔
      ∃ value, values fields name = [value] ∧ read value = some a := by
    rw [exists_slot_iff, ← map_val_valuesOf]
    constructor
    · rintro ⟨part, hpart, hread⟩
      exact ⟨part.val, by rw [hpart, List.map_singleton], hread⟩
    · rintro ⟨value, hvalue, hread⟩
      obtain ⟨part, hpart, rfl⟩ := List.map_eq_singleton_iff.1 hvalue
      exact ⟨part, hpart, hread⟩
  constructor
  · rintro (⟨hnone, hdefault⟩ | ⟨hone, hread⟩)
    · exact ⟨none, slot_eq_none_iff.2 hnone, hdefault⟩
    · obtain ⟨part, hpart, hread⟩ := hpresent.2 ⟨_, hone, hread⟩
      exact ⟨some part, hpart, hread⟩
  · rintro ⟨place, hplace, hread⟩
    cases place with
    | none => exact .missing (slot_eq_none_iff.1 hplace) hread
    | some part =>
      obtain ⟨value, hone, hread⟩ := hpresent.1 ⟨part, hplace, hread⟩
      exact .present hone hread

/-- A field with a default is read by `field?`. -/
theorem holds_field? {default : α} :
    Holds fields name (some default) read a ↔
      ∃ place, slot fields name = some place ∧ field? default (read ·.val) place = some a := by
  rw [holds_iff]
  refine exists_congr fun place => and_congr_right fun _ => ?_
  cases place with
  | none => rfl
  | some part => rfl

/-- A field without a default is read by `required?`. -/
theorem holds_required? :
    Holds fields name none read a ↔
      ∃ place, slot fields name = some place ∧ required? (read ·.val) place = some a := by
  rw [holds_iff]
  refine exists_congr fun place => and_congr_right fun _ => ?_
  cases place with
  | none => rfl
  | some part => rfl

end Places

/-! ## Lists -/

/-- Holds a list, each item of which is read by `read`. -/
def readItems {α : Type} (read : Data → Option α) : Data → Option (List α)
  | .list items => items.mapM read
  | _ => none

theorem mapM_parts {α : Type} (read : Data → Option α) (items : List Data) :
    (parts items).mapM (read ·.val) = items.mapM read := by
  rw [parts, List.mapM_map]
  conv => rhs; rw [← List.attach_map_subtype_val items, List.mapM_map]
  rfl

theorem mapItems?_val {α : Type} (read : Data → Option α) (whole : Data) :
    whole.mapItems? (read ·.val) = readItems read whole := by
  match whole with
  | .list items => exact mapM_parts read items
  | .null | .bool _ | .nat _ | .number | .str _ | .record _ | .unreadable => rfl

theorem readItems_cons_iff {α : Type} {read : Data → Option α} {item : Data} {items : List Data}
    {as : List α} :
    readItems read (.list (item :: items)) = some as ↔
      ∃ first rest, read item = some first ∧ readItems read (.list items) = some rest ∧
        first :: rest = as := by
  simp only [readItems, List.mapM_cons, Option.bind_eq_bind, Option.bind_eq_some_iff,
    Option.pure_def, Option.some.injEq, exists_and_left]

theorem readItems_cons {α : Type} {read : Data → Option α} {item : Data} {items : List Data} {a : α}
    {as : List α} (hitem : read item = some a) (hitems : readItems read (.list items) = some as) :
    readItems read (.list (item :: items)) = some (a :: as) :=
  readItems_cons_iff.2 ⟨a, as, hitem, hitems, rfl⟩

/-- An item may be replaced by one that is read as the same, and `readItems` does not notice. -/
theorem readItems_replace {α : Type} {read : Data → Option α} {item item' : Data}
    (h : ∀ a, read item = some a → read item' = some a) {before after : List Data} {as : List α}
    (hread : readItems read (.list (before ++ item :: after)) = some as) :
    readItems read (.list (before ++ item' :: after)) = some as := by
  induction before generalizing as with
  | nil =>
    obtain ⟨first, rest, hfirst, hrest, rfl⟩ := readItems_cons_iff.1 hread
    exact readItems_cons (h first hfirst) hrest
  | cons other before ih =>
    obtain ⟨first, rest, hfirst, hrest, rfl⟩ := readItems_cons_iff.1 hread
    exact readItems_cons hfirst (ih hrest)

/-- A list of written values is read again by `readItems` if each of them is. -/
theorem readItems_map {α : Type} {read : Data → Option α} {write : α → Data} {as : List α}
    (h : ∀ a ∈ as, read (write a) = some a) : readItems read (.list (as.map write)) = some as := by
  induction as with
  | nil => rfl
  | cons a as ih =>
    rw [List.forall_mem_cons] at h
    exact readItems_cons h.1 (ih h.2)

/-! ## Values that can be held -/

/-- A value without unreadable parts. -/
inductive Holdable : Data → Prop
  | null : Holdable .null
  | bool (value : Bool) : Holdable (.bool value)
  | nat (value : Nat) : Holdable (.nat value)
  | number : Holdable .number
  | str (value : String) : Holdable (.str value)
  | list {items : List Data} (items_holdable : ∀ item ∈ items, Holdable item) :
      Holdable (.list items)
  | record {fields : List (String × Data)} (values_holdable : ∀ field ∈ fields, Holdable field.2) :
      Holdable (.record fields)

namespace Holdable

theorem list_nil : (Data.list []).Holdable :=
  .list (List.forall_mem_nil _)

theorem list_cons {item : Data} {items : List Data} (hitem : item.Holdable)
    (hitems : (Data.list items).Holdable) : (Data.list (item :: items)).Holdable := by
  cases hitems with
  | list items_holdable => exact .list (List.forall_mem_cons.2 ⟨hitem, items_holdable⟩)

theorem record_nil : (Data.record []).Holdable :=
  .record (List.forall_mem_nil _)

theorem record_cons {name : String} {value : Data} {fields : List (String × Data)}
    (hvalue : value.Holdable) (hfields : (Data.record fields).Holdable) :
    (Data.record ((name, value) :: fields)).Holdable := by
  cases hfields with
  | record values_holdable => exact .record (List.forall_mem_cons.2 ⟨hvalue, values_holdable⟩)

end Holdable

theorem itemsReadable_iff {limit : Nat} {items : List Data} :
    itemsReadable limit items = true ↔ ∀ item ∈ items, item.readable limit = true := by
  induction items with
  | nil => simp [itemsReadable]
  | cons item items ih => simp [itemsReadable, ih]

theorem fieldsReadable_iff {limit : Nat} {fields : List (String × Data)} :
    fieldsReadable limit fields = true ↔ ∀ field ∈ fields, field.2.readable limit = true := by
  induction fields with
  | nil => simp [fieldsReadable]
  | cons field fields ih => simp [fieldsReadable, ih]

theorem depth_le_itemsDepth {items : List Data} {item : Data} (h : item ∈ items) :
    item.depth ≤ itemsDepth items := by
  induction items with
  | nil => exact nomatch h
  | cons first items ih =>
    rw [itemsDepth]
    rcases List.mem_cons.1 h with rfl | h
    · exact Nat.le_max_left _ _
    · exact Nat.le_trans (ih h) (Nat.le_max_right _ _)

theorem depth_le_fieldsDepth {fields : List (String × Data)} {field : String × Data}
    (h : field ∈ fields) : field.2.depth ≤ fieldsDepth fields := by
  induction fields with
  | nil => exact nomatch h
  | cons first fields ih =>
    rw [fieldsDepth]
    rcases List.mem_cons.1 h with rfl | h
    · exact Nat.le_max_left _ _
    · exact Nat.le_trans (ih h) (Nat.le_max_right _ _)

/-- A value that can be held is `Data.readable` if it is not too deep. -/
theorem Holdable.readable {whole : Data} (h : whole.Holdable) {limit : Nat}
    (hdepth : whole.depth ≤ limit) : whole.readable limit = true := by
  induction h generalizing limit with
  | null | bool _ | nat _ | number | str _ => rfl
  | @list items _ ih =>
    rw [depth] at hdepth
    rw [Data.readable, Bool.and_eq_true, bne_iff_ne, itemsReadable_iff]
    -- An item stands one level deeper, where the limit is one less.
    refine ⟨by omega, fun item hitem => ih item hitem ?_⟩
    have hitemDepth := depth_le_itemsDepth hitem
    omega
  | @record fields _ ih =>
    rw [depth] at hdepth
    rw [Data.readable, Bool.and_eq_true, bne_iff_ne, fieldsReadable_iff]
    refine ⟨by omega, fun field hfield => ih field hfield ?_⟩
    have hfieldDepth := depth_le_fieldsDepth hfield
    omega

end IfaceGen.Data
