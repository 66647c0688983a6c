import IfaceGen.Data.Basic

/-!
# Reading records

A record type is described by the names of its fields, in order. A value denotes such a record in
two forms: as a record, whose unknown fields are passed over and whose known fields may stand in any
order but at most once; or as a list of the field values in order, in which trailing fields may be
missing.

`Data.slots` turns both forms into one: a list with one place per field, empty where the field is
missing. Each part comes with the fact that it is smaller than the whole, on which readers of
recursive types rest.
-/

namespace IfaceGen.Data

/-- A value inside `whole`. -/
abbrev Part (whole : Data) := { part : Data // sizeOf part < sizeOf whole }

/-- A value inside a part is inside the whole. -/
def Part.sub {whole : Data} (outer : Part whole) (inner : Part outer.val) : Part whole :=
  ⟨inner.val, Nat.lt_trans inner.property outer.property⟩

/-- The parts of a list. -/
def parts (items : List Data) : List (Part (.list items)) :=
  items.attach.map fun ⟨item, h⟩ => ⟨item, sizeOf_lt_list h⟩

/-- The values of the fields called `name`, in document order. -/
def valuesOf (name : String) (fields : List (String × Data)) : List (Part (.record fields)) :=
  fields.attach.filterMap fun ⟨(key, value), h⟩ =>
    if key = name then some ⟨value, sizeOf_lt_record h⟩ else none

/-- The value of the field called `name`, empty if there is none; fails if the field is repeated. -/
def slot (fields : List (String × Data)) (name : String) :
    Option (Option (Part (.record fields))) :=
  match valuesOf name fields with
  | [] => some none
  | [value] => some (some value)
  | _ :: _ :: _ => none

/-- One place for each of `names`. -/
def slots (names : List String) : (whole : Data) → Option (List (Option (Part whole)))
  | .record fields => names.mapM (slot fields)
  | .list items =>
    if items.length ≤ names.length then
      some ((parts items).map some ++ List.replicate (names.length - items.length) none)
    else none
  | _ => none

/-- The value without the tag that starts its list form. -/
def untagged : Data → Data
  | .list (_ :: items) => .list items
  | whole => whole

/-- A value without its tag is no larger. -/
theorem sizeOf_untagged_le (whole : Data) : sizeOf whole.untagged ≤ sizeOf whole := by
  fun_cases untagged whole with
  | case1 => simp only [list.sizeOf_spec, List.cons.sizeOf_spec]; omega
  | case2 => exact Nat.le_refl _

/-- The tag of a tagged value: the field called `name`, which must stand exactly once, or the first
    item of the list form. -/
def tag? (name : String) : Data → Option Data
  | .record fields => (slot fields name).join.map (·.val)
  | .list (first :: _) => some first
  | _ => none

/-- The text of a value. -/
def str? : Data → Option String
  | .str text => some text
  | _ => none

/-- The truth value of a value. -/
def bool? : Data → Option Bool
  | .bool b => some b
  | _ => none

/-- The number of a value, if it is a plain number below `2 ^ 64`. -/
def word? : Data → Option UInt64
  | .nat n => if n < UInt64.size then some (UInt64.ofNat n) else none
  | _ => none

/-- Reads a list item by item. -/
def mapItems? {α : Type} : (whole : Data) → (Part whole → Option α) → Option (List α)
  | .list items, read => (parts items).mapM read
  | _, _ => none

/-- Reads a part that is a list, item by item. -/
def Part.mapItems? {α : Type} {whole : Data} (part : Part whole) (read : Part whole → Option α) :
    Option (List α) :=
  part.val.mapItems? fun item => read (part.sub item)

/-- Reads a field that may be missing. -/
def field? {α : Type} {whole : Data} (default : α) (read : Part whole → Option α) :
    Option (Part whole) → Option α
  | none => some default
  | some part => read part

/-- Reads a field that must be there. -/
def required? {α : Type} {whole : Data} (read : Part whole → Option α) :
    Option (Part whole) → Option α
  | none => none
  | some part => read part

end IfaceGen.Data
