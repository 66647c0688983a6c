/-!
# Documents

`Data` is the value that a configuration or model document denotes, whatever its format. Records
keep their fields in document order and keep repeated fields: what a repeated field means is decided
by the reader of the record (`IfaceGen.Data.Record`).

Main definitions:

* `Data.depth`     how deep lists and records nest
* `Data.readable`  whether a value can be held in memory under a nesting limit
-/

namespace IfaceGen

/-- A value of a document. -/
inductive Data where
  | null
  | bool (value : Bool)
  /-- A number written as a plain run of decimal digits. -/
  | nat (value : Nat)
  /-- Any other number. No record has a use for it. -/
  | number
  | str (value : String)
  | list (items : List Data)
  | record (fields : List (String × Data))
  /-- A value that is well formed but cannot be held: a number beyond the range of a double, a text
      with half a surrogate pair, or a record with such a field name. It can only be skipped. -/
  | unreadable

instance : Inhabited Data := ⟨.null⟩

namespace Data

mutual
/-- The number of lists and records that are open at the deepest point of the value, which
    `readable` limits. -/
def depth : Data → Nat
  | .list items => itemsDepth items + 1
  | .record fields => fieldsDepth fields + 1
  | _ => 0

/-- The greatest depth of the items. -/
def itemsDepth : List Data → Nat
  | [] => 0
  | item :: items => max item.depth (itemsDepth items)

/-- The greatest depth of the field values. -/
def fieldsDepth : List (String × Data) → Nat
  | [] => 0
  | (_, value) :: fields => max value.depth (fieldsDepth fields)
end

mutual
/-- Whether the value opens at most `limit` lists and records within one another and nothing in it
    is unreadable. -/
def readable (limit : Nat) : Data → Bool
  | .list items => limit != 0 && itemsReadable (limit - 1) items
  | .record fields => limit != 0 && fieldsReadable (limit - 1) fields
  | .unreadable => false
  | _ => true

/-- Whether all items are `readable`. -/
def itemsReadable (limit : Nat) : List Data → Bool
  | [] => true
  | item :: items => item.readable limit && itemsReadable limit items

/-- Whether all field values are `readable`. -/
def fieldsReadable (limit : Nat) : List (String × Data) → Bool
  | [] => true
  | (_, value) :: fields => value.readable limit && fieldsReadable limit fields
end

/-- An item is smaller than its list. -/
theorem sizeOf_lt_list {item : Data} {items : List Data} (h : item ∈ items) :
    sizeOf item < sizeOf (Data.list items) := by
  have := List.sizeOf_lt_of_mem h
  simp only [list.sizeOf_spec]
  omega

/-- The value of a field is smaller than its record. -/
theorem sizeOf_lt_record {name : String} {value : Data} {fields : List (String × Data)}
    (h : (name, value) ∈ fields) : sizeOf value < sizeOf (Data.record fields) := by
  have := List.sizeOf_lt_of_mem h
  simp only [record.sizeOf_spec, Prod.mk.sizeOf_spec] at this ⊢
  omega

end Data

end IfaceGen
