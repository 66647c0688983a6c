import IfaceGen.Diagnostic

/-!
# Types that cannot be spelled

The reasons for which a type has no type expression, with the way from the outermost type to the
part that is to blame.
-/

namespace IfaceGen

/-- A place inside a type, where `SpellError.inside` says a failure is. -/
inductive Position where
  | arrayElem
  | sliceElem
  | mapKey
  | mapValue
  | chanElem
  | pointerElem
  | param (index : Nat)
  | result (index : Nat)
  | typeArg (index : Nat)
  | unionTerm (index : Nat)
  | typeParam (index : Nat)
deriving DecidableEq, Repr

/-- The name of a place in messages. -/
def Position.text : Position → String
  | .arrayElem => "array element"
  | .sliceElem => "slice element"
  | .mapKey => "map key"
  | .mapValue => "map value"
  | .chanElem => "channel element"
  | .pointerElem => "pointer element"
  | .param index => s!"signature param {index}"
  | .result index => s!"signature result {index}"
  | .typeArg index => s!"type argument {index}"
  | .unionTerm index => s!"union term {index}"
  | .typeParam index => s!"type parameter {index}"

/-- Why a type has no type expression. -/
inductive SpellError where
  /-- A kind of type that no expression denotes. -/
  | unsupported (kind : String)
  /-- A variadic signature whose last parameter is not a list. -/
  | invalidVariadic (found : String)
  | emptyUnion
  /-- The failure of a part of the type. -/
  | inside (position : Position) (cause : SpellError)
deriving DecidableEq, Repr

/-- The failure of the part that is to blame, without the positions around it. -/
def SpellError.root : SpellError → SpellError
  | .inside _ cause => cause.root
  | error => error

/-- The message of a failure; that of an `inside` names the outermost position. -/
def SpellError.message : SpellError → String
  | .unsupported kind => "unsupported type: " ++ kind
  | .invalidVariadic found => "variadic parameter must be a slice, found " ++ found
  | .emptyUnion => "union constraint without terms"
  | .inside position _ => "converting " ++ position.text

/-- The messages of the causes behind a failure: those of the positions further in and that of its
    `SpellError.root`. -/
def SpellError.sources : SpellError → List Cause
  | .inside _ cause => .message cause.message :: cause.sources
  | _ => []

/-- The code of a failure. -/
def SpellError.code : SpellError → String
  | .unsupported _ => "T-001"
  | .invalidVariadic _ => "T-002"
  | .emptyUnion => "T-003"
  | .inside .. => "T-004"

/-- The hint that goes with a failure. -/
def SpellError.help : SpellError → Option String
  | .unsupported _ => some "Only types that can be written as a type expression are supported"
  | _ => none

/-- What a failure says. -/
def SpellError.diagnostic (error : SpellError) : Diagnostic where
  message := error.message
  code := error.code
  help := error.help
  sources := error.sources

end IfaceGen
