import IfaceGen.Log
import IfaceGen.Pattern.Parser
import IfaceGen.Text.Split

/-!
# Log filters

A log filter says how severe the records of a component have to be. It is written as a list of
directives between commas, such as `warn,moldable::cli=info`, and may end in a slash and a pattern
that is looked for in the text of a record.

`LogFilter.parse` never fails: it leaves out what it does not understand.
-/

namespace IfaceGen

/-- The least severe records that are shown; none are, if it is missing. -/
abbrev Threshold := Option LogLevel

/-- Whether a record of the given severity is shown. -/
def Threshold.admits (threshold : Threshold) (level : LogLevel) : Bool :=
  threshold.any fun least => level.rank ≤ least.rank

/-- The threshold with the given name, in whatever case it is written. -/
def Threshold.ofName? (name : String) : Option Threshold :=
  match name.toUpper with
  | "OFF" => some none
  | "ERROR" => some (some .error)
  | "WARN" => some (some .warn)
  | "INFO" => some (some .info)
  | "DEBUG" => some (some .debug)
  | "TRACE" => some (some .trace)
  | _ => none

/-- The threshold of some components. -/
structure Directive where
  /-- How the names of the components start; without it the directive speaks of all of them. -/
  target : Option String
  threshold : Threshold
deriving DecidableEq, Repr

namespace Directive

/-- Whether a directive speaks of a component. -/
def covers (directive : Directive) (component : Component) : Bool :=
  directive.target.all fun target => target.toList.isPrefixOf component.name.toList

/-- How much of a name a directive gives. -/
def precision (directive : Directive) : Nat :=
  directive.target.elim 0 String.utf8ByteSize

/-- Blanks are left out on both sides. -/
def trim (s : List Char) : List Char :=
  ((s.dropWhile Text.isBlank).reverse.dropWhile Text.isBlank).reverse

/-- The directive that a text spells: a threshold for all components, or a target, which shows
    everything unless an equals sign and a threshold follow it. -/
def parse? (text : List Char) : Option Directive :=
  match Text.split '=' (trim text) with
  | [only] =>
    let name := String.ofList only
    if only.isEmpty then none
    else match Threshold.ofName? name with
      | some threshold => some ⟨none, threshold⟩
      | none => some ⟨some name, some .trace⟩
  | [target, name] =>
    let target := String.ofList target
    let name := String.ofList (trim name)
    if name.isEmpty then some ⟨some target, some .trace⟩
    else (Threshold.ofName? name).map (⟨some target, ·⟩)
  | _ => none

end Directive

/-- Decides which records are shown. -/
structure LogFilter where
  /-- In the order in which they were given, with one directive for each target. -/
  directives : List Directive := []
  /-- What has to be found in a record. -/
  pattern : Option Pattern := none

namespace LogFilter

/-- Puts a directive in the place of the one with the same target, or behind all others. -/
def setDirective (new : Directive) : List Directive → List Directive
  | [] => [new]
  | old :: rest => if old.target = new.target then new :: rest else old :: setDirective new rest

/-- Adds a directive. -/
def insert (filter : LogFilter) (directive : Directive) : LogFilter :=
  { filter with directives := setDirective directive filter.directives }

/-- The filter that a text spells. -/
def parse (text : String) : LogFilter :=
  let withDirectives (texts : List Char) : LogFilter :=
    ((Text.split ',' texts).filterMap Directive.parse?).foldl insert {}
  match Text.split '/' text.toList with
  | [directives] => withDirectives directives
  | [directives, pattern] =>
    { withDirectives directives with pattern := Pattern.parse? (String.ofList pattern) }
  | _ => {}

/-- The most precise directive for a component, and the last one of those. -/
def directive? (filter : LogFilter) (component : Component) : Option Directive :=
  (filter.directives.filter (·.covers component)).foldl (fun best directive =>
    match best with
    | some found => if directive.precision < found.precision then some found else some directive
    | none => some directive) none

/-- Whether a record is shown. -/
def admits (filter : LogFilter) (record : LogRecord) : Bool :=
  (filter.directive? record.component).any (·.threshold.admits record.level) &&
    filter.pattern.all (·.finds record.text)

end LogFilter

end IfaceGen
