import IfaceGen.Builder
import IfaceGen.Log

/-!
# Events of a run

What a run reports while it goes on, and the log record of each report.
-/

namespace IfaceGen

/-- A report on the progress of a run, shown as its `Event.record`. -/
inductive Event where
  | started (path : String)
  | skipped (struct : String) (reason : SkipReason)
  | generated (interface struct : String) (methodCount : Nat)
  | completed (path : String) (interfaceCount : Nat)
deriving DecidableEq, Repr

/-- The event that tells what became of a struct (`Added`). -/
def Added.event (struct : String) : Added → Event
  | .skipped reason => .skipped struct reason
  | .interface name methodCount => .generated name struct methodCount

/-- The log record of an event: a line of text with its fields as `name=value`. -/
def Event.record (event : Event) : LogRecord where
  component := .reporter
  level := .info
  text := match event with
    | .started path => "processing package path=" ++ path
    | .skipped struct reason =>
      "skipped struct name=" ++ struct ++ " reason=\"" ++ reason.text ++ "\""
    | .generated interface struct methodCount =>
      "generated interface name=" ++ interface ++ " from_struct=" ++ struct
        ++ " method_count=" ++ Nat.repr methodCount
    | .completed path interfaceCount =>
      "completed package path=" ++ path ++ " interface_count=" ++ Nat.repr interfaceCount

/-- Something a run does that can be seen from outside. A run lists what it does in its trace. -/
inductive Action where
  | report (event : Event)
  | log (record : LogRecord)
  /-- A file is handed to the writer. -/
  | write (path : String) (file : File)
  | print (text : String)

namespace Action

/-- The events among some actions, in order. -/
def events (trace : List Action) : List Event :=
  trace.filterMap fun
    | .report event => some event
    | _ => none

/-- What is logged by some actions: reports (`Event.record`) and other records, as they
    alternate. -/
def logRecords (trace : List Action) : List LogRecord :=
  trace.filterMap fun
    | .report event => some event.record
    | .log record => some record
    | _ => none

/-- The files that are handed to the writer, with their destinations, whether it accepts them or
    not. -/
def writes (trace : List Action) : List (String × File) :=
  trace.filterMap fun
    | .write path file => some (path, file)
    | _ => none

/-- What is printed by some actions, as one text. -/
def printed (trace : List Action) : String :=
  String.join (trace.filterMap fun
    | .print text => some text
    | _ => none)

end Action

end IfaceGen
