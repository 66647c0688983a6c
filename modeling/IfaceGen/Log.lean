/-!
# Log records

Computations that log return their records beside their value. `Logged` is the writer monad of
this; its value never depends on the records (`Logged.value_bind`).
-/

namespace IfaceGen

/-- The severity of a log record. -/
inductive LogLevel where
  | error
  | warn
  | info
  | debug
  | trace
deriving DecidableEq, Repr

/-- The severity as it is shown. -/
def LogLevel.name : LogLevel → String
  | .error => "ERROR"
  | .warn => "WARN"
  | .info => "INFO"
  | .debug => "DEBUG"
  | .trace => "TRACE"

/-- The rank of a severity: the lower, the more severe. `error` has the lowest. -/
def LogLevel.rank : LogLevel → Nat
  | .error => 1
  | .warn => 2
  | .info => 3
  | .debug => 4
  | .trace => 5

/-- The part of the program that a record comes from. -/
inductive Component where
  | methodSets
  | models
  | reporter
  | writer
  | initCommand
  | generateCommand
deriving DecidableEq, Repr

/-- The name by which a log filter knows a component. -/
def Component.name : Component → String
  | .methodSets => "moldable_lang_backend::collect"
  | .models => "moldable_lang_driver::loader"
  | .reporter => "moldable_lang_driver::reporter"
  | .writer => "moldable_lang_driver::writer"
  | .initCommand => "moldable::cli::init"
  | .generateCommand => "moldable::cli::generate"

/-- A record of the log. -/
structure LogRecord where
  component : Component
  level : LogLevel
  text : String
deriving DecidableEq, Repr

/-- A value together with what was logged on the way to it. It is a monad, in which logs are
    appended. -/
structure Logged (α : Type) where
  value : α
  log : List LogRecord

namespace Logged

instance : Monad Logged where
  pure a := ⟨a, []⟩
  bind x f := ⟨(f x.value).value, x.log ++ (f x.value).log⟩

/-- Logs one record. -/
def tell (component : Component) (level : LogLevel) (text : String) : Logged Unit :=
  ⟨(), [⟨component, level, text⟩]⟩

@[simp] theorem value_pure {α : Type} (a : α) : (pure a : Logged α).value = a := rfl

@[simp] theorem value_bind {α β : Type} (x : Logged α) (f : α → Logged β) :
    (x >>= f).value = (f x.value).value := rfl

@[simp] theorem value_map {α β : Type} (x : Logged α) (f : α → β) :
    (f <$> x).value = f x.value := rfl

end Logged

end IfaceGen
