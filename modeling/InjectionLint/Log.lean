/-!
Log records. Operations return the records they would write, in order, beside their results; what is
shown of them is decided where the program runs.
-/

set_option autoImplicit false

namespace InjectionLint

namespace Log

inductive Level where
  | error
  | warn
  | info
  | debug
  | trace
  deriving DecidableEq, Repr

namespace Level

def name : Level → String
  | .error => "ERROR"
  | .warn => "WARN"
  | .info => "INFO"
  | .debug => "DEBUG"
  | .trace => "TRACE"

def rank : Level → Nat
  | .error => 1
  | .warn => 2
  | .info => 3
  | .debug => 4
  | .trace => 5

end Level

inductive Component where
  | configuration
  | walk
  | parse
  | detection
  | file
  | project
  deriving DecidableEq, Repr

def Component.target : Component → String
  | .configuration => "sqlinspect::config::loader"
  | .walk => "sqlinspect::io::walker"
  | .parse => "sqlinspect::analyzers::javascript::parser"
  | .detection => "sqlinspect::security::sql_injection"
  | .file => "sqlinspect::scanner"
  | .project => "sqlinspect::commands::scan"

structure Record where
  level : Level
  component : Component
  text : String
  deriving DecidableEq, Repr

end Log

/-- A result and the log records written on the way to it. -/
structure Logged (α : Type) where
  log : List Log.Record
  value : α
  deriving DecidableEq, Repr

namespace Logged

variable {α β ε : Type}

def silent (value : α) : Logged α :=
  ⟨[], value⟩

def after (record : Log.Record) (result : Logged α) : Logged α :=
  ⟨record :: result.log, result.value⟩

def andThen (result : Logged α) (next : α → Logged β) : Logged β :=
  ⟨result.log ++ (next result.value).log, (next result.value).value⟩

def andThenOk (result : Logged (Except ε α)) (next : α → Logged (Except ε β)) :
    Logged (Except ε β) :=
  result.andThen fun
    | .ok value => next value
    | .error cause => silent (.error cause)

end Logged

end InjectionLint
