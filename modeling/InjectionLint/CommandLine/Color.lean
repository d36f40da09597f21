/-!
Whether the report is coloured: an explicit choice wins, then the environment, then the terminal.
-/

set_option autoImplicit false

namespace InjectionLint

structure Environment where
  lookup : String → Option String
  isTerminal : Bool

inductive ColorMode where
  | auto
  | always
  | never
  deriving DecidableEq, Repr

namespace ColorMode

def ofName? : String → Option ColorMode
  | "auto" => some .auto
  | "always" => some .always
  | "never" => some .never
  | _ => none

/-- The mode that the environment asks for. A variable that forces colours outweighs those that
forbid them. -/
def ofEnvironment? (environment : Environment) : Option ColorMode :=
  if environment.lookup "CLICOLOR_FORCE" = some "1" then some .always
  else if environment.lookup "CLICOLOR" = some "0" then some .never
  else if (environment.lookup "NO_COLOR").isSome then some .never
  else none

def resolve (environment : Environment) : ColorMode → ColorMode
  | .auto => (ofEnvironment? environment).getD .auto
  | mode => mode

def wantsColor (environment : Environment) : ColorMode → Bool
  | .always => true
  | .never => false
  | .auto => environment.lookup "TERM" ≠ some "dumb" && environment.isTerminal

end ColorMode

end InjectionLint
