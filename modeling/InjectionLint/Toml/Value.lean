/-!
Values of TOML documents. Numbers and dates are kept as they are written: nothing in a configuration is
one, and a document only has to spell them right.
-/

set_option autoImplicit false

namespace InjectionLint

namespace Toml

inductive Value where
  | string (text : String)
  | boolean (value : Bool)
  | number (text : String)
  | moment (text : String)
  | array (items : List Value)
  | table (entries : List (String × Value))
  deriving Repr

/-- A reader takes a construct from the front of a text and leaves the rest, or refuses the text. -/
abbrev Reader (α : Type) :=
  List Char → Option (α × List Char)

end Toml

end InjectionLint
