/-!
Terminal colours. A coloured text stands between the sequence that turns the colour on and the one that
resets it; a reset inside the text turns the colour on again.
-/

set_option autoImplicit false

namespace InjectionLint

inductive Color where
  | yellow
  | red
  | cyan
  deriving DecidableEq, Repr

namespace Color

def opening : Color → List Char
  | .yellow => ['\x1b', '[', '3', '3', 'm']
  | .red => ['\x1b', '[', '3', '1', 'm']
  | .cyan => ['\x1b', '[', '3', '6', 'm']

def reset : List Char :=
  ['\x1b', '[', '0', 'm']

/-- Turn a colour on again after each reset. -/
def reopen (opening : List Char) : List Char → List Char
  | '\x1b' :: '[' :: '0' :: 'm' :: rest => reset ++ opening ++ reopen opening rest
  | c :: rest => c :: reopen opening rest
  | [] => []

def paint (colors : Bool) (color : Color) (text : String) : String :=
  if colors then
    String.ofList (color.opening ++ reopen color.opening text.toList ++ reset)
  else text

end Color

end InjectionLint
