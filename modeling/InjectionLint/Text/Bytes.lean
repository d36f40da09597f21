/-!
Text measured in UTF-8 bytes. Offsets that a parser reports count bytes; these functions cut a list of
characters at such an offset and refuse to cut a character in two.
-/

set_option autoImplicit false

namespace InjectionLint.Text

def byteLength : List Char → Nat
  | [] => 0
  | c :: rest => c.utf8Size + byteLength rest

/-- What follows the first `count` bytes, if the cut falls between two characters. -/
def dropBytes : Nat → List Char → Option (List Char)
  | 0, text => some text
  | _ + 1, [] => none
  | count + 1, c :: rest =>
    if c.utf8Size ≤ count + 1 then dropBytes (count + 1 - c.utf8Size) rest else none

def takeBytes : Nat → List Char → Option (List Char)
  | 0, _ => some []
  | _ + 1, [] => none
  | count + 1, c :: rest =>
    if c.utf8Size ≤ count + 1 then (takeBytes (count + 1 - c.utf8Size) rest).map (c :: ·) else none

/-- The characters from byte `start` up to byte `stop`, if both are boundaries in that order. -/
def slice? (text : List Char) (start stop : Nat) : Option (List Char) :=
  if start ≤ stop then (dropBytes start text).bind (takeBytes (stop - start)) else none

/-- The text from byte `start` up to byte `stop`; empty where there is no such text. -/
def slice (text : String) (start stop : Nat) : String :=
  String.ofList ((slice? text.toList start stop).getD [])

def occurs (word : List Char) : List Char → Bool
  | [] => word.isEmpty
  | c :: rest => word.isPrefixOf (c :: rest) || occurs word rest

/-- The parts of a text between the occurrences of a character; always one more than those. -/
def splitAt (mark : Char) : List Char → List (List Char)
  | [] => [[]]
  | c :: rest =>
    if c = mark then [] :: splitAt mark rest
    else
      match splitAt mark rest with
      | [] => [[c]]
      | first :: others => (c :: first) :: others

end InjectionLint.Text
