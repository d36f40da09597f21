import InjectionLint.Text.Bytes

/-!
Blank characters, those with the property White_Space, and the trimming of text at its ends.
-/

set_option autoImplicit false

namespace InjectionLint.Text

/-- Code points of the blank characters, as inclusive ranges. -/
def blanks : List (Nat × Nat) :=
  [(0x9, 0xD), (0x20, 0x20), (0x85, 0x85), (0xA0, 0xA0), (0x1680, 0x1680), (0x2000, 0x200A),
   (0x2028, 0x2029), (0x202F, 0x202F), (0x205F, 0x205F), (0x3000, 0x3000)]

def within (ranges : List (Nat × Nat)) (point : Nat) : Bool :=
  ranges.any fun (first, last) => first ≤ point && point ≤ last

def isBlank (c : Char) : Bool :=
  within blanks c.toNat

def trimStart (text : List Char) : List Char :=
  text.dropWhile isBlank

def trimEnd : List Char → List Char
  | [] => []
  | c :: rest =>
    match trimEnd rest with
    | [] => if isBlank c then [] else [c]
    | kept => c :: kept

def trim (text : List Char) : List Char :=
  trimEnd (trimStart text)

def asciiLower (text : List Char) : List Char :=
  text.map Char.toLower

end InjectionLint.Text
