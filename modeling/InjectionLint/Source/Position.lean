/-!
Places in a source text. Lines are counted from one and columns from zero; columns are bytes. Only a
line feed ends a line.
-/

set_option autoImplicit false

namespace InjectionLint

structure Position where
  line : Nat
  column : Nat
  deriving DecidableEq, Repr

structure Range where
  start : Position
  stop : Position
  deriving DecidableEq, Repr

namespace Position

/-- The place `offset` bytes after `place`, where `text` begins. -/
def advance (place : Position) : Nat → List Char → Position
  | 0, _ => place
  | offset + 1, [] => ⟨place.line, place.column + (offset + 1)⟩
  | offset + 1, c :: rest =>
    if offset + 1 < c.utf8Size then ⟨place.line, place.column + (offset + 1)⟩
    else if c = '\n' then advance ⟨place.line + 1, 0⟩ (offset + 1 - c.utf8Size) rest
    else advance ⟨place.line, place.column + c.utf8Size⟩ (offset + 1 - c.utf8Size) rest

def ofOffset (source : String) (offset : Nat) : Position :=
  advance ⟨1, 0⟩ offset source.toList

def render (place : Position) : String :=
  s!"{place.line}:{place.column}"

end Position

namespace Range

def ofOffsets (source : String) (start stop : Nat) : Range :=
  ⟨.ofOffset source start, .ofOffset source stop⟩

def render (range : Range) : String :=
  s!"{range.start.render}-{range.stop.render}"

end Range

end InjectionLint
