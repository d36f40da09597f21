import InjectionLint.Source.Variant
import InjectionLint.Text.Bytes

/-!
Paths as text. A slash divides components; empty components and dots after the first component say
nothing. A path is kept as it was given and only read through these functions.

Paths, and the names in them, are Unicode texts. Names whose bytes are no UTF-8 are left out of the
model, so that a name and its readable form are never told apart.
-/

set_option autoImplicit false

namespace InjectionLint

namespace Path

def pieces (path : String) : List String :=
  (Text.splitAt '/' path.toList).map String.ofList

def isAbsolute (path : String) : Bool :=
  path.toList.head? = some '/'

/-- A piece that names no component, unless it comes first. -/
def isIdle (piece : String) : Bool :=
  piece = "" || piece = "."

/-- Pieces without the idle ones at the end; the first piece stays. -/
def dropIdleEnd : List String → List String
  | [] => []
  | piece :: rest => piece :: (rest.reverse.dropWhile isIdle).reverse

def fileName? (path : String) : Option String :=
  match (dropIdleEnd (pieces path)).getLast? with
  | some name => if isIdle name || name = ".." then none else some name
  | none => none

/-- The part of a name after its last dot, unless that dot is its first character. -/
def nameExtension? (name : String) : Option String :=
  let reversed := name.toList.reverse
  match reversed.dropWhile (· ≠ '.') with
  | _ :: _ :: _ => some (String.ofList (reversed.takeWhile (· ≠ '.')).reverse)
  | _ => none

def extension? (path : String) : Option String :=
  (fileName? path).bind nameExtension?

/-- The path without its last component, if there is one to leave out. -/
def parent? (path : String) : Option String :=
  match dropIdleEnd (pieces path) with
  | [] | [""] => none
  | [_] => some ""
  | kept =>
    match dropIdleEnd kept.dropLast with
    | [""] => some "/"
    | left => some ("/".intercalate left)

def join (path name : String) : String :=
  if path = "" || path.toList.getLast? = some '/' then path ++ name else path ++ "/" ++ name

/-- The dialect of a file. One without a telling extension is taken for plain JavaScript. -/
def variant (path : String) : Variant :=
  ((extension? path).bind Variant.ofExtension?).getD .javascript

end Path

end InjectionLint
