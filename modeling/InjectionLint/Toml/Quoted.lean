import InjectionLint.Expression.Literal
import InjectionLint.Toml.Value

/-!
The four forms of strings: between quotes or apostrophes, on one line or, between three of them, on
several. Escapes count between quotes only.
-/

set_option autoImplicit false

namespace InjectionLint

namespace Toml

/-- Characters that may stand for themselves on a line: all but the control characters, tab apart. -/
def isPrintable (c : Char) : Bool :=
  c = '\t' || 0x20 ≤ c.toNat && c.toNat ≠ 0x7F

def apostrophe : Char := Char.ofNat 0x27

def isSpace (c : Char) : Bool :=
  c = ' ' || c = '\t'

def lineEnd? : List Char → Option (List Char)
  | '\n' :: rest => some rest
  | '\r' :: '\n' :: rest => some rest
  | _ => none

def shortEscape? : Char → Option Char
  | 'b' => some (Char.ofNat 0x8)
  | 't' => some '\t'
  | 'n' => some '\n'
  | 'f' => some (Char.ofNat 0xC)
  | 'r' => some '\r'
  | 'e' => some (Char.ofNat 0x1B)
  | '"' => some '"'
  | '\\' => some '\\'
  | _ => none

def pointEscape? (digits : List Char) : Option Char :=
  (Literal.hexFrom? 0 digits).bind Literal.charOfPoint?

def prepend (c : Char) (read : Option (List Char × List Char)) : Option (List Char × List Char) :=
  read.map fun (text, rest) => (c :: text, rest)

def basicRest : Reader (List Char)
  | [] => none
  | '"' :: rest => some ([], rest)
  | '\\' :: 'x' :: a :: b :: rest => do prepend (← pointEscape? [a, b]) (basicRest rest)
  | '\\' :: 'u' :: a :: b :: c :: d :: rest => do
    prepend (← pointEscape? [a, b, c, d]) (basicRest rest)
  | '\\' :: 'U' :: a :: b :: c :: d :: e :: f :: g :: h :: rest => do
    prepend (← pointEscape? [a, b, c, d, e, f, g, h]) (basicRest rest)
  | '\\' :: letter :: rest => do prepend (← shortEscape? letter) (basicRest rest)
  | c :: rest => if isPrintable c && c ≠ '\\' then prepend c (basicRest rest) else none

def literalRest : Reader (List Char)
  | [] => none
  | c :: rest =>
    if c = apostrophe then some ([], rest)
    else if isPrintable c then prepend c (literalRest rest)
    else none

inductive Fold where
  | none
  /-- After a backslash at the end of a line, before the line ends. -/
  | pending
  /-- Past the end of such a line: blanks and line ends are skipped. -/
  | skipping
  deriving DecidableEq, Repr

/-- The rest of a string between three quotes. A backslash at the end of a line skips to the next
character that is not blank. One or two quotes may stand right before the closing three. -/
def basicLinesRest : Fold → Reader (List Char)
  | _, [] => Option.none
  | fold, '\r' :: '\n' :: rest =>
    match fold with
    | .none => prepend '\r' (prepend '\n' (basicLinesRest .none rest))
    | _ => basicLinesRest .skipping rest
  | fold, '\n' :: rest =>
    match fold with
    | .none => prepend '\n' (basicLinesRest .none rest)
    | _ => basicLinesRest .skipping rest
  | .pending, c :: rest => if isSpace c then basicLinesRest .pending rest else Option.none
  | .skipping, ' ' :: rest => basicLinesRest .skipping rest
  | .skipping, '\t' :: rest => basicLinesRest .skipping rest
  | _, '"' :: '"' :: '"' :: '"' :: '"' :: rest => some (['"', '"'], rest)
  | _, '"' :: '"' :: '"' :: '"' :: rest => some (['"'], rest)
  | _, '"' :: '"' :: '"' :: rest => some ([], rest)
  | _, '\\' :: 'x' :: a :: b :: rest => do
    prepend (← pointEscape? [a, b]) (basicLinesRest .none rest)
  | _, '\\' :: 'u' :: a :: b :: c :: d :: rest => do
    prepend (← pointEscape? [a, b, c, d]) (basicLinesRest .none rest)
  | _, '\\' :: 'U' :: a :: b :: c :: d :: e :: f :: g :: h :: rest => do
    prepend (← pointEscape? [a, b, c, d, e, f, g, h]) (basicLinesRest .none rest)
  | _, '\\' :: '\r' :: '\n' :: rest => basicLinesRest .skipping rest
  | _, '\\' :: letter :: rest =>
    if letter = '\n' then basicLinesRest .skipping rest
    else if isSpace letter then basicLinesRest .pending rest
    else do prepend (← shortEscape? letter) (basicLinesRest .none rest)
  | _, c :: rest =>
    if isPrintable c && c ≠ '\\' then prepend c (basicLinesRest .none rest) else Option.none

def closesLines (text : List Char) : Bool :=
  [apostrophe, apostrophe, apostrophe].isPrefixOf text

def literalLinesRest : Reader (List Char)
  | [] => none
  | '\r' :: '\n' :: rest => prepend '\r' (prepend '\n' (literalLinesRest rest))
  | '\n' :: rest => prepend '\n' (literalLinesRest rest)
  | c :: rest =>
    if closesLines (c :: rest) && !closesLines rest then some ([], rest.drop 2)
    else if closesLines (c :: rest) && closesLines (rest.drop 1) then
      some ([apostrophe, apostrophe], rest.drop 4)
    else if isPrintable c then prepend c (literalLinesRest rest)
    else none

/-- A line end right after the opening of a string on several lines is no part of it. -/
def dropLineEnd (text : List Char) : List Char :=
  (lineEnd? text).getD text

def quotedLine : Reader (List Char)
  | '"' :: rest => basicRest rest
  | c :: rest => if c = apostrophe then literalRest rest else none
  | [] => none

def quoted : Reader (List Char)
  | '"' :: '"' :: '"' :: rest => basicLinesRest .none (dropLineEnd rest)
  | text => if closesLines text then literalLinesRest (dropLineEnd (text.drop 3)) else quotedLine text

end Toml

end InjectionLint
