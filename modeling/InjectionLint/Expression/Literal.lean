import InjectionLint.Tree.Basic

/-!
The value of a string literal: its fragments in order, with escape sequences replaced by what they
stand for. An escape that stands for no character is kept as it is written.
-/

set_option autoImplicit false

namespace InjectionLint

namespace Literal

def hexDigit? (c : Char) : Option Nat :=
  if '0' ≤ c ∧ c ≤ '9' then some (c.toNat - '0'.toNat)
  else if 'a' ≤ c ∧ c ≤ 'f' then some (c.toNat - 'a'.toNat + 10)
  else if 'A' ≤ c ∧ c ≤ 'F' then some (c.toNat - 'A'.toNat + 10)
  else none

def hexFrom? (value : Nat) : List Char → Option Nat
  | [] => some value
  | c :: rest => (hexDigit? c).bind fun digit => hexFrom? (value * 16 + digit) rest

/-- The number that one or more hexadecimal digits denote; a plus sign may come first. -/
def hexNumber? : List Char → Option Nat
  | [] => none
  | ['+'] => none
  | '+' :: digits => hexFrom? 0 digits
  | digits => hexFrom? 0 digits

/-- The character of a code point, unless it is a surrogate or too large. -/
def charOfPoint? (point : Nat) : Option Char :=
  if point.isValidChar then some (Char.ofNat point) else none

def unbraced (text : List Char) : List Char :=
  ((text.dropWhile (· = '{')).reverse.dropWhile (· = '}')).reverse

def isLineTerminator (c : Char) : Bool :=
  c = '\n' || c = '\r' || c.toNat = 0x2028 || c.toNat = 0x2029

def unescapeMarked (marker : Char) (rest : List Char) : List Char :=
  match marker with
  | 'n' => ['\n']
  | 't' => ['\t']
  | 'r' => ['\r']
  | 'b' => [Char.ofNat 0x8]
  | 'f' => [Char.ofNat 0xC]
  | 'v' => [Char.ofNat 0xB]
  | 'x' | 'u' =>
    match (hexNumber? (unbraced rest)).bind charOfPoint? with
    | some c => [c]
    | none => '\\' :: marker :: rest
  | _ =>
    if marker = '0' ∧ rest = [] then [Char.ofNat 0]
    else if isLineTerminator marker then []
    else marker :: rest

def unescape : List Char → List Char
  | '\\' :: marker :: rest => unescapeMarked marker rest
  | ['\\'] => []
  | text => text

def fragmentValue (source : String) (fragment : Tree) : List Char :=
  let text := (fragment.text source).toList
  if fragment.kind = .escapeSequence then unescape text else text

def value (source : String) (literal : Tree) : String :=
  String.ofList (literal.namedChildren.flatMap (fragmentValue source))

end Literal

end InjectionLint
