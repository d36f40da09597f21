import InjectionLint.Text.Blank
import InjectionLint.Text.Lowercase.Table

/-!
Lower-casing of whole texts. Letters go one by one, with two exceptions: a capital I with a dot becomes
two characters, and a capital sigma at the end of a word takes its final form.
-/

set_option autoImplicit false

namespace InjectionLint.Text

open LowercaseTable (Run)

namespace LowercaseTable

def Run.image? (run : Run) (point : Nat) : Option Nat :=
  if run.first ≤ point ∧ point ≤ run.last ∧ (point - run.first) % run.step = 0 then
    some (run.image + (point - run.first))
  else none

end LowercaseTable

def lowerChar (c : Char) : List Char :=
  if c.toNat < 0x80 then [c.toLower]
  else if c.toNat = 0x130 then ['i', Char.ofNat 0x307]
  else
    match LowercaseTable.runs.findSome? (·.image? c.toNat) with
    | some point => [Char.ofNat point]
    | none => [c]

/-- Whether the nearest character that counts for the case of a word is a cased letter. -/
def meetsCased (text : List Char) : Bool :=
  match text.dropWhile fun c => within LowercaseTable.ignorable c.toNat with
  | [] => false
  | c :: _ => within LowercaseTable.cased c.toNat

/-- Lower-cases a text of which `before`, nearest character first, has been read. -/
def lowerAfter (before : List Char) : List Char → List Char
  | [] => []
  | c :: rest =>
    (if c.toNat = 0x3A3 then
      [Char.ofNat (if meetsCased before && !meetsCased rest then 0x3C2 else 0x3C3)]
    else lowerChar c) ++ lowerAfter (c :: before) rest

def lowercase (text : List Char) : List Char :=
  lowerAfter [] text

end InjectionLint.Text
