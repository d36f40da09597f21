import InjectionLint.Error
import InjectionLint.Log
import InjectionLint.Source.Variant
import InjectionLint.Tree.Damage

/-!
Reading a source. The parser is a collaborator: given a grammar it makes a tree of any text and marks
what it could not read. A source is accepted only without such marks, so rules never see a damaged
tree. Plain JavaScript that does not parse is tried once more with the typed grammar; a failure is
always told in terms of the first attempt.
-/

set_option autoImplicit false

namespace InjectionLint

/-- A parser makes a tree of every text, damaged where the text does not follow the grammar. -/
abbrev Parser :=
  Grammar → String → Tree

structure ParsedSource where
  tree : Tree
  source : String
  path : String
  variant : Variant

namespace Damage

def describe (variant : Variant) (damage : Damage) : String :=
  match damage.fault with
  | .missing => s!"missing `{damage.kind.name}`"
  | .unexpected => s!"unexpected syntax while parsing {variant.name}"

end Damage

/-- The tree to go by: that of the typed grammar if the first one is damaged and it is not. -/
def chooseTree (parser : Parser) (source path : String) (variant : Variant) : Logged Tree :=
  let first := parser variant.grammar source
  match variant.typedFallback? with
  | some grammar =>
    let typed := parser grammar source
    if first.label.damaged && !typed.label.damaged then
      .after ⟨.debug, .parse, s!"{path}: parsed with the TSX grammar"⟩ (.silent typed)
    else .silent first
  | none => .silent first

def parseSource (parser : Parser) (source path : String) (variant : Variant) :
    Logged (Except ScanError ParsedSource) :=
  (chooseTree parser source path variant).andThen fun tree =>
    .silent <|
      match tree.firstDamage? with
      | some damage =>
        .error (.parse path (.ofOffset source damage.start) (damage.describe variant))
      | none => .ok ⟨tree, source, path, variant⟩

end InjectionLint
