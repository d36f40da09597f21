import InjectionLint.Expression.Basic

/-!
The operand at the far left of a chain of additions.
-/

set_option autoImplicit false

namespace InjectionLint

namespace Tree

def isAddition (tree : Tree) : Bool :=
  tree.kind = .binaryExpression &&
    (tree.child? .left).isSome && (tree.child? .right).isSome &&
    tree.childKind? .operator = some .plus

mutual

/-- The left-most operand of a chain of additions, parentheses removed at every step. -/
def leftmost : Tree → Tree
  | .node label children =>
    if label.kind = .parenthesizedExpression then
      (leftmostContent? children).getD (.node label children)
    else if (Tree.node label children).isAddition then
      (leftmostLeft? children).getD (.node label children)
    else .node label children

def leftmostContent? : List Tree → Option Tree
  | [] => none
  | tree :: rest => if tree.isContent then some (leftmost tree) else leftmostContent? rest

def leftmostLeft? : List Tree → Option Tree
  | [] => none
  | tree :: rest =>
    if tree.label.field = some .left then some (leftmost tree) else leftmostLeft? rest

end

def leftmostExpr (tree : Tree) : Expr :=
  .ofTree tree.leftmost

end Tree

end InjectionLint
