import InjectionLint.Expression.Literal

/-!
Expressions as the rules see them. A node is classed once into a few shapes, and everything else is
`Expr.other`. Parentheses are seen through: `Tree.bare` is the node inside them.
-/

set_option autoImplicit false

namespace InjectionLint

namespace Tree

mutual

/-- The node inside any number of parentheses; parentheses around nothing stand for themselves. -/
def bare : Tree → Tree
  | .node label children =>
    if label.kind = .parenthesizedExpression then (bareContent? children).getD (.node label children)
    else .node label children

def bareContent? : List Tree → Option Tree
  | [] => none
  | tree :: rest => if tree.isContent then some (bare tree) else bareContent? rest

end

end Tree

structure Binary where
  node : Tree
  left : Tree
  right : Tree
  operator : Kind

structure Call where
  node : Tree
  callee : Tree
  arguments : Tree

inductive ExprKind where
  | binary
  | template
  | call
  | identifier
  | member
  | stringLiteral
  | numericLiteral
  | booleanLiteral
  | other
  deriving DecidableEq, Repr

inductive Expr where
  | binary (operation : Binary)
  | template (node : Tree)
  | call (application : Call)
  | identifier (node : Tree)
  | member (node : Tree)
  | stringLiteral (node : Tree)
  | numericLiteral (node : Tree)
  | booleanLiteral (node : Tree)
  | other (node : Tree)

namespace Binary

def ofTree? (node : Tree) : Option Binary :=
  match node.child? .left, node.child? .right, node.childKind? .operator with
  | some left, some right, some operator => some ⟨node, left, right, operator⟩
  | _, _, _ => none

def isAdditive (binary : Binary) : Bool :=
  binary.operator = .plus

end Binary

namespace Call

def ofTree? (node : Tree) : Option Call :=
  match node.child? .function, node.child? .arguments with
  | some callee, some arguments => some ⟨node, callee, arguments⟩
  | _, _ => none

def calleeName? (source : String) (call : Call) : Option String :=
  if call.callee.kind = .identifier then some (call.callee.text source) else none

/-- The parser reads a template after a tag as a call on that template. -/
def isTagged (call : Call) : Bool :=
  call.arguments.kind = .templateString

def isOptional (call : Call) : Bool :=
  (call.node.child? .optionalChain).isSome

end Call

namespace Expr

def classify (node : Tree) : Expr :=
  match node.kind with
  | .binaryExpression => ((Binary.ofTree? node).map binary).getD (other node)
  | .templateString => template node
  | .callExpression => ((Call.ofTree? node).map call).getD (other node)
  | .identifier | .undefinedValue => identifier node
  | .memberExpression | .subscriptExpression => member node
  | .stringLiteral => stringLiteral node
  | .numberLiteral => numericLiteral node
  | .trueLiteral | .falseLiteral => booleanLiteral node
  | _ => other node

def ofTree (tree : Tree) : Expr :=
  classify tree.bare

/-- The expression at a node itself. A traversal meets what stands in parentheses on its own, so the
parentheses are no expression of their own. -/
def at? (tree : Tree) : Option Expr :=
  if tree.kind = .parenthesizedExpression then none else some (ofTree tree)

def kind : Expr → ExprKind
  | .binary _ => .binary
  | .template _ => .template
  | .call _ => .call
  | .identifier _ => .identifier
  | .member _ => .member
  | .stringLiteral _ => .stringLiteral
  | .numericLiteral _ => .numericLiteral
  | .booleanLiteral _ => .booleanLiteral
  | .other _ => .other

def node : Expr → Tree
  | .binary operation => operation.node
  | .call application => application.node
  | .template node | .identifier node | .member node | .stringLiteral node
  | .numericLiteral node | .booleanLiteral node | .other node => node

def range (source : String) (expr : Expr) : Range :=
  expr.node.range source

def isConstant : Expr → Bool
  | .stringLiteral _ | .numericLiteral _ | .booleanLiteral _ => true
  | _ => false

def stringValue? (source : String) : Expr → Option String
  | .stringLiteral node => some (Literal.value source node)
  | _ => none

end Expr

namespace Binary

def leftExpr (binary : Binary) : Expr :=
  .ofTree binary.left

def rightExpr (binary : Binary) : Expr :=
  .ofTree binary.right

end Binary

def Call.argumentExprs (call : Call) : List Expr :=
  if call.isTagged then []
  else (call.arguments.children.filter Tree.isContent).map .ofTree

namespace Template

def substitutions (template : Tree) : List Tree :=
  template.namedChildren.filter fun child => child.kind = .templateSubstitution

def substituted (substitution : Tree) : Expr :=
  match substitution.content? with
  | some content => .ofTree content
  | none => .other substitution

def expressions (template : Tree) : List Expr :=
  (substitutions template).map substituted

/-- The texts before, between and after substitutions, the first of them beginning at `start` and
the last ending at `stop`. -/
def quasisFrom (source : String) (stop : Nat) : Nat → List Tree → List String
  | start, [] => [Text.slice source start stop]
  | start, substitution :: rest =>
    Text.slice source start substitution.start :: quasisFrom source stop substitution.stop rest

/-- The literal texts of a template as they are written, between its delimiters. -/
def quasis (source : String) (template : Tree) : List String :=
  quasisFrom source (template.stop - 1) (template.start + 1) (substitutions template)

end Template

end InjectionLint
