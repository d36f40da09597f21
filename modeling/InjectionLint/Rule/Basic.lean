import InjectionLint.Report.Warning
import InjectionLint.Rule.Keyword
import InjectionLint.Rule.Operand
import InjectionLint.Scope.Frame

/-!
The rules. Each looks at one shape of expression and says where text of a query meets a value that is
known only when the program runs. Rules see the source, the expression and the scopes around it.
-/

set_option autoImplicit false

namespace InjectionLint

namespace Rule

def singleQuote : Char := Char.ofNat 0x27

/-- Values that may carry text from outside into a query: names, properties, and strings whose source
has a quote. A string in single quotes has one. -/
def isInjectable (source : String) : Expr → Bool
  | .identifier _ | .member _ => true
  | .stringLiteral node => singleQuote ∈ (node.text source).toList
  | _ => false

def isQueryStart : Expr → Bool
  | .stringLiteral _ | .binary _ => true
  | _ => false

/-- An addition whose left side begins with a query and whose right side is injectable. The warning is
on the whole addition, and the value enters at its right operand. -/
def additionWarnings (source : String) (binary : Binary) : List Warning :=
  if binary.isAdditive && isQueryStart binary.leftExpr then
    match binary.left.leftmostExpr.stringValue? source with
    | some query =>
      if Keyword.hasStatement query && Keyword.hasWhere query &&
          isInjectable source binary.rightExpr then
        [.ofRange .concatenation (binary.node.range source)
          (binary.rightExpr.range source).start.column source]
      else []
    | none => []
  else []

/-- The first value among the substitutions whose neighbouring texts together have both words. The
first text stands before the first substitution. -/
def firstInterpolated? : List Expr → List String → Option Expr
  | [], _ => none
  | expr :: exprs, quasis =>
    let near := fun word =>
      Keyword.mentions word (quasis.head?.getD "") || Keyword.mentions word (quasis[1]?.getD "")
    if !expr.isConstant && near "select" && near "where" then some expr
    else firstInterpolated? exprs (quasis.drop 1)

/-- A template whose text, next to a value that is not a literal, is that of a query. One warning at
most, on the first such value. -/
def templateWarnings (source : String) (template : Tree) : List Warning :=
  match firstInterpolated? (Template.expressions template) (Template.quasis source template) with
  | some expr =>
    [.ofRange .interpolation (expr.range source) (expr.range source).start.column source]
  | none => []

def literalValue? (source : String) (chain : Chain) : Expr → Option String
  | .stringLiteral node => some (Literal.value source node)
  | .identifier node => (chain.resolve? (node.text source)).bind (·.stringInit? source)
  | _ => none

/-- The query that an argument carries, and how it came by it. Names are followed as a whole argument
and at the start of an addition, not under another operator. -/
def argumentQuery? (source : String) (chain : Chain) : Expr → Option (Origin × String)
  | .binary binary =>
    match binary.left.leftmostExpr with
    | .stringLiteral node => some (.callArgument, Literal.value source node)
    | .identifier node =>
      if binary.isAdditive then
        (literalValue? source chain (.identifier node)).map (.callArgument, ·)
      else none
    | _ => none
  | .identifier node =>
    (literalValue? source chain (.identifier node)).map (.resolvedBinding, ·)
  | _ => none

def isInspected (source : String) (call : Call) : Bool :=
  !call.isTagged && !call.isOptional &&
    match call.calleeName? source with
    | some name => name ≠ "require"
    | none => false

/-- A call with query text among its arguments. One warning for each such argument, all on the call. -/
def callWarnings (source : String) (chain : Chain) (call : Call) : List Warning :=
  if isInspected source call then
    call.argumentExprs.filterMap fun argument =>
      match argumentQuery? source chain argument with
      | some (origin, query) =>
        if Keyword.hasAny query then
          some (.ofRange origin (call.node.range source) (call.node.range source).start.column source)
        else none
      | none => none
  else []

end Rule

inductive Rule where
  | concatenation
  | interpolation
  | callArgument
  deriving DecidableEq, Repr

namespace Rule

def table : List (ExprKind × Rule) :=
  [(.binary, .concatenation), (.template, .interpolation), (.call, .callArgument)]

def forKind (kind : ExprKind) : List Rule :=
  (table.filter (·.1 = kind)).map (·.2)

def check (source : String) (chain : Chain) (rule : Rule) (expr : Expr) : List Warning :=
  match rule, expr with
  | .concatenation, .binary binary => additionWarnings source binary
  | .interpolation, .template template => templateWarnings source template
  | .callArgument, .call call => callWarnings source chain call
  | _, _ => []

def atVisit (source : String) (visit : Visit) : List Warning :=
  match Expr.at? visit.tree with
  | some expr => (forKind expr.kind).flatMap fun rule => check source visit.chain rule expr
  | none => []

def detect (source : String) (tree : Tree) : List Warning :=
  (Visit.all source ⟨none, tree⟩).flatMap (atVisit source)

end Rule

end InjectionLint
