import InjectionLint.Tree.Kind

/-!
The scopes that syntax nodes open.
-/

set_option autoImplicit false

namespace InjectionLint

inductive ScopeKind where
  | program
  | function
  /-- A block that is not the body of a function or of a catch clause, or the body of a switch. -/
  | block
  | loop
  | catchClause
  deriving DecidableEq, Repr

namespace ScopeKind

/-- The scope that a node of a kind opens under its parent. The body of a function or of a catch
clause belongs to the scope that its parent opens. -/
def opened? (parent : Option Kind) : Kind → Option ScopeKind
  | .program => some .program
  | .statementBlock =>
    if parent.any fun kind => kind.isFunction || kind = .catchClause then none else some .block
  | .switchBody => some .block
  | .forStatement | .forInStatement => some .loop
  | .catchClause => some .catchClause
  | kind => if kind.isFunction then some .function else none

/-- A `var` belongs to the nearest scope of such a kind. -/
def isBoundary : ScopeKind → Bool
  | .program | .function => true
  | .block | .loop | .catchClause => false

end ScopeKind

end InjectionLint
