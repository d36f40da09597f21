import InjectionLint.Scope.Kind
import InjectionLint.Scope.Pattern

/-!
The declarations that belong to a scope, in the order in which they count. They are gathered before
anything in the scope is looked at, so a name is known also before its declaration. Declarations of
functions, classes and block-scoped names belong to the scope they stand in; a `var` is lifted out of
every scope within the nearest function. Nothing inside a function or a class is lifted out of it.
-/

set_option autoImplicit false

namespace InjectionLint

inductive BindingKind where
  | varName
  | letName
  | constName
  | function
  | classDeclaration
  | parameter
  | catchParameter
  deriving DecidableEq, Repr

structure Declaration where
  name : Tree
  kind : BindingKind
  init : Option Tree

namespace Declaration

def ofPattern (kind : BindingKind) (pattern : Tree) : List Declaration :=
  pattern.boundNames.map (⟨·, kind, none⟩)

def ofRole (kind : BindingKind) (tree : Tree) (field : Field) : List Declaration :=
  match tree.child? field with
  | some pattern => ofPattern kind pattern
  | none => []

def ofOwnName (kind : BindingKind) (tree : Tree) : List Declaration :=
  match tree.child? .name with
  | some name => [⟨name, kind, none⟩]
  | none => []

/-- Only a declarator with a plain name has an initialiser to follow. -/
def ofDeclarator (kind : BindingKind) (declarator : Tree) : List Declaration :=
  match declarator.child? .name with
  | some name =>
    if name.kind = .identifier then [⟨name, kind, declarator.child? .value⟩]
    else ofPattern kind name
  | none => []

def ofDeclarators (kind : BindingKind) (declaration : Tree) : List Declaration :=
  (declaration.namedChildren.filter fun child => child.kind = .variableDeclarator).flatMap
    (ofDeclarator kind)

def lexicalKind (declaration : Tree) : BindingKind :=
  if declaration.childKind? .kind = some .constKeyword then .constName else .letName

def ofVarHead (loop : Tree) : List Declaration :=
  if loop.childKind? .kind = some .varKeyword then ofRole .varName loop .left else []

mutual

/-- The declarations of a named node within a scope. `hoists` says whether the scope takes in the
`var`s of scopes inside it, `own` whether the node stands directly in the scope. -/
def within (hoists own : Bool) (parent : Kind) : Tree → List Declaration
  | .node label children =>
    match label.kind with
    | .lexicalDeclaration =>
      if own then ofDeclarators (lexicalKind (.node label children)) (.node label children) else []
    | .variableDeclaration => if hoists then ofDeclarators .varName (.node label children) else []
    | .functionDeclaration | .generatorFunctionDeclaration =>
      if own then ofOwnName .function (.node label children) else []
    | .classDeclaration => if own then ofOwnName .classDeclaration (.node label children) else []
    | .forInStatement =>
      if hoists then
        ofVarHead (.node label children) ++ withinEach hoists false .forInStatement children
      else []
    | .classExpression => []
    | kind =>
      if kind.isFunction then []
      else if (ScopeKind.opened? (some parent) kind).isSome then
        if hoists then withinEach hoists false kind children else []
      else withinEach hoists own kind children

def withinEach (hoists own : Bool) (parent : Kind) : List Tree → List Declaration
  | [] => []
  | tree :: rest =>
    (if tree.isNamed then within hoists own parent tree else []) ++ withinEach hoists own parent rest

end

def ofContainer (scope : ScopeKind) (container : Tree) : List Declaration :=
  withinEach scope.isBoundary true container.kind container.children

/-- A function expression knows itself by its own name; then come the parameters. -/
def ofFunctionHead (function : Tree) : List Declaration :=
  (match function.kind with
    | .functionExpression | .functionKeyword | .generatorFunction => ofOwnName .function function
    | _ => []) ++
  ofRole .parameter function .parameter ++
  match function.child? .parameters with
  | some parameters => parameters.namedChildren.flatMap (ofPattern .parameter)
  | none => []

/-- The block-scoped names in the head of a loop over elements. The head of any other loop is a
declaration below it. -/
def ofLoopHead (loop : Tree) : List Declaration :=
  if loop.kind = .forInStatement then
    match loop.childKind? .kind with
    | some .letKeyword => ofRole .letName loop .left
    | some .constKeyword => ofRole .constName loop .left
    | _ => []
  else []

def ofScope (scope : ScopeKind) (tree : Tree) : List Declaration :=
  match scope with
  | .function =>
    ofFunctionHead tree ++
    match tree.child? .body with
    | some body => if body.kind = .statementBlock then ofContainer scope body else []
    | none => []
  | .catchClause =>
    ofRole .catchParameter tree .parameter ++
    match tree.child? .body with
    | some body => ofContainer scope body
    | none => []
  | .loop => ofLoopHead tree ++ ofContainer scope tree
  | .program | .block => ofContainer scope tree

end Declaration

end InjectionLint
