import InjectionLint.Expression.Basic
import InjectionLint.Scope.Declaration

/-!
Scopes as frames of bindings, and the chain of frames in effect at a node, the innermost first. In a
frame the first declaration of a name counts; along a chain the innermost frame that binds it does.
-/

set_option autoImplicit false

namespace InjectionLint

structure Binding where
  name : String
  kind : BindingKind
  init : Option Tree
  scope : ScopeKind

namespace Binding

def initExpr? (binding : Binding) : Option Expr :=
  binding.init.map .ofTree

def stringInit? (source : String) (binding : Binding) : Option String :=
  binding.initExpr?.bind (·.stringValue? source)

end Binding

/-- The declarations of one scope, in the order in which they count. -/
structure Frame where
  kind : ScopeKind
  bindings : List Binding

namespace Frame

/-- A declaration under an empty name binds nothing. -/
def binding? (source : String) (scope : ScopeKind) (declaration : Declaration) : Option Binding :=
  let name := declaration.name.text source
  if name = "" then none else some ⟨name, declaration.kind, declaration.init, scope⟩

def ofScope (source : String) (scope : ScopeKind) (tree : Tree) : Frame :=
  ⟨scope, (Declaration.ofScope scope tree).filterMap (binding? source scope)⟩

def get? (frame : Frame) (name : String) : Option Binding :=
  frame.bindings.find? (·.name = name)

def size (frame : Frame) : Nat :=
  (frame.bindings.map (·.name)).eraseDups.length

end Frame

/-- The frames in effect at a node, the innermost first. -/
abbrev Chain := List Frame

def Chain.resolve? (chain : Chain) (name : String) : Option Binding :=
  chain.findSome? (·.get? name)

/-- A node and the frames in effect there. A node that opens a scope has its own frame in effect. -/
structure Visit where
  tree : Tree
  chain : Chain

namespace Visit

def enter (source : String) (chain : Chain) (parent : Kind) (tree : Tree) : Chain :=
  match ScopeKind.opened? (some parent) tree.kind with
  | some scope => .ofScope source scope tree :: chain
  | none => chain

mutual

def below (source : String) (chain : Chain) : Tree → List Visit
  | .node label children => ⟨.node label children, chain⟩ :: belowEach source chain label.kind children

def belowEach (source : String) (chain : Chain) (parent : Kind) : List Tree → List Visit
  | [] => []
  | tree :: rest =>
    (if tree.isNamed then below source (enter source chain parent tree) tree else []) ++
      belowEach source chain parent rest

end

/-- The frame at the node where a traversal starts. If it opens no scope it counts as a program. -/
def rootFrame (source : String) (site : Tree.Site) : Frame :=
  .ofScope source ((ScopeKind.opened? site.parent site.tree.kind).getD .program) site.tree

def all (source : String) (site : Tree.Site) : List Visit :=
  below source [rootFrame source site] site.tree

end Visit

end InjectionLint
