import InjectionLint.Text.Bytes
import InjectionLint.Source.Position
import InjectionLint.Tree.Kind

/-!
Syntax trees as a parser delivers them. A parser lists the nodes of a tree in pre-order with their
depths; `Tree.ofPreorder?` puts the tree together, and from then on every function follows its
shape. Rules and scopes see the named nodes only. Nodes hold byte offsets, and their text is that of
the source given along with the tree.
-/

set_option autoImplicit false

namespace InjectionLint

inductive Fault where
  | unexpected
  | missing
  deriving DecidableEq, Repr

structure Label where
  kind : Kind
  start : Nat
  stop : Nat
  field : Option Field
  named : Bool
  fault : Option Fault
  /-- The parser's word that this node, or one below it, has a fault. -/
  damaged : Bool
  deriving DecidableEq, Repr

inductive Tree where
  | node (label : Label) (children : List Tree)
  deriving Repr

namespace Tree

def label : Tree → Label
  | .node label _ => label

def children : Tree → List Tree
  | .node _ children => children

def kind (tree : Tree) : Kind :=
  tree.label.kind

def start (tree : Tree) : Nat :=
  tree.label.start

def stop (tree : Tree) : Nat :=
  tree.label.stop

def isNamed (tree : Tree) : Bool :=
  tree.label.named

def isContent (tree : Tree) : Bool :=
  tree.isNamed && tree.kind != .comment

def namedChildren (tree : Tree) : List Tree :=
  tree.children.filter isNamed

def child? (tree : Tree) (field : Field) : Option Tree :=
  tree.children.find? fun child => child.label.field = some field

def childKind? (tree : Tree) (field : Field) : Option Kind :=
  (tree.child? field).map kind

def content? (tree : Tree) : Option Tree :=
  tree.children.find? isContent

def text (source : String) (tree : Tree) : String :=
  Text.slice source tree.start tree.stop

def range (source : String) (tree : Tree) : Range :=
  .ofOffsets source tree.start tree.stop

/-- Put a node before a forest of deeper and later nodes: those of the leading trees that lie deeper
become its children. -/
def attach (entry : Nat × Label) (forest : List (Nat × Tree)) : List (Nat × Tree) :=
  let deeper := forest.takeWhile (entry.1 < ·.1)
  (entry.1, .node entry.2 (deeper.map (·.2))) :: forest.dropWhile (entry.1 < ·.1)

def ofPreorder? (nodes : List (Nat × Label)) : Option Tree :=
  (nodes.foldr attach []).head?.map (·.2)

/-- A node together with the kind of its parent, on which the role of some nodes depends. -/
structure Site where
  parent : Option Kind
  tree : Tree

mutual

/-- The named nodes from a node on, in pre-order. The node itself counts whatever it is. -/
def sites (parent : Option Kind) : Tree → List Site
  | .node label children => ⟨parent, .node label children⟩ :: forestSites (some label.kind) children

def forestSites (parent : Option Kind) : List Tree → List Site
  | [] => []
  | tree :: rest =>
    (if tree.isNamed then sites parent tree else []) ++ forestSites parent rest

end

def find? (tree : Tree) (kind : Kind) : Option Site :=
  (tree.sites none).find? fun site => site.tree.kind = kind

end Tree

end InjectionLint
