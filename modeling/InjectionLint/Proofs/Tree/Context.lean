import InjectionLint.Proofs.Parse.Verdict

/-!
Trees with a place left open. A context is what is around a node of a tree: on each level the label
above, the siblings before and the siblings after. Filling the place with another node gives the tree
in which that node stands instead.
-/

set_option autoImplicit false

namespace InjectionLint

structure Surrounding where
  label : Label
  before : List Tree
  after : List Tree

/-- What is around a node of a tree, from the root down. -/
abbrev Context := List Surrounding

namespace Context

def fill : Context → Tree → Tree
  | [], tree => tree
  | around :: rest, tree => .node around.label (around.before ++ fill rest tree :: around.after)

theorem fill_append (outer inner : Context) (tree : Tree) :
    fill (outer ++ inner) tree = fill outer (fill inner tree) := by
  induction outer with
  | nil => rfl
  | cons around rest ih => rw [List.cons_append, fill, fill, ih]

def parentKind (above : Kind) : Context → Kind
  | [] => above
  | around :: rest => parentKind around.label.kind rest

def parentKind? : Context → Option Kind
  | [] => none
  | around :: rest => some (parentKind around.label.kind rest)

def address? : Context → Tree → Option Address
  | [], _ => some []
  | around :: rest, tree =>
    if (fill rest tree).isNamed then
      (address? rest tree).map ((around.before.filter Tree.isNamed).length :: ·)
    else none

/-- The nodes of a tree are what may stand at the open place of a context that makes up the tree. -/
theorem mem_nodes_iff_exists_fill {tree node : Tree} :
    node ∈ tree.nodes ↔ ∃ context : Context, context.fill node = tree := by
  constructor
  · intro member
    induction tree with
    | step tree ih =>
        rw [Tree.nodes_eq_cons, List.mem_cons] at member
        rcases member with rfl | below
        · exact ⟨[], rfl⟩
        · obtain ⟨child, isChild, inChild⟩ := List.mem_flatMap.mp below
          obtain ⟨context, filled⟩ := ih child isChild inChild
          obtain ⟨before, after, split⟩ := List.append_of_mem isChild
          refine ⟨⟨tree.label, before, after⟩ :: context, ?_⟩
          rw [fill, filled, ← split]
          cases tree
          rfl
  · rintro ⟨context, rfl⟩
    induction context with
    | nil => exact Tree.self_mem_nodes _
    | cons around rest ih =>
        have isChild : fill rest node ∈ (fill (around :: rest) node).children :=
          List.mem_append_right _ List.mem_cons_self
        exact Tree.mem_nodes_of_child isChild ih

end Context

namespace Tree

theorem mem_nodes_trans {tree middle node : Tree} (inner : node ∈ middle.nodes)
    (outer : middle ∈ tree.nodes) : node ∈ tree.nodes := by
  obtain ⟨below, filledBelow⟩ := Context.mem_nodes_iff_exists_fill.mp inner
  obtain ⟨above, filledAbove⟩ := Context.mem_nodes_iff_exists_fill.mp outer
  refine Context.mem_nodes_iff_exists_fill.mpr ⟨above ++ below, ?_⟩
  rw [Context.fill_append, filledBelow, filledAbove]

theorem mem_nodes_of_mem_children {tree child : Tree} (isChild : child ∈ tree.children) :
    child ∈ tree.nodes :=
  mem_nodes_of_child isChild child.self_mem_nodes

theorem namedChildren_gap (label : Label) (before after : List Tree) {child : Tree}
    (named : child.isNamed = true) :
    (Tree.node label (before ++ child :: after)).namedChildren[
      (before.filter isNamed).length]? = some child := by
  rw [namedChildren_node, List.filter_append, List.filter_cons_of_pos named,
    List.getElem?_append_right (Nat.le_refl _), Nat.sub_self, List.getElem?_cons_zero]

end Tree

namespace Context

theorem nodeAt?_address {context : Context} {tree : Tree} {address : Address}
    (found : context.address? tree = some address) :
    (context.fill tree).nodeAt? address = some tree := by
  induction context generalizing address with
  | nil =>
      obtain rfl := Option.some.inj found
      rfl
  | cons around rest ih =>
      rw [address?] at found
      split at found
      · rename_i named
        obtain ⟨below, inRest, rfl⟩ := Option.map_eq_some_iff.mp found
        rw [fill, Tree.nodeAt?_cons_of_child (Tree.namedChildren_gap _ _ _ named), ih inRest]
      · cases found

end Context

end InjectionLint
