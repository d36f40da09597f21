import InjectionLint.Tree.Basic
import Mathlib.Data.List.Infix

/-!
Addresses of the named nodes of a tree. Equal nodes may stand at several places, so a node is told by
the way that leads to it: at each step, the index among the named children. The order of addresses is
that of dictionaries, in which a node comes before all that is below it and a sibling before the next.

Main statement: `addresses` lists every address once, in that order.
-/

set_option autoImplicit false

namespace InjectionLint

/-- The way down to a named node, an index among the named children at each step. -/
abbrev Address := List Nat

namespace Address

def between (address : Address) : List Address :=
  address.dropLast.inits.tail

theorem inits_eq_cons_tail (address : Address) : address.inits = [] :: address.inits.tail := by
  cases address with
  | nil => rfl
  | cons index rest => rw [List.inits_cons, List.tail_cons]

theorem ne_nil_of_mem_inits_tail {address upper : Address}
    (member : upper ∈ address.inits.tail) : upper ≠ [] := by
  cases address with
  | nil => cases member
  | cons index rest =>
      rw [List.inits_cons, List.tail_cons] at member
      obtain ⟨below, _, rfl⟩ := List.mem_map.mp member
      exact List.cons_ne_nil index below

theorem between_cons_cons (index next : Nat) (rest : Address) :
    between (index :: next :: rest) = [index] :: (between (next :: rest)).map (index :: ·) := by
  have upperPart : (index :: next :: rest).dropLast = index :: (next :: rest).dropLast := rfl
  unfold between
  rw [upperPart, List.inits_cons, List.tail_cons]
  nth_rewrite 1 [inits_eq_cons_tail (next :: rest).dropLast]
  rfl

theorem ne_nil_of_mem_between {address upper : Address} (member : upper ∈ address.between) :
    upper ≠ [] :=
  ne_nil_of_mem_inits_tail member

end Address

namespace Tree

/-- What holds of a node whenever it holds of its children holds of every tree. -/
@[induction_eliminator]
theorem induct {motive : Tree → Prop}
    (step : ∀ tree, (∀ child ∈ tree.children, motive child) → motive tree)
    (tree : Tree) : motive tree := by
  refine @Tree.rec motive (fun children => ∀ child ∈ children, motive child) ?_ ?_ ?_ tree
  · intro label children ofChildren
    exact step (.node label children) ofChildren
  · intro child member
    cases member
  · intro head tail ofHead ofTail child member
    rcases List.mem_cons.mp member with same | later
    · subst child
      exact ofHead
    · exact ofTail child later

theorem namedChildren_node (label : Label) (children : List Tree) :
    (Tree.node label children).namedChildren = children.filter isNamed :=
  rfl

theorem flatMap_named_cons {α : Type} (ofTree : Tree → List α) (head : Tree) (tail : List Tree) :
    ((head :: tail).filter isNamed).flatMap ofTree =
      (if head.isNamed then ofTree head else []) ++ (tail.filter isNamed).flatMap ofTree := by
  by_cases named : head.isNamed = true
  · rw [List.filter_cons_of_pos named, List.flatMap_cons, if_pos named]
  · rw [List.filter_cons_of_neg named, if_neg named, List.nil_append]

theorem mem_children_of_named {tree child : Tree} {index : Nat}
    (found : tree.namedChildren[index]? = some child) : child ∈ tree.children :=
  (List.mem_filter.mp (List.mem_of_getElem? found)).1

/-! ### Nodes by address -/

def nodeAt? (tree : Tree) : Address → Option Tree
  | [] => some tree
  | index :: rest => tree.namedChildren[index]?.bind fun child => child.nodeAt? rest

theorem nodeAt?_nil (tree : Tree) : tree.nodeAt? [] = some tree :=
  rfl

theorem nodeAt?_cons (tree : Tree) (index : Nat) (rest : Address) :
    tree.nodeAt? (index :: rest) =
      tree.namedChildren[index]?.bind fun child => child.nodeAt? rest :=
  rfl

theorem nodeAt?_cons_of_child {tree child : Tree} {index : Nat}
    (found : tree.namedChildren[index]? = some child) (rest : Address) :
    tree.nodeAt? (index :: rest) = child.nodeAt? rest := by
  rw [nodeAt?_cons, found, Option.bind_some]

theorem nodeAt?_append (tree : Tree) (upper lower : Address) :
    tree.nodeAt? (upper ++ lower) = (tree.nodeAt? upper).bind (·.nodeAt? lower) := by
  induction upper generalizing tree with
  | nil => rfl
  | cons index rest ih =>
      rw [List.cons_append, nodeAt?_cons, nodeAt?_cons, Option.bind_assoc]
      congr 1
      funext child
      exact ih child

def parentKindAt? (tree : Tree) (address : Address) : Option Kind :=
  if address = [] then none else (tree.nodeAt? address.dropLast).map kind

/-! ### The addresses of a tree -/

mutual

def addresses : Tree → List Address
  | .node _ children => [] :: forestAddresses 0 children

def forestAddresses (index : Nat) : List Tree → List Address
  | [] => []
  | tree :: rest =>
    if tree.isNamed then (addresses tree).map (index :: ·) ++ forestAddresses (index + 1) rest
    else forestAddresses index rest

end

private theorem forestAddresses_filter (index : Nat) (children : List Tree) :
    forestAddresses index children =
      ((children.filter isNamed).zipIdx index).flatMap fun entry =>
        entry.1.addresses.map (entry.2 :: ·) := by
  induction children generalizing index with
  | nil => rfl
  | cons head tail ih =>
      by_cases named : head.isNamed = true
      · rw [forestAddresses, if_pos named, ih, List.filter_cons_of_pos named, List.zipIdx_cons,
          List.flatMap_cons]
      · rw [forestAddresses, if_neg named, ih, List.filter_cons_of_neg named]

theorem addresses_eq (tree : Tree) :
    tree.addresses =
      [] :: tree.namedChildren.zipIdx.flatMap fun entry =>
        entry.1.addresses.map (entry.2 :: ·) := by
  cases tree with
  | node label children => rw [addresses, forestAddresses_filter, namedChildren_node]

/-- A listing over the addresses of a tree has what it says of the root and then, for each named child
in turn, what it says below that child. -/
theorem flatMap_addresses {α : Type} {tree : Tree} {listing : Address → List α}
    {ofChild : Tree → List α}
    (agree : ∀ index child, tree.namedChildren[index]? = some child →
      ofChild child = child.addresses.flatMap fun below => listing (index :: below)) :
    tree.addresses.flatMap listing = listing [] ++ tree.namedChildren.flatMap ofChild := by
  rw [addresses_eq, List.flatMap_cons, List.flatMap_assoc]
  congr 1
  nth_rewrite 2 [← List.zipIdx_map_fst 0 tree.namedChildren]
  rw [List.flatMap_map]
  apply List.flatMap_congr
  rintro ⟨child, index⟩ member
  rw [List.flatMap_map]
  exact (agree index child (List.mem_zipIdx_iff_getElem?.mp member)).symm

theorem mem_addresses_iff (tree : Tree) (address : Address) :
    address ∈ tree.addresses ↔ (tree.nodeAt? address).isSome = true := by
  induction tree generalizing address with
  | step tree ih =>
      rw [addresses_eq]
      cases address with
      | nil => simp [nodeAt?_nil]
      | cons index rest =>
          rw [nodeAt?_cons]
          simp only [List.mem_cons, reduceCtorEq, false_or, List.mem_flatMap, List.mem_map,
            List.cons.injEq, Prod.exists, List.mem_zipIdx_iff_getElem?]
          constructor
          · rintro ⟨child, position, found, below, inChild, same, rfl⟩
            subst position
            rw [found, Option.bind_some]
            exact (ih child (mem_children_of_named found) below).mp inChild
          · intro reached
            obtain ⟨child, found⟩ :=
              Option.isSome_iff_exists.mp (Option.isSome_of_isSome_bind reached)
            rw [found, Option.bind_some] at reached
            have inChild := (ih child (mem_children_of_named found) rest).mpr reached
            exact ⟨child, index, found, rest, inChild, rfl, rfl⟩

private theorem zipIdx_pairwise_lt {α : Type} (items : List α) (first : Nat) :
    (items.zipIdx first).Pairwise fun left right => left.2 < right.2 := by
  induction items generalizing first with
  | nil => exact List.Pairwise.nil
  | cons head tail ih =>
      rw [List.zipIdx_cons, List.pairwise_cons]
      constructor
      · intro entry member
        exact List.le_snd_of_mem_zipIdx member
      · exact ih (first + 1)

theorem addresses_pairwise_lt (tree : Tree) : tree.addresses.Pairwise (· < ·) := by
  induction tree with
  | step tree ih =>
      rw [addresses_eq, List.pairwise_cons]
      constructor
      · intro address member
        obtain ⟨entry, _, inEntry⟩ := List.mem_flatMap.mp member
        obtain ⟨below, _, rfl⟩ := List.mem_map.mp inEntry
        exact List.nil_lt_cons _ _
      · rw [List.pairwise_flatMap]
        constructor
        · rintro ⟨child, index⟩ member
          have found := List.mem_zipIdx_iff_getElem?.mp member
          rw [List.pairwise_map]
          refine (ih child (mem_children_of_named found)).imp ?_
          intro left right before
          exact List.cons_lt_cons_iff.mpr (Or.inr ⟨rfl, before⟩)
        · refine (zipIdx_pairwise_lt _ 0).imp ?_
          intro left right before first inLeft second inRight
          obtain ⟨upper, _, rfl⟩ := List.mem_map.mp inLeft
          obtain ⟨lower, _, rfl⟩ := List.mem_map.mp inRight
          exact List.cons_lt_cons_iff.mpr (Or.inl before)

end Tree

end InjectionLint
