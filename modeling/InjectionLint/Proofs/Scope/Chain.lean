import InjectionLint.Proofs.Tree.Address
import InjectionLint.Scope.Frame

/-!
The chain of frames at a node, read off the tree instead of carried along. Each prefix of a node's
address is the address of the node itself or of one above it, and has a frame of its own or none. The
chain at the node is made of these frames, the longest prefix first.

Main statements: a traversal hands exactly this chain to every node (`visits_eq_addresses`), and a name
is resolved by the longest prefix whose frame binds it (`resolve?_ofAddress_eq_some_iff`).
-/

set_option autoImplicit false

namespace InjectionLint

def Tree.scopeAt? (tree : Tree) (address : Address) : Option ScopeKind :=
  (tree.nodeAt? address).bind fun node =>
    ScopeKind.opened? (tree.parentKindAt? address) node.kind

/-- The frame of the node at an address. The root has one in any case, that of a program if it opens
no scope. -/
def Frame.ofAddress? (source : String) (tree : Tree) (address : Address) : Option Frame :=
  (tree.nodeAt? address).bind fun node =>
    ((tree.scopeAt? address).or (if address = [] then some .program else none)).map
      (.ofScope source · node)

def Chain.ofAddress (source : String) (tree : Tree) (address : Address) : Chain :=
  address.inits.reverse.filterMap (Frame.ofAddress? source tree)

def Visit.ofAddress? (source : String) (tree : Tree) (address : Address) : Option Visit :=
  (tree.nodeAt? address).map (⟨·, .ofAddress source tree address⟩)

/-- A binding of a name in a frame on the way to an address, no frame further in binding it. -/
def NearestBinding (source : String) (tree : Tree) (address : Address) (name : String)
    (binding : Binding) : Prop :=
  ∃ holder, holder <+: address ∧
    (∃ frame, Frame.ofAddress? source tree holder = some frame ∧
      frame.get? name = some binding) ∧
    ∀ inner, inner <+: address → holder.length < inner.length →
      ∀ frame, Frame.ofAddress? source tree inner = some frame → frame.get? name = none

/-! ### Frames along an address -/

namespace Tree

theorem scopeAt?_child {tree child : Tree} {index : Nat}
    (found : tree.namedChildren[index]? = some child) :
    tree.scopeAt? [index] = ScopeKind.opened? (some tree.kind) child.kind := by
  have above : tree.parentKindAt? [index] = some tree.kind := rfl
  rw [scopeAt?, nodeAt?_cons_of_child found, nodeAt?_nil, Option.bind_some, above]

theorem scopeAt?_below_child {tree child : Tree} {index : Nat}
    (found : tree.namedChildren[index]? = some child) {below : Address} (deeper : below ≠ []) :
    tree.scopeAt? (index :: below) = child.scopeAt? below := by
  have above : tree.parentKindAt? (index :: below) = child.parentKindAt? below := by
    simp only [parentKindAt?, List.cons_ne_nil, if_false, if_neg deeper,
      List.dropLast_cons_of_ne_nil deeper, nodeAt?_cons_of_child found]
  rw [scopeAt?, scopeAt?, nodeAt?_cons_of_child found, above]

end Tree

namespace Frame

theorem ofAddress?_nil (source : String) (tree : Tree) :
    ofAddress? source tree [] = some (Visit.rootFrame source ⟨none, tree⟩) := by
  change ((ScopeKind.opened? none tree.kind).or (some .program)).map (ofScope source · tree) = _
  cases opened : ScopeKind.opened? none tree.kind with
  | none => simp only [Option.none_or, Option.map_some, Visit.rootFrame, opened, Option.getD_none]
  | some scope =>
      simp only [Option.some_or, Option.map_some, Visit.rootFrame, opened, Option.getD_some]

private theorem ofAddress?_child (source : String) {tree child : Tree} {index : Nat}
    (found : tree.namedChildren[index]? = some child) :
    ofAddress? source tree [index] =
      (ScopeKind.opened? (some tree.kind) child.kind).map (ofScope source · child) := by
  simp only [ofAddress?, Tree.nodeAt?_cons_of_child found, Tree.nodeAt?_nil, Option.bind_some,
    Tree.scopeAt?_child found, List.cons_ne_nil, if_false, Option.or_none]

private theorem ofAddress?_below_child (source : String) {tree child : Tree} {index : Nat}
    (found : tree.namedChildren[index]? = some child) {below : Address} (deeper : below ≠ []) :
    ofAddress? source tree (index :: below) = ofAddress? source child below := by
  simp only [ofAddress?, Tree.scopeAt?_below_child found deeper, Tree.nodeAt?_cons_of_child found,
    List.cons_ne_nil, if_false, if_neg deeper]

end Frame

namespace Chain

def belowRoot (source : String) (tree : Tree) (address : Address) : Chain :=
  address.inits.tail.reverse.filterMap (Frame.ofAddress? source tree)

theorem belowRoot_cons (source : String) {tree child : Tree} {index : Nat}
    (found : tree.namedChildren[index]? = some child) (rest : Address) :
    belowRoot source tree (index :: rest) =
      belowRoot source child rest ++
        ((ScopeKind.opened? (some tree.kind) child.kind).map
          (Frame.ofScope source · child)).toList := by
  have inChild : rest.inits.tail.filterMap
      (Frame.ofAddress? source tree ∘ fun below => index :: below) =
        rest.inits.tail.filterMap (Frame.ofAddress? source child) := by
    apply List.filterMap_congr
    intro below member
    exact Frame.ofAddress?_below_child source found (Address.ne_nil_of_mem_inits_tail member)
  have split : (index :: rest).inits.tail = [index] :: rest.inits.tail.map (index :: ·) := by
    rw [List.inits_cons, List.tail_cons]
    nth_rewrite 1 [Address.inits_eq_cons_tail rest]
    rfl
  simp only [belowRoot, split, List.filterMap_reverse, List.filterMap_cons, List.filterMap_map,
    inChild, Frame.ofAddress?_child source found]
  cases ScopeKind.opened? (some tree.kind) child.kind with
  | none => rw [Option.map_none, Option.toList_none, List.append_nil]
  | some scope => rw [Option.map_some, Option.toList_some, List.reverse_cons]

theorem ofAddress_eq_belowRoot (source : String) (tree : Tree) (address : Address) :
    ofAddress source tree address =
      belowRoot source tree address ++ [Visit.rootFrame source ⟨none, tree⟩] := by
  unfold ofAddress belowRoot
  nth_rewrite 1 [Address.inits_eq_cons_tail address]
  rw [List.reverse_cons, List.filterMap_append,
    List.filterMap_cons_some (Frame.ofAddress?_nil source tree), List.filterMap_nil]

end Chain

/-! ### Traversals -/

namespace Visit

theorem enter_eq_append (source : String) (chain : Chain) (parent : Kind) (tree : Tree) :
    enter source chain parent tree =
      ((ScopeKind.opened? (some parent) tree.kind).map (Frame.ofScope source · tree)).toList ++
        chain := by
  unfold enter
  cases ScopeKind.opened? (some parent) tree.kind with
  | none => rfl
  | some scope => rfl

private theorem belowEach_eq_flatMap (source : String) (chain : Chain) (parent : Kind)
    (children : List Tree) :
    belowEach source chain parent children =
      (children.filter Tree.isNamed).flatMap fun child =>
        below source (enter source chain parent child) child := by
  induction children with
  | nil => rfl
  | cons head tail ih => rw [belowEach, ih, Tree.flatMap_named_cons]

theorem below_eq_cons (source : String) (chain : Chain) (tree : Tree) :
    below source chain tree =
      ⟨tree, chain⟩ :: tree.namedChildren.flatMap fun child =>
        below source (enter source chain tree.kind child) child := by
  cases tree with
  | node label children =>
      rw [below, belowEach_eq_flatMap]
      rfl

/-- From a node on, a traversal goes through the addresses below it, and adds the frames on the way to
those that it came with. -/
theorem below_eq_filterMap (source : String) (chain : Chain) (tree : Tree) :
    below source chain tree =
      tree.addresses.filterMap fun address =>
        (tree.nodeAt? address).map (⟨·, Chain.belowRoot source tree address ++ chain⟩) := by
  induction tree generalizing chain with
  | step tree ih =>
      rw [below_eq_cons, List.filterMap_eq_flatMap_toList, Tree.flatMap_addresses]
      · rfl
      · intro index child found
        rw [ih child (Tree.mem_children_of_named found), List.filterMap_eq_flatMap_toList]
        apply List.flatMap_congr
        intro below _
        -- Entering the child puts its frame right below the frames of the way from there.
        rw [Tree.nodeAt?_cons_of_child found, Chain.belowRoot_cons source found, enter_eq_append,
          List.append_assoc]

theorem visits_eq_addresses (source : String) (tree : Tree) :
    all source ⟨none, tree⟩ = tree.addresses.filterMap (ofAddress? source tree) := by
  unfold all
  rw [below_eq_filterMap]
  apply List.filterMap_congr
  intro address _
  rw [ofAddress?, Chain.ofAddress_eq_belowRoot]

end Visit

/-! ### Resolution along an address -/

namespace Chain

private theorem inits_reverse_pairwise_length (address : Address) :
    address.inits.reverse.Pairwise fun inner outer => outer.length < inner.length := by
  rw [List.pairwise_reverse]
  induction address with
  | nil => exact List.pairwise_singleton _ _
  | cons index rest ih =>
      rw [List.inits_cons, List.pairwise_cons]
      constructor
      · intro inner member
        obtain ⟨below, _, rfl⟩ := List.mem_map.mp member
        exact Nat.succ_pos below.length
      · rw [List.pairwise_map]
        refine ih.imp ?_
        intro outer inner shorter
        exact Nat.succ_lt_succ shorter

private theorem mem_inits_reverse_iff {address upper : Address} :
    upper ∈ address.inits.reverse ↔ upper <+: address := by
  rw [List.mem_reverse, List.mem_inits]

private theorem bind_get?_eq_none_iff {source name : String} {tree : Tree} {address : Address} :
    (Frame.ofAddress? source tree address).bind (·.get? name) = none ↔
      ∀ frame, Frame.ofAddress? source tree address = some frame → frame.get? name = none := by
  cases Frame.ofAddress? source tree address with
  | none => simp
  | some frame => simp

theorem resolve?_ofAddress (source : String) (tree : Tree) (address : Address) (name : String) :
    (ofAddress source tree address).resolve? name =
      address.inits.reverse.findSome? fun upper =>
        (Frame.ofAddress? source tree upper).bind (·.get? name) := by
  unfold ofAddress resolve?
  induction address.inits.reverse with
  | nil => rfl
  | cons upper rest ih =>
      cases found : Frame.ofAddress? source tree upper with
      | none => rw [List.filterMap_cons_none found, ih, List.findSome?_cons, found]; rfl
      | some frame =>
          rw [List.filterMap_cons_some found, List.findSome?_cons, List.findSome?_cons, found, ih]
          rfl

theorem resolve?_ofAddress_eq_some_iff (source : String) (tree : Tree) (address : Address)
    (name : String) (binding : Binding) :
    (ofAddress source tree address).resolve? name = some binding ↔
      NearestBinding source tree address name binding := by
  rw [resolve?_ofAddress, List.findSome?_eq_some_iff]
  constructor
  · rintro ⟨inner, holder, outer, split, found, silent⟩
    obtain ⟨frame, atHolder, bound⟩ := Option.bind_eq_some_iff.mp found
    have above : holder <+: address := by
      rw [← mem_inits_reverse_iff, split]
      exact List.mem_append_right inner (List.mem_cons_self)
    refine ⟨holder, above, ⟨frame, atHolder, bound⟩, ?_⟩
    intro deeper onWay longer
    apply bind_get?_eq_none_iff.mp
    apply silent
    -- Prefixes of one address differ in length, so one longer than the holder stands before it.
    have ordered := inits_reverse_pairwise_length address
    rw [split, List.pairwise_append, List.pairwise_cons] at ordered
    have listed : deeper ∈ inner ++ holder :: outer := by
      rw [← split, mem_inits_reverse_iff]
      exact onWay
    rcases List.mem_append.mp listed with inInner | inRest
    · exact inInner
    · rcases List.mem_cons.mp inRest with same | inOuter
      · subst deeper
        exact absurd longer (Nat.lt_irrefl _)
      · exact absurd (ordered.2.1.1 deeper inOuter) (Nat.lt_asymm longer)
  · rintro ⟨holder, above, ⟨frame, atHolder, bound⟩, silent⟩
    obtain ⟨inner, outer, split⟩ := List.append_of_mem (mem_inits_reverse_iff.mpr above)
    refine ⟨inner, holder, outer, split, ?_, ?_⟩
    · rw [atHolder, Option.bind_some, bound]
    · intro deeper inInner
      have ordered := inits_reverse_pairwise_length address
      rw [split, List.pairwise_append] at ordered
      have longer := ordered.2.2 deeper inInner holder List.mem_cons_self
      have onWay : deeper <+: address := by
        rw [← mem_inits_reverse_iff, split]
        exact List.mem_append_left _ inInner
      exact bind_get?_eq_none_iff.mpr (silent deeper onWay longer)

theorem resolve?_ofAddress_eq_none_iff (source : String) (tree : Tree) (address : Address)
    (name : String) :
    (ofAddress source tree address).resolve? name = none ↔
      ∀ upper, upper <+: address → ∀ frame, Frame.ofAddress? source tree upper = some frame →
        frame.get? name = none := by
  rw [resolve?_ofAddress, List.findSome?_eq_none_iff]
  constructor
  · intro silent upper above
    exact bind_get?_eq_none_iff.mp (silent upper (mem_inits_reverse_iff.mpr above))
  · intro silent upper member
    exact bind_get?_eq_none_iff.mpr (silent upper (mem_inits_reverse_iff.mp member))

end Chain

end InjectionLint
