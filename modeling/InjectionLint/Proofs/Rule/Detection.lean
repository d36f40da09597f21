import InjectionLint.Proofs.Scope.Chain
import InjectionLint.Scan.Source

/-!
What detection finds in a tree, node by node. Each node has one rule at most, told by its own shape; the
warnings of a tree are those of its nodes in pre-order, each rule being given the chain of frames that
belongs to the node's address.
-/

set_option autoImplicit false

namespace InjectionLint

namespace Rule

def emitted (source : String) (visit : Visit) : List Warning :=
  if visit.tree.kind = .parenthesizedExpression then []
  else
    match Expr.classify visit.tree with
    | .binary binary => additionWarnings source binary
    | .template template => templateWarnings source template
    | .call call => callWarnings source visit.chain call
    | _ => []

private theorem bare_of_not_parenthesized {tree : Tree}
    (plain : tree.kind ≠ .parenthesizedExpression) : tree.bare = tree := by
  cases tree with
  | node label children =>
      change label.kind ≠ .parenthesizedExpression at plain
      rw [Tree.bare, if_neg plain]

theorem atVisit_eq_emitted (source : String) (visit : Visit) :
    atVisit source visit = emitted source visit := by
  unfold atVisit emitted Expr.at?
  by_cases parenthesized : visit.tree.kind = .parenthesizedExpression
  · simp only [if_pos parenthesized]
  · simp only [if_neg parenthesized, Expr.ofTree, bare_of_not_parenthesized parenthesized]
    cases Expr.classify visit.tree with
    | binary binary => exact List.append_nil _
    | template template => exact List.append_nil _
    | call call => exact List.append_nil _
    | identifier node => rfl
    | member node => rfl
    | stringLiteral node => rfl
    | numericLiteral node => rfl
    | booleanLiteral node => rfl
    | other node => rfl

theorem detect_eq_flatMap_emitted (source : String) (tree : Tree) :
    detect source tree =
      (tree.addresses.filterMap (Visit.ofAddress? source tree)).flatMap (emitted source) := by
  unfold detect
  rw [Visit.visits_eq_addresses]
  apply List.flatMap_congr
  intro visit _
  exact atVisit_eq_emitted source visit

def atAddress (source : String) (tree : Tree) (address : Address) : List Warning :=
  (Visit.ofAddress? source tree address).toList.flatMap (atVisit source)

theorem detect_eq_flatMap_atAddress (source : String) (tree : Tree) :
    detect source tree = tree.addresses.flatMap (atAddress source tree) := by
  unfold detect
  rw [Visit.visits_eq_addresses, List.filterMap_eq_flatMap_toList, List.flatMap_assoc]
  rfl

theorem atAddress_of_nodeAt? (source : String) {tree node : Tree} {address : Address}
    (found : tree.nodeAt? address = some node) :
    atAddress source tree address = emitted source ⟨node, .ofAddress source tree address⟩ := by
  rw [atAddress, Visit.ofAddress?, found, Option.map_some, Option.toList_some,
    List.flatMap_singleton, atVisit_eq_emitted]

end Rule

/-- Detection returns what the rules emit at the nodes of the tree, in pre-order. The addresses are
those of all named nodes, none of them twice; every node is handed the frames on the way to its address,
and along these a name has the binding of the nearest frame that binds it. -/
theorem detectInjection_preorder (parsed : ParsedSource) :
    parsed.tree.addresses.Pairwise (· < ·) ∧
    (∀ address, address ∈ parsed.tree.addresses ↔
      (parsed.tree.nodeAt? address).isSome = true) ∧
    Visit.all parsed.source ⟨none, parsed.tree⟩ =
      parsed.tree.addresses.filterMap (Visit.ofAddress? parsed.source parsed.tree) ∧
    (detectInjection parsed).value =
      (parsed.tree.addresses.filterMap (Visit.ofAddress? parsed.source parsed.tree)).flatMap
        (Rule.emitted parsed.source) ∧
    ∀ address name,
      (∀ binding, (Chain.ofAddress parsed.source parsed.tree address).resolve? name = some binding ↔
        NearestBinding parsed.source parsed.tree address name binding) ∧
      ((Chain.ofAddress parsed.source parsed.tree address).resolve? name = none ↔
        ∀ upper, upper <+: address → ∀ frame,
          Frame.ofAddress? parsed.source parsed.tree upper = some frame → frame.get? name = none) := by
  refine ⟨parsed.tree.addresses_pairwise_lt, parsed.tree.mem_addresses_iff,
    Visit.visits_eq_addresses parsed.source parsed.tree,
    Rule.detect_eq_flatMap_emitted parsed.source parsed.tree, ?_⟩
  intro address name
  constructor
  · intro binding
    exact Chain.resolve?_ofAddress_eq_some_iff parsed.source parsed.tree address name binding
  · exact Chain.resolve?_ofAddress_eq_none_iff parsed.source parsed.tree address name

end InjectionLint
