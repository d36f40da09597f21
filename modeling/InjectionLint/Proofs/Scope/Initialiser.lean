import InjectionLint.Proofs.Scope.Ownership
import InjectionLint.Proofs.Tree.Context

/-!
Where initialisers come from. Of all that a scope declares, only the plain name of a declarator has one,
and it is the declarator's value; parameters, names in patterns, functions and classes have none.

Main statement: `exists_declarator_of_ofScope`.
-/

set_option autoImplicit false

namespace InjectionLint

structure Tree.Initialises (declarator name value : Tree) : Prop where
  kind : declarator.kind = .variableDeclarator
  plain : name.kind = .identifier
  name : declarator.child? .name = some name
  value : declarator.child? .value = some value

namespace Declaration

variable {declaration : Declaration} {init : Tree}

theorem init_of_plain {kind : BindingKind} {names : List Tree}
    (member : declaration ∈ plain kind names) : declaration.init = none := by
  obtain ⟨name, _, rfl⟩ := List.mem_map.mp member
  rfl

private theorem exists_declarator_of_declared {kind : BindingKind} {site : Tree}
    (member : declaration ∈ declared kind site) (hasInit : declaration.init = some init) :
    ∃ declarator ∈ site.nodes, declarator.Initialises declaration.name init := by
  obtain ⟨declarator, listed, inDeclarator⟩ := List.mem_flatMap.mp member
  obtain ⟨isNamed, isDeclarator⟩ := List.mem_filter.mp listed
  have isChild : declarator ∈ site.children := (List.mem_filter.mp isNamed).1
  obtain ⟨name, hasName, inName⟩ := List.mem_flatMap.mp inDeclarator
  split at inName
  · rename_i isPlain
    obtain rfl := List.mem_singleton.mp inName
    exact ⟨declarator, Tree.mem_nodes_of_mem_children isChild, of_decide_eq_true isDeclarator,
      isPlain, Option.mem_toList.mp hasName, hasInit⟩
  · rw [init_of_plain inName] at hasInit
    cases hasInit

private theorem exists_declarator_of_standingAt {hoists own : Bool} {site : Tree}
    (member : declaration ∈ standingAt hoists own site) (hasInit : declaration.init = some init) :
    ∃ declarator ∈ site.nodes, declarator.Initialises declaration.name init := by
  unfold standingAt at member
  split at member
  case h_1 | h_3 =>
    split at member
    · exact exists_declarator_of_declared member hasInit
    · cases member
  case h_2 | h_4 | h_5 | h_6 =>
    split at member
    · rw [init_of_plain member] at hasInit
      cases hasInit
    · cases member
  case h_7 => cases member

private theorem exists_declarator_of_within {hoists own : Bool} {parent : Kind} {tree : Tree}
    (member : declaration ∈ within hoists own parent tree) (hasInit : declaration.init = some init) :
    ∃ declarator ∈ tree.nodes, declarator.Initialises declaration.name init := by
  induction tree generalizing own parent with
  | step tree ih =>
      rw [within_eq_standingAt] at member
      rcases List.mem_append.mp member with here | below
      · exact exists_declarator_of_standingAt here hasInit
      · split at below
        · obtain ⟨child, isNamed, inChild⟩ := List.mem_flatMap.mp below
          have isChild := (List.mem_filter.mp isNamed).1
          obtain ⟨declarator, isNode, initialises⟩ := ih child isChild inChild
          exact ⟨declarator, Tree.mem_nodes_of_child isChild isNode, initialises⟩
        · cases below

theorem init_of_headOf {scope : ScopeKind} {tree : Tree}
    (member : declaration ∈ headOf scope tree) : declaration.init = none := by
  unfold headOf at member
  cases scope with
  | function =>
      rcases List.mem_append.mp member with first | inParameters
      · rcases List.mem_append.mp first with inName | inParameter
        · split at inName
          · exact init_of_plain inName
          · cases inName
        · exact init_of_plain inParameter
      · exact init_of_plain inParameters
  | catchClause => exact init_of_plain member
  | loop =>
      simp only at member
      split at member
      · split at member
        · exact init_of_plain member
        · split at member
          · exact init_of_plain member
          · cases member
      · cases member
  | program => cases member
  | block => cases member

private theorem container_mem_nodes {scope : ScopeKind} {tree container : Tree}
    (holds : container? scope tree = some container) : container ∈ tree.nodes := by
  cases scope with
  | program | block | loop =>
      obtain rfl := Option.some.inj holds
      exact tree.self_mem_nodes
  | catchClause => exact Tree.mem_nodes_of_mem_children (List.mem_of_find?_eq_some holds)
  | function =>
      have isBody := (Option.filter_eq_some_iff.mp holds).1
      exact Tree.mem_nodes_of_mem_children (List.mem_of_find?_eq_some isBody)

theorem exists_declarator_of_ofScope {scope : ScopeKind} {tree : Tree}
    (member : declaration ∈ ofScope scope tree) (hasInit : declaration.init = some init) :
    ∃ declarator ∈ tree.nodes, declarator.Initialises declaration.name init := by
  rw [ofScope_eq_headOf] at member
  rcases List.mem_append.mp member with inHead | inside
  · rw [init_of_headOf inHead] at hasInit
    cases hasInit
  · obtain ⟨container, holds, inContainer⟩ := List.mem_flatMap.mp inside
    have isNode := container_mem_nodes (Option.mem_toList.mp holds)
    unfold ofContainer at inContainer
    rw [withinEach_eq_flatMap] at inContainer
    obtain ⟨child, isNamed, inChild⟩ := List.mem_flatMap.mp inContainer
    have isChild := (List.mem_filter.mp isNamed).1
    obtain ⟨declarator, inTree, initialises⟩ := exists_declarator_of_within inChild hasInit
    exact ⟨declarator, Tree.mem_nodes_trans (Tree.mem_nodes_of_child isChild inTree) isNode,
      initialises⟩

theorem init_of_ofScope {scope : ScopeKind} {tree : Tree}
    (member : declaration ∈ ofScope scope tree) (hasInit : declaration.init = some init) :
    init ∈ tree.nodes := by
  obtain ⟨declarator, isNode, initialises⟩ := exists_declarator_of_ofScope member hasInit
  have isValue := Tree.mem_nodes_of_mem_children (List.mem_of_find?_eq_some initialises.value)
  exact Tree.mem_nodes_trans isValue isNode

end Declaration

end InjectionLint
