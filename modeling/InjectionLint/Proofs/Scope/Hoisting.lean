import InjectionLint.Proofs.Scope.Ownership

/-!
Where a `var` is bound. The nearest function around it, or the program, takes it in, provided that the
way down from there passes no class and no other declaration and enters the function by its body. The
grammars see to that everywhere but in two places: in the static block of a class, whose statements no
function or program takes in, and in a namespace that stands as an operand.

Main statement: every other `var` resolves to a frame of its function or of a scope inside that
function (`var_bound_within_function`); in a static block a `var` may have no binding at all
(`static_var_unbound`).
-/

set_option autoImplicit false

namespace InjectionLint

namespace Address

def stretch (holder address : Address) : List Address :=
  address.inits.filter fun upper => holder <+: upper ∧ upper ≠ holder ∧ upper ≠ address

theorem mem_stretch_iff {holder upper address : Address} :
    upper ∈ stretch holder address ↔
      upper <+: address ∧ holder <+: upper ∧ upper ≠ holder ∧ upper ≠ address := by
  rw [stretch, List.mem_filter, List.mem_inits, decide_eq_true_eq]

end Address

namespace Kind

def classStaticBlock : Kind := .other "class_static_block"

def namespaceBlock : Kind := .other "internal_module"

/-- The kinds of nodes that hold statements, as the grammars have them. Each is itself a statement or
a part of one. -/
def holdsStatements : Kind → Bool
  | .program | .statementBlock | .switchBody | .forStatement | .forInStatement | .catchClause => true
  | .other name =>
    name ∈ ["export_statement", "if_statement", "else_clause", "while_statement", "do_statement",
      "with_statement", "labeled_statement", "switch_statement", "switch_case", "switch_default",
      "try_statement", "finally_clause", "ambient_declaration", "module", "expression_statement"]
  | _ => false

private theorem not_sealed_of_holdsStatements {kind : Kind} (holds : kind.holdsStatements = true) :
    kind.isSealed = false := by
  cases kind <;> first | rfl | cases holds

private theorem not_function_of_holdsStatements {kind : Kind}
    (holds : kind.holdsStatements = true) :
    kind.isFunction = false := by
  cases kind <;> first | rfl | cases holds

end Kind

namespace Tree

/-- The nearest function around an address, or the root if there is none. -/
structure IsVarScope (tree : Tree) (holder address : Address) : Prop where
  above : holder <+: address
  proper : holder ≠ address
  opens : holder = [] ∨ ∀ node ∈ tree.nodeAt? holder, node.kind.isFunction = true
  nearest : ∀ upper ∈ Address.stretch holder address, ∀ node ∈ tree.nodeAt? upper,
    node.kind.isFunction = false

/-- Where the grammars let a statement stand: in a node that holds statements, in a namespace or in the
static block of a class, or as the body of a function. -/
def Admits (parent child : Tree) : Prop :=
  parent.kind.holdsStatements = true ∨ parent.kind = .namespaceBlock ∨
    parent.kind = .classStaticBlock ∨
    parent.kind.isFunction = true ∧ child.kind = .statementBlock ∧
      child.label.field = some .body ∧
      (parent.children.filter fun other => other.label.field = some .body).length = 1

def StatementsInPlace (tree : Tree) : Prop :=
  ∀ address ∈ tree.addresses, ∀ node ∈ tree.nodeAt? address, ∀ child ∈ node.namedChildren,
    child.kind = .variableDeclaration ∨ child.kind.holdsStatements = true → node.Admits child

instance (parent child : Tree) : Decidable (parent.Admits child) :=
  inferInstanceAs (Decidable (parent.kind.holdsStatements = true ∨ parent.kind = .namespaceBlock ∨
    parent.kind = .classStaticBlock ∨
    parent.kind.isFunction = true ∧ child.kind = .statementBlock ∧
      child.label.field = some .body ∧
      (parent.children.filter fun other => other.label.field = some .body).length = 1))

instance (tree : Tree) : Decidable tree.StatementsInPlace :=
  inferInstanceAs (Decidable (∀ address ∈ tree.addresses, ∀ node ∈ tree.nodeAt? address,
    ∀ child ∈ node.namedChildren,
      child.kind = .variableDeclaration ∨ child.kind.holdsStatements = true → node.Admits child))

/-- The way from a function or the program down to an address leads through statements only: not into
the static block of a class, and into a namespace only where that is a statement. -/
def LeadsThroughStatements (tree : Tree) (holder address : Address) : Prop :=
  ∀ upper ∈ Address.stretch holder address, ∀ node ∈ tree.nodeAt? upper,
    node.kind ≠ .classStaticBlock ∧
    (node.kind = .namespaceBlock → ∀ parent ∈ tree.nodeAt? upper.dropLast,
      parent.kind.holdsStatements = true)

instance (tree : Tree) (holder address : Address) : Decidable (tree.IsVarScope holder address) :=
  decidable_of_iff
    (holder <+: address ∧ holder ≠ address ∧
      (holder = [] ∨ ∀ node ∈ tree.nodeAt? holder, node.kind.isFunction = true) ∧
      ∀ upper ∈ Address.stretch holder address, ∀ node ∈ tree.nodeAt? upper,
        node.kind.isFunction = false)
    ⟨fun ⟨above, proper, opens, nearest⟩ => ⟨above, proper, opens, nearest⟩,
      fun scope => ⟨scope.above, scope.proper, scope.opens, scope.nearest⟩⟩

instance (tree : Tree) (holder address : Address) :
    Decidable (tree.LeadsThroughStatements holder address) :=
  inferInstanceAs (Decidable (∀ upper ∈ Address.stretch holder address,
    ∀ node ∈ tree.nodeAt? upper, node.kind ≠ .classStaticBlock ∧
      (node.kind = .namespaceBlock → ∀ parent ∈ tree.nodeAt? upper.dropLast,
        parent.kind.holdsStatements = true)))

private theorem nodeAt?_concat {tree node child : Tree} {upper : Address} {index : Nat}
    (atUpper : tree.nodeAt? upper = some node) (isChild : node.namedChildren[index]? = some child) :
    tree.nodeAt? (upper ++ [index]) = some child := by
  rw [nodeAt?_append, atUpper, Option.bind_some, nodeAt?_cons_of_child isChild, nodeAt?_nil]

theorem StatementsInPlace.admits {tree node child : Tree} {upper : Address} {index : Nat}
    (placed : tree.StatementsInPlace) (atUpper : tree.nodeAt? upper = some node)
    (isChild : node.namedChildren[index]? = some child)
    (statement : child.kind = .variableDeclaration ∨ child.kind.holdsStatements = true) :
    node.Admits child := by
  have listed : upper ∈ tree.addresses := by
    rw [mem_addresses_iff, atUpper]
    rfl
  exact placed upper listed node atUpper child (List.mem_of_getElem? isChild) statement

private theorem child?_eq_some_of_only {tree child : Tree} {field : Field}
    (isChild : child ∈ tree.children)
    (role : child.label.field = some field)
    (only : (tree.children.filter fun other => other.label.field = some field).length = 1) :
    tree.child? field = some child := by
  obtain ⟨sole, found⟩ := List.length_eq_one_iff.mp only
  have member : child ∈ tree.children.filter fun other => other.label.field = some field :=
    List.mem_filter.mpr ⟨isChild, decide_eq_true role⟩
  rw [found, List.mem_singleton] at member
  rw [child?, ← List.head?_filter, found, member, List.head?_cons]

end Tree

/-! ### A scope that takes in a `var` -/

namespace Declaration

theorem isReached_of_unsealed {scope : ScopeKind} (boundary : scope.isBoundary = true)
    {container : Tree} {address : Address} (below : address ≠ [])
    (unsealed : ∀ upper ∈ Address.stretch [] address, ∀ node ∈ container.nodeAt? upper,
      node.kind.isSealed = false) :
    isReached scope container address = true := by
  have passable : ∀ entry ∈ container.passed address,
      (!entry.1.kind.isSealed && (scope.isBoundary || entry.2.isNone)) = true := by
    intro entry passed
    obtain ⟨upper, between, opening⟩ := List.mem_filterMap.mp passed
    obtain ⟨node, atUpper, rfl⟩ := Option.map_eq_some_iff.mp opening
    have onWay : upper <+: address.dropLast := (List.mem_inits _ _).mp (List.mem_of_mem_tail between)
    have proper : upper ≠ address := by
      rintro rfl
      have shorter := onWay.length_le
      rw [List.length_dropLast] at shorter
      have positive := List.length_pos_iff.mpr below
      omega
    have inStretch : upper ∈ Address.stretch [] address :=
      Address.mem_stretch_iff.mpr ⟨onWay.trans (List.dropLast_prefix address), List.nil_prefix,
        Address.ne_nil_of_mem_between between, proper⟩
    have unsealedHere := unsealed upper inStretch node atUpper
    rw [unsealedHere, boundary]
    rfl
  unfold isReached
  rw [Bool.and_eq_true, decide_eq_true_eq]
  exact ⟨below, List.all_eq_true.mpr passable⟩

theorem mem_owned_of_reached {scope : ScopeKind} (boundary : scope.isBoundary = true)
    {tree container node : Tree} {address : Address} {site : Declaration}
    (holds : container? scope tree = some container)
    (found : container.nodeAt? address = some node) (isVar : node.kind = .variableDeclaration)
    (reached : isReached scope container address = true) (stands : site ∈ declared .varName node) :
    site ∈ owned scope tree := by
  have listed : address ∈ container.addresses := by
    rw [Tree.mem_addresses_iff, found]
    rfl
  have atAddress : site ∈ ownedAt scope container address := by
    simp only [ownedAt, found, reached, if_true, standingAt, isVar, boundary]
    exact stands
  unfold owned
  rw [holds]
  apply List.mem_append_right
  simp only [Option.toList_some, List.flatMap_singleton]
  exact List.mem_flatMap.mpr ⟨address, listed, atAddress⟩

private theorem mem_declared_of_plain {kind : BindingKind} {declaration declarator name : Tree}
    (member : declarator ∈ declaration.namedChildren)
    (isDeclarator : declarator.kind = .variableDeclarator)
    (named : declarator.child? .name = some name) (plain : name.kind = .identifier) :
    ⟨name, kind, declarator.child? .value⟩ ∈ declared kind declaration := by
  unfold declared
  refine List.mem_flatMap.mpr ⟨declarator, ?_, ?_⟩
  · exact List.mem_filter.mpr ⟨member, decide_eq_true isDeclarator⟩
  · rw [named, Option.toList_some, List.flatMap_singleton, if_pos plain]
    exact List.mem_singleton.mpr rfl

end Declaration

/-! ### Resolution no further out than a frame that binds the name -/

/-- At an address a name has a binding, and the frame that supplies it belongs to a node from `holder`
on: no frame further in binds the name. -/
def BoundWithin (source : String) (tree : Tree) (holder address : Address) (name : String) : Prop :=
  ∃ binding supplier frame,
    (Chain.ofAddress source tree address).resolve? name = some binding ∧
    holder <+: supplier ∧ supplier <+: address ∧
    Frame.ofAddress? source tree supplier = some frame ∧ frame.get? name = some binding ∧
    ∀ inner, inner <+: address → supplier.length < inner.length →
      ∀ nearer, Frame.ofAddress? source tree inner = some nearer → nearer.get? name = none

theorem boundWithin_of_frame {source name : String} {tree : Tree} {holder address : Address}
    {frame : Frame} (above : holder <+: address)
    (atHolder : Frame.ofAddress? source tree holder = some frame) (binds : frame.get? name ≠ none) :
    BoundWithin source tree holder address name := by
  have resolves : (Chain.ofAddress source tree address).resolve? name ≠ none := by
    intro unresolved
    rw [Chain.resolve?_ofAddress_eq_none_iff] at unresolved
    exact binds (unresolved holder above frame atHolder)
  obtain ⟨binding, resolved⟩ := Option.ne_none_iff_exists'.mp resolves
  obtain ⟨supplier, onWay, ⟨nearest, atSupplier, bound⟩, silent⟩ :=
    (Chain.resolve?_ofAddress_eq_some_iff source tree address name binding).mp resolved
  refine ⟨binding, supplier, nearest, resolved, ?_, onWay, atSupplier, bound, silent⟩
  -- A supplier above the holder would leave the holder's own frame silent about the name.
  have notShorter : holder.length ≤ supplier.length := by
    by_contra shorter
    exact binds (silent holder above (Nat.lt_of_not_le shorter) frame atHolder)
  exact List.prefix_of_prefix_length_le above onWay notShorter

/-! ### The way from a function or the program to a `var` -/

private theorem ScopeKind.opened?_of_function {kind : Kind} (isFunction : kind.isFunction = true)
    (parent : Option Kind) : opened? parent kind = some .function := by
  cases kind <;> first | rfl | cases isFunction

section Way

variable {source : String} {tree declaration declarator name : Tree} {holder address : Address}

theorem Tree.IsVarScope.admits_next (scope : tree.IsVarScope holder address)
    (placed : tree.StatementsInPlace) (leads : tree.LeadsThroughStatements holder address)
    (found : tree.nodeAt? address = some declaration)
    (isVar : declaration.kind = .variableDeclaration)
    {upper rest : Address} {index : Nat} {node child : Tree}
    (split : address = upper ++ index :: rest) (inside : holder <+: upper)
    (atUpper : tree.nodeAt? upper = some node) (isChild : node.namedChildren[index]? = some child) :
    node.Admits child := by
  -- From the declaration upwards: a node that takes in a statement is a statement itself.
  induction rest generalizing upper index node child with
  | nil =>
      have same : some child = some declaration := by
        rw [← found, split, Tree.nodeAt?_concat atUpper isChild]
      obtain rfl := Option.some.inj same
      exact placed.admits atUpper isChild (Or.inl isVar)
  | cons next further ih =>
      have atChild := Tree.nodeAt?_concat atUpper isChild
      have lower : address = (upper ++ [index]) ++ next :: further := by
        rw [split, List.append_assoc, List.singleton_append]
      have inside' : holder <+: upper ++ [index] := inside.trans (List.prefix_append _ _)
      have between : upper ++ [index] ∈ Address.stretch holder address := by
        refine Address.mem_stretch_iff.mpr ⟨⟨next :: further, lower.symm⟩, inside', ?_, ?_⟩
        · rintro rfl
          exact absurd inside.length_le (by simp)
        · rw [lower]
          simp
      obtain ⟨grandchild, isGrandchild, _⟩ : ∃ grandchild,
          child.namedChildren[next]? = some grandchild ∧
            grandchild.nodeAt? further = some declaration := by
        rw [lower, Tree.nodeAt?_append, atChild, Option.bind_some, Tree.nodeAt?_cons] at found
        exact Option.bind_eq_some_iff.mp found
      obtain ⟨notStatic, asStatement⟩ := leads _ between child atChild
      rcases ih lower inside' atChild isGrandchild with holds | isNamespace | isStatic | isBody
      · exact placed.admits atUpper isChild (Or.inr holds)
      · left
        apply asStatement isNamespace node
        rw [List.dropLast_concat]
        exact atUpper
      · exact absurd isStatic notStatic
      · have notFunction := scope.nearest _ between child atChild
        rw [isBody.1] at notFunction
        cases notFunction

theorem Tree.IsVarScope.unsealed_between (scope : tree.IsVarScope holder address)
    (placed : tree.StatementsInPlace) (leads : tree.LeadsThroughStatements holder address)
    (found : tree.nodeAt? address = some declaration)
    (isVar : declaration.kind = .variableDeclaration) {upper : Address} {node : Tree}
    (between : upper ∈ Address.stretch holder address)
    (atUpper : tree.nodeAt? upper = some node) : node.kind.isSealed = false := by
  obtain ⟨⟨remaining, split⟩, inside, _, proper⟩ := Address.mem_stretch_iff.mp between
  cases remaining with
  | nil => exact absurd (by rw [← split, List.append_nil]) proper
  | cons index rest =>
      obtain ⟨child, isChild, _⟩ : ∃ child, node.namedChildren[index]? = some child ∧
          child.nodeAt? rest = some declaration := by
        rw [← split, Tree.nodeAt?_append, atUpper, Option.bind_some, Tree.nodeAt?_cons] at found
        exact Option.bind_eq_some_iff.mp found
      rcases scope.admits_next placed leads found isVar split.symm inside atUpper isChild with
        holds | isNamespace | isStatic | isBody
      · exact Kind.not_sealed_of_holdsStatements holds
      · rw [isNamespace]
        rfl
      · rw [isStatic]
        rfl
      · have notFunction := scope.nearest upper between node atUpper
        rw [isBody.1] at notFunction
        cases notFunction

theorem get?_ne_none_of_reached {scope : ScopeKind} (boundary : scope.isBoundary = true)
    {container : Tree} (holds : Declaration.container? scope tree = some container)
    (found : container.nodeAt? address = some declaration)
    (isVar : declaration.kind = .variableDeclaration)
    (reached : Declaration.isReached scope container address = true) {site : Declaration}
    (stands : site ∈ Declaration.declared .varName declaration)
    (nonempty : site.name.text source ≠ "") :
    (Frame.ofScope source scope tree).get? (site.name.text source) ≠ none := by
  intro unbound
  rcases (Frame.get?_ofScope_eq_none_iff source scope tree _).mp unbound with empty | absent
  · exact nonempty empty
  · exact absent site (Declaration.mem_owned_of_reached boundary holds found isVar reached stands) rfl

theorem programFrame_binds (root : tree.kind = .program)
    (scope : tree.IsVarScope [] address) (placed : tree.StatementsInPlace)
    (leads : tree.LeadsThroughStatements [] address)
    (found : tree.nodeAt? address = some declaration)
    (isVar : declaration.kind = .variableDeclaration) {site : Declaration}
    (stands : site ∈ Declaration.declared .varName declaration)
    (nonempty : site.name.text source ≠ "") :
    ∃ frame, Frame.ofAddress? source tree [] = some frame ∧
      frame.get? (site.name.text source) ≠ none := by
  have opened : Visit.rootFrame source ⟨none, tree⟩ = .ofScope source .program tree := by
    simp only [Visit.rootFrame, root, ScopeKind.opened?, Option.getD_some]
  have reached : Declaration.isReached .program tree address = true :=
    Declaration.isReached_of_unsealed rfl scope.proper.symm fun _ between _ atUpper =>
      scope.unsealed_between placed leads found isVar between atUpper
  refine ⟨_, Frame.ofAddress?_nil source tree, ?_⟩
  rw [opened]
  exact get?_ne_none_of_reached rfl rfl found isVar reached stands nonempty

theorem functionFrame_binds {function : Tree} (atHolder : tree.nodeAt? holder = some function)
    (isFunction : function.kind.isFunction = true)
    (scope : tree.IsVarScope holder address) (placed : tree.StatementsInPlace)
    (leads : tree.LeadsThroughStatements holder address)
    (found : tree.nodeAt? address = some declaration)
    (isVar : declaration.kind = .variableDeclaration) {site : Declaration}
    (stands : site ∈ Declaration.declared .varName declaration)
    (nonempty : site.name.text source ≠ "") :
    ∃ frame, Frame.ofAddress? source tree holder = some frame ∧
      frame.get? (site.name.text source) ≠ none := by
  have opened : Frame.ofAddress? source tree holder = some (.ofScope source .function function) := by
    simp only [Frame.ofAddress?, Tree.scopeAt?, atHolder, Option.bind_some,
      ScopeKind.opened?_of_function isFunction, Option.some_or, Option.map_some]
  refine ⟨_, opened, ?_⟩
  obtain ⟨remaining, split⟩ := scope.above
  cases remaining with
  | nil => exact absurd (by rw [← split, List.append_nil]) scope.proper
  | cons index rest =>
      obtain ⟨body, isChild, inBody⟩ : ∃ body, function.namedChildren[index]? = some body ∧
          body.nodeAt? rest = some declaration := by
        rw [← split, Tree.nodeAt?_append, atHolder, Option.bind_some, Tree.nodeAt?_cons] at found
        exact Option.bind_eq_some_iff.mp found
      rcases scope.admits_next placed leads found isVar split.symm List.prefix_rfl atHolder isChild
        with holds | isNamespace | isStatic | ⟨_, block, role, only⟩
      · rw [Kind.not_function_of_holdsStatements holds] at isFunction
        cases isFunction
      · rw [isNamespace] at isFunction
        cases isFunction
      · rw [isStatic] at isFunction
        cases isFunction
      · have holds : Declaration.container? .function function = some body := by
          rw [Declaration.container?,
            Tree.child?_eq_some_of_only (Tree.mem_children_of_named isChild) role only,
            Option.filter_some, decide_eq_true block, if_pos rfl]
        have below : rest ≠ [] := by
          rintro rfl
          obtain rfl := Option.some.inj inBody
          rw [block] at isVar
          cases isVar
        have reached : Declaration.isReached .function body rest = true := by
          apply Declaration.isReached_of_unsealed rfl below
          intro upper inStretch node atUpper
          obtain ⟨⟨further, onWay⟩, _, _, proper⟩ := Address.mem_stretch_iff.mp inStretch
          have whole : holder ++ index :: upper ++ further = address := by
            rw [← split, ← onWay, List.append_assoc, List.cons_append]
          have between : holder ++ index :: upper ∈ Address.stretch holder address := by
            refine Address.mem_stretch_iff.mpr
              ⟨⟨further, whole⟩, List.prefix_append _ _, by simp, ?_⟩
            intro same
            rw [← split, List.append_cancel_left_eq, List.cons.injEq] at same
            exact proper same.2
          refine scope.unsealed_between placed leads found isVar between ?_
          rw [Tree.nodeAt?_append, atHolder, Option.bind_some, Tree.nodeAt?_cons_of_child isChild,
            atUpper]
        exact get?_ne_none_of_reached rfl holds inBody isVar reached stands nonempty

end Way

/-- In a program that follows the grammars, a `var` outside of static blocks has a binding where it
stands. The frame that supplies it belongs to the nearest function around the declaration, or to the
program if there is none, or to a scope further in. -/
theorem var_bound_within_function (source : String) (tree : Tree) (root : tree.kind = .program)
    (placed : tree.StatementsInPlace) (holder address : Address)
    (scope : tree.IsVarScope holder address) (leads : tree.LeadsThroughStatements holder address)
    (declaration declarator name : Tree) (found : tree.nodeAt? address = some declaration)
    (isVar : declaration.kind = .variableDeclaration)
    (member : declarator ∈ declaration.namedChildren)
    (isDeclarator : declarator.kind = .variableDeclarator)
    (named : declarator.child? .name = some name) (plain : name.kind = .identifier)
    (nonempty : name.text source ≠ "") :
    BoundWithin source tree holder address (name.text source) := by
  have stands : ⟨name, .varName, declarator.child? .value⟩ ∈
      Declaration.declared .varName declaration :=
    Declaration.mem_declared_of_plain member isDeclarator named plain
  have binds : ∃ frame, Frame.ofAddress? source tree holder = some frame ∧
      frame.get? (name.text source) ≠ none := by
    rcases scope.opens with rfl | isFunction
    · exact programFrame_binds root scope placed leads found isVar stands nonempty
    · obtain ⟨function, atHolder⟩ : ∃ function, tree.nodeAt? holder = some function := by
        obtain ⟨remaining, rfl⟩ := scope.above
        rw [Tree.nodeAt?_append] at found
        obtain ⟨function, atHolder, _⟩ := Option.bind_eq_some_iff.mp found
        exact ⟨function, atHolder⟩
      exact functionFrame_binds atHolder (isFunction function atHolder) scope placed leads found
        isVar stands nonempty
  obtain ⟨frame, atHolder, bound⟩ := binds
  exact boundWithin_of_frame scope.above atHolder bound

def varInBranch : Tree :=
  .node ⟨.program, 0, 38, none, true, none, false⟩
    [.node ⟨.functionDeclaration, 0, 38, none, true, none, false⟩
      [.node ⟨.identifier, 9, 10, some .name, true, none, false⟩ [],
        .node ⟨.other "formal_parameters", 10, 12, some .parameters, true, none, false⟩ [],
        .node ⟨.statementBlock, 13, 38, some .body, true, none, false⟩
          [.node ⟨.other "if_statement", 15, 36, none, true, none, false⟩
            [.node ⟨.parenthesizedExpression, 18, 21, some (.other "condition"), true, none, false⟩
                [.node ⟨.identifier, 19, 20, none, true, none, false⟩ []],
              .node ⟨.statementBlock, 22, 36, some (.other "consequence"), true, none, false⟩
                [.node ⟨.variableDeclaration, 24, 34, none, true, none, false⟩
                  [.node ⟨.variableDeclarator, 28, 33, none, true, none, false⟩
                    [.node ⟨.identifier, 28, 29, some .name, true, none, false⟩ [],
                      .node ⟨.numberLiteral, 32, 33, some .value, true, none, false⟩ []]]]]]]]

theorem var_bound_in_branch :
    BoundWithin "function f() { if (a) { var q = 1; } }" varInBranch [0] [0, 2, 0, 1, 0]
      "q" := by
  refine var_bound_within_function _ varInBranch rfl (by decide +kernel) [0] [0, 2, 0, 1, 0]
    (by decide +kernel) (by decide +kernel) _ _ _ rfl rfl (List.mem_singleton.mpr rfl) rfl rfl rfl ?_
  decide +kernel

def varInStaticBlock : Tree :=
  .node ⟨.program, 0, 33, none, true, none, false⟩
    [.node ⟨.classDeclaration, 0, 33, none, true, none, false⟩
      [.node ⟨.identifier, 6, 7, some .name, true, none, false⟩ [],
        .node ⟨.other "class_body", 8, 33, some .body, true, none, false⟩
          [.node ⟨.classStaticBlock, 10, 31, some (.other "member"), true, none, false⟩
            [.node ⟨.statementBlock, 17, 31, some .body, true, none, false⟩
              [.node ⟨.variableDeclaration, 19, 29, none, true, none, false⟩
                [.node ⟨.variableDeclarator, 23, 28, none, true, none, false⟩
                  [.node ⟨.identifier, 23, 24, some .name, true, none, false⟩ [],
                    .node ⟨.numberLiteral, 27, 28, some .value, true, none, false⟩ []]]]]]]]

/-- Without the condition on the way the statement fails: the `var` of a static block is bound by no
frame on the way to it, not even by that of the program. -/
theorem static_var_unbound :
    varInStaticBlock.kind = .program ∧ varInStaticBlock.StatementsInPlace ∧
    varInStaticBlock.IsVarScope [] [0, 1, 0, 0, 0] ∧
    (varInStaticBlock.nodeAt? [0, 1, 0, 0, 0]).map Tree.kind = some .variableDeclaration ∧
    (varInStaticBlock.nodeAt? [0, 1, 0, 0, 0, 0]).bind (·.childKind? .name) = some .identifier ∧
    ((varInStaticBlock.nodeAt? [0, 1, 0, 0, 0, 0]).bind (·.child? .name)).map
      (Tree.text "class C { static { var q = 1; } }") = some "q" ∧
    (Chain.ofAddress "class C { static { var q = 1; } }" varInStaticBlock
      [0, 1, 0, 0, 0]).resolve? "q" = none := by
  refine ⟨rfl, by decide +kernel, by decide +kernel, rfl, rfl, by decide +kernel, ?_⟩
  decide +kernel

end InjectionLint
