import InjectionLint.Proofs.Scope.Chain

/-!
The declarations that belong to a scope, told by where they stand. A scope has the declarations of its
head, and then those at the nodes of its container that are reached: no node strictly between the two
is a function, a class or a declaration, and none opens a scope unless the scope takes in `var`s.

Main statement: a frame binds the names that a declaration owned by its scope has, each to the first of
these declarations (`frame_binds_first_owned`).
-/

set_option autoImplicit false

namespace InjectionLint

/-- Functions, classes and declarations. What is inside belongs to no scope around them. -/
def Kind.isSealed : Kind → Bool
  | .classExpression | .classDeclaration | .lexicalDeclaration | .variableDeclaration => true
  | kind => kind.isFunction

def Tree.openingAt? (tree : Tree) (address : Address) : Option (Tree × Option ScopeKind) :=
  (tree.nodeAt? address).map (·, tree.scopeAt? address)

def Tree.passed (tree : Tree) (address : Address) : List (Tree × Option ScopeKind) :=
  address.between.filterMap tree.openingAt?

namespace Declaration

def plain (kind : BindingKind) (names : List Tree) : List Declaration :=
  names.map (⟨·, kind, none⟩)

def declared (kind : BindingKind) (declaration : Tree) : List Declaration :=
  (declaration.namedChildren.filter fun child => child.kind = .variableDeclarator).flatMap
    fun declarator => (declarator.child? .name).toList.flatMap fun name =>
      if name.kind = .identifier then [⟨name, kind, declarator.child? .value⟩]
      else plain kind name.boundNames

/-- The declarations that stand at a node: by `var` if the scope takes these in, and of any other sort
if the node is directly in the scope. -/
def standingAt (hoists direct : Bool) (node : Tree) : List Declaration :=
  match node.kind with
  | .variableDeclaration => if hoists then declared .varName node else []
  | .forInStatement =>
    if hoists && node.childKind? .kind = some .varKeyword then
      plain .varName ((node.child? .left).toList.flatMap Tree.boundNames)
    else []
  | .lexicalDeclaration =>
    if direct then
      declared (if node.childKind? .kind = some .constKeyword then .constName else .letName) node
    else []
  | .functionDeclaration | .generatorFunctionDeclaration =>
    if direct then plain .function (node.child? .name).toList else []
  | .classDeclaration => if direct then plain .classDeclaration (node.child? .name).toList else []
  | _ => []

def isReached (scope : ScopeKind) (container : Tree) (address : Address) : Bool :=
  address ≠ [] &&
    (container.passed address).all fun (node, opened) =>
      !node.kind.isSealed && (scope.isBoundary || opened.isNone)

def isDirect (container : Tree) (address : Address) : Bool :=
  (container.passed address).all fun (_, opened) => opened.isNone

def ownedAt (scope : ScopeKind) (container : Tree) (address : Address) : List Declaration :=
  match container.nodeAt? address with
  | some node =>
    if isReached scope container address then
      standingAt scope.isBoundary (isDirect container address) node
    else []
  | none => []

/-- The node that holds the statements of a scope. A function whose body is an expression has none. -/
def container? (scope : ScopeKind) (tree : Tree) : Option Tree :=
  match scope with
  | .program | .block | .loop => some tree
  | .catchClause => tree.child? .body
  | .function => (tree.child? .body).filter (·.kind = .statementBlock)

def headOf (scope : ScopeKind) (tree : Tree) : List Declaration :=
  match scope with
  | .function =>
    (if tree.kind ∈ [.functionExpression, .functionKeyword, .generatorFunction] then
      plain .function (tree.child? .name).toList else []) ++
    plain .parameter ((tree.child? .parameter).toList.flatMap Tree.boundNames) ++
    plain .parameter (((tree.child? .parameters).toList.flatMap Tree.namedChildren).flatMap
      Tree.boundNames)
  | .catchClause => plain .catchParameter ((tree.child? .parameter).toList.flatMap Tree.boundNames)
  | .loop =>
    if tree.kind = .forInStatement then
      if tree.childKind? .kind = some .letKeyword then
        plain .letName ((tree.child? .left).toList.flatMap Tree.boundNames)
      else if tree.childKind? .kind = some .constKeyword then
        plain .constName ((tree.child? .left).toList.flatMap Tree.boundNames)
      else []
    else []
  | .program | .block => []

def owned (scope : ScopeKind) (tree : Tree) : List Declaration :=
  headOf scope tree ++
    (container? scope tree).toList.flatMap fun container =>
      container.addresses.flatMap (ownedAt scope container)

/-! ### The sites of one node -/

theorem ofRole_eq_plain (kind : BindingKind) (tree : Tree) (field : Field) :
    ofRole kind tree field = plain kind ((tree.child? field).toList.flatMap Tree.boundNames) := by
  unfold ofRole
  cases tree.child? field with
  | none => rfl
  | some pattern =>
      rw [Option.toList_some, List.flatMap_singleton]
      rfl

theorem ofOwnName_eq_plain (kind : BindingKind) (tree : Tree) :
    ofOwnName kind tree = plain kind (tree.child? .name).toList := by
  unfold ofOwnName
  cases tree.child? .name with
  | none => rfl
  | some name => rfl

theorem ofDeclarators_eq_declared (kind : BindingKind) (declaration : Tree) :
    ofDeclarators kind declaration = declared kind declaration := by
  apply List.flatMap_congr
  intro declarator _
  unfold ofDeclarator
  cases declarator.child? .name with
  | none => rfl
  | some name =>
      rw [Option.toList_some, List.flatMap_singleton]
      rfl

/-! ### One step of the collection -/

theorem withinEach_eq_flatMap (hoists own : Bool) (parent : Kind) (children : List Tree) :
    withinEach hoists own parent children =
      (children.filter Tree.isNamed).flatMap (within hoists own parent) := by
  induction children with
  | nil => rfl
  | cons head tail ih => rw [withinEach, ih, Tree.flatMap_named_cons]

def directBelow? (hoists own : Bool) (parent kind : Kind) : Option Bool :=
  if kind.isSealed then none
  else if (ScopeKind.opened? (some parent) kind).isSome then
    if hoists then some false else none
  else some own

private theorem directBelow?_eq (hoists own : Bool) (parent kind : Kind) :
    directBelow? hoists own parent kind =
      if !kind.isSealed && (hoists || (ScopeKind.opened? (some parent) kind).isNone) then
        some (own && (ScopeKind.opened? (some parent) kind).isNone)
      else none := by
  unfold directBelow?
  cases kind.isSealed with
  | true => rfl
  | false =>
      cases ScopeKind.opened? (some parent) kind with
      | none => simp
      | some inner => cases hoists <;> simp

theorem within_eq_standingAt (hoists own : Bool) (parent : Kind) (tree : Tree) :
    within hoists own parent tree =
      standingAt hoists own tree ++
        match directBelow? hoists own parent tree.kind with
        | some direct => tree.namedChildren.flatMap (within hoists direct tree.kind)
        | none => [] := by
  cases tree with
  | node label children =>
      simp only [Tree.namedChildren_node, ← withinEach_eq_flatMap]
      rw [within]
      simp only [standingAt, directBelow?, Tree.kind, Tree.label]
      split
      · rename_i lexical
        simp [lexical, Kind.isSealed, ofDeclarators_eq_declared, lexicalKind]
      · rename_i hoisted
        simp [hoisted, Kind.isSealed, ofDeclarators_eq_declared]
      · rename_i function
        simp [function, Kind.isSealed, Kind.isFunction, ofOwnName_eq_plain]
      · rename_i generator
        simp [generator, Kind.isSealed, Kind.isFunction, ofOwnName_eq_plain]
      · rename_i classes
        simp [classes, Kind.isSealed, ofOwnName_eq_plain]
      · rename_i loop
        cases hoists <;>
          simp [loop, Kind.isSealed, Kind.isFunction, ScopeKind.opened?, ofVarHead, ofRole_eq_plain]
      · rename_i classes
        simp [classes, Kind.isSealed]
      -- Of the kinds left over none declares anything, and only functions are sealed.
      · rename_i otherLexical otherVar otherFunction otherGenerator otherClass otherLoop otherExpression
        have shut : label.kind.isSealed = label.kind.isFunction := by
          unfold Kind.isSealed
          split <;> first | contradiction | rfl
        simp only [shut, List.nil_append]
        by_cases function : label.kind.isFunction
        · simp only [function, if_true]
        · by_cases opens : (ScopeKind.opened? (some parent) label.kind).isSome
          · cases hoists <;> simp [function, opens]
          · simp [function, opens]

/-! ### Declarations by address -/

/-- What a scope owns at an address below a node, `own` saying whether the node stands directly in the
scope. -/
def ownedFrom (hoists own : Bool) (parent : Kind) (tree : Tree) : Address → List Declaration
  | [] => standingAt hoists own tree
  | index :: rest =>
    match directBelow? hoists own parent tree.kind, tree.namedChildren[index]? with
    | some direct, some child => ownedFrom hoists direct tree.kind child rest
    | _, _ => []

theorem within_eq_flatMap_addresses (hoists own : Bool) (parent : Kind) (tree : Tree) :
    within hoists own parent tree =
      tree.addresses.flatMap (ownedFrom hoists own parent tree) := by
  induction tree generalizing own parent with
  | step tree ih =>
      rw [within_eq_standingAt]
      cases below : directBelow? hoists own parent tree.kind with
      | none =>
          -- The addresses below are still listed, so each has to be shown to own nothing.
          have silent : ∀ index rest, ownedFrom hoists own parent tree (index :: rest) = [] := by
            intro index rest
            rw [ownedFrom, below]
          have nothing : ∀ index (child : Tree), tree.namedChildren[index]? = some child →
              [] = child.addresses.flatMap fun rest =>
                ownedFrom hoists own parent tree (index :: rest) := by
            intro index child _
            exact (List.flatMap_eq_nil_iff.mpr fun rest _ => silent index rest).symm
          rw [Tree.flatMap_addresses nothing]
          congr 1
          exact (List.flatMap_eq_nil_iff.mpr fun _ _ => rfl).symm
      | some direct =>
          rw [Tree.flatMap_addresses]
          · rfl
          · intro index child found
            simp only [ownedFrom, below, found]
            exact ih child (Tree.mem_children_of_named found) direct tree.kind

/-! ### Nodes on the way -/

section Below

variable {container child : Tree} {index : Nat}

theorem passed_below_child (found : container.namedChildren[index]? = some child)
    (next : Nat) (rest : Address) :
    container.passed (index :: next :: rest) =
      (child, ScopeKind.opened? (some container.kind) child.kind) ::
        child.passed (next :: rest) := by
  have here : container.openingAt? [index] =
      some (child, ScopeKind.opened? (some container.kind) child.kind) := by
    rw [Tree.openingAt?, Tree.nodeAt?_cons_of_child found, Tree.nodeAt?_nil,
      Tree.scopeAt?_child found, Option.map_some]
  unfold Tree.passed
  rw [Address.between_cons_cons, List.filterMap_cons_some here, List.filterMap_map]
  congr 1
  apply List.filterMap_congr
  intro upper member
  rw [Function.comp_apply, Tree.openingAt?, Tree.openingAt?, Tree.nodeAt?_cons_of_child found,
    Tree.scopeAt?_below_child found (Address.ne_nil_of_mem_between member)]

private theorem isReached_below_child (found : container.namedChildren[index]? = some child)
    (scope : ScopeKind) (next : Nat) (rest : Address) :
    isReached scope container (index :: next :: rest) =
      ((!child.kind.isSealed &&
        (scope.isBoundary || (ScopeKind.opened? (some container.kind) child.kind).isNone)) &&
        isReached scope child (next :: rest)) := by
  simp only [isReached, passed_below_child found, List.all_cons, ne_eq, List.cons_ne_nil,
    not_false_eq_true, decide_true, Bool.true_and]

private theorem isDirect_below_child (found : container.namedChildren[index]? = some child)
    (next : Nat) (rest : Address) :
    isDirect container (index :: next :: rest) =
      ((ScopeKind.opened? (some container.kind) child.kind).isNone &&
        isDirect child (next :: rest)) := by
  simp only [isDirect, passed_below_child found, List.all_cons]

theorem ownedFrom_eq_passed (scope : ScopeKind) (own : Bool)
    (found : container.namedChildren[index]? = some child) (rest : Address) :
    ownedFrom scope.isBoundary own container.kind child rest =
      match container.nodeAt? (index :: rest) with
      | some node =>
        if isReached scope container (index :: rest) then
          standingAt scope.isBoundary (own && isDirect container (index :: rest)) node
        else []
      | none => [] := by
  -- The child is what the rest of the way passes first; it becomes the container for what follows.
  induction rest generalizing own container child index with
  | nil =>
      have reached : isReached scope container [index] = true := rfl
      have direct : isDirect container [index] = true := rfl
      rw [Tree.nodeAt?_cons_of_child found, Tree.nodeAt?_nil]
      simp only [ownedFrom, reached, direct, if_true, Bool.and_true]
  | cons next rest ih =>
      rw [Tree.nodeAt?_cons_of_child found, ownedFrom, isReached_below_child found,
        isDirect_below_child found]
      cases below : child.namedChildren[next]? with
      | none =>
          have absent : child.nodeAt? (next :: rest) = none := by
            rw [Tree.nodeAt?_cons, below, Option.bind_none]
          rw [absent]
          cases directBelow? scope.isBoundary own container.kind child.kind <;> rfl
      | some grandchild =>
          rw [directBelow?_eq]
          cases passable : !child.kind.isSealed &&
              (scope.isBoundary || (ScopeKind.opened? (some container.kind) child.kind).isNone) with
          | true =>
              simp only [if_true, Bool.true_and, ih _ below, Bool.and_assoc]
          | false =>
              simp only [Bool.false_eq_true, if_false, Bool.false_and]
              cases child.nodeAt? (next :: rest) <;> rfl

end Below

/-! ### The declarations of a scope -/

theorem ofContainer_eq_owned (scope : ScopeKind) (container : Tree) :
    ofContainer scope container = container.addresses.flatMap (ownedAt scope container) := by
  have agree : ∀ index child, container.namedChildren[index]? = some child →
      within scope.isBoundary true container.kind child =
        child.addresses.flatMap fun below => ownedAt scope container (index :: below) := by
    intro index child found
    rw [within_eq_flatMap_addresses]
    apply List.flatMap_congr
    intro below _
    rw [ownedFrom_eq_passed scope true found, Bool.true_and]
    rfl
  rw [Tree.flatMap_addresses agree, ofContainer, withinEach_eq_flatMap]
  rfl

private theorem ofFunctionHead_eq_headOf (function : Tree) :
    ofFunctionHead function = headOf .function function := by
  unfold ofFunctionHead headOf
  congr 1
  · rw [ofRole_eq_plain, ofOwnName_eq_plain]
    congr 1
    cases function.kind <;> rfl
  · cases function.child? .parameters with
    | none => rfl
    | some parameters =>
        rw [Option.toList_some, List.flatMap_singleton]
        exact List.map_flatMap.symm

private theorem ofLoopHead_eq_headOf (loop : Tree) : ofLoopHead loop = headOf .loop loop := by
  unfold ofLoopHead headOf
  rw [ofRole_eq_plain, ofRole_eq_plain]
  cases loop.childKind? .kind with
  | none => rfl
  | some keyword => cases keyword <;> rfl

theorem ofScope_eq_owned (scope : ScopeKind) (tree : Tree) :
    ofScope scope tree = owned scope tree := by
  cases scope with
  | program =>
      rw [ofScope, owned, ofContainer_eq_owned]
      exact (List.append_nil _).symm
  | block =>
      rw [ofScope, owned, ofContainer_eq_owned]
      exact (List.append_nil _).symm
  | loop =>
      rw [ofScope, owned, ofLoopHead_eq_headOf, ofContainer_eq_owned]
      exact congrArg _ (List.append_nil _).symm
  | catchClause =>
      rw [ofScope, owned, ofRole_eq_plain]
      cases body : tree.child? .body with
      | none => simp only [headOf, container?, body, Option.toList_none, List.flatMap_nil]
      | some container =>
          simp only [headOf, container?, body, Option.toList_some, List.flatMap_singleton,
            ofContainer_eq_owned]
  | function =>
      rw [ofScope, owned, ofFunctionHead_eq_headOf]
      cases body : tree.child? .body with
      | none => simp only [container?, body, Option.filter_none, Option.toList_none, List.flatMap_nil]
      | some container =>
          by_cases block : container.kind = .statementBlock
          · simp only [container?, body, Option.filter_some, block, decide_true, if_true,
              Option.toList_some, List.flatMap_singleton, ofContainer_eq_owned]
          · simp only [container?, body, Option.filter_some, block, decide_false,
              Bool.false_eq_true, if_false, Option.toList_none, List.flatMap_nil]

theorem ofScope_eq_headOf (scope : ScopeKind) (tree : Tree) :
    ofScope scope tree =
      headOf scope tree ++ (container? scope tree).toList.flatMap (ofContainer scope) := by
  rw [ofScope_eq_owned, owned]
  congr 2
  funext container
  rw [ofContainer_eq_owned]

end Declaration

/-! ### Bindings -/

namespace Frame

theorem find?_filterMap_binding? (source : String) (scope : ScopeKind) (name : String)
    (sites : List Declaration) :
    (sites.filterMap (binding? source scope)).find? (·.name = name) =
      if name = "" then none
      else
        (sites.find? fun site => site.name.text source = name).map fun site =>
          ⟨name, site.kind, site.init, scope⟩ := by
  induction sites with
  | nil =>
      rw [List.filterMap_nil, List.find?_nil, List.find?_nil, Option.map_none, ite_self]
  | cons site rest ih =>
      by_cases empty : site.name.text source = ""
      · have unbound : binding? source scope site = none := by
          simp only [binding?, empty, if_true]
        rw [List.filterMap_cons_none unbound, ih]
        by_cases nameless : name = ""
        · rw [if_pos nameless, if_pos nameless]
        · have different : site.name.text source ≠ name := by
            intro same
            exact nameless (same.symm.trans empty)
          rw [if_neg nameless, if_neg nameless, List.find?_cons_of_neg]
          simpa only [decide_eq_true_eq] using different
      · have bound : binding? source scope site =
            some ⟨site.name.text source, site.kind, site.init, scope⟩ := by
          simp only [binding?, if_neg empty]
        rw [List.filterMap_cons_some bound]
        by_cases same : site.name.text source = name
        · subst name
          simp only [List.find?_cons, decide_true, if_neg empty, Option.map_some]
        · simp only [List.find?_cons, same, decide_false, ih]

theorem get?_ofScope (source : String) (scope : ScopeKind) (tree : Tree) (name : String) :
    (ofScope source scope tree).get? name =
      if name = "" then none
      else
        ((Declaration.owned scope tree).find? fun site => site.name.text source = name).map
          fun site => ⟨name, site.kind, site.init, scope⟩ := by
  rw [ofScope, get?, Declaration.ofScope_eq_owned, find?_filterMap_binding?]

theorem get?_ofScope_eq_some_iff (source : String) (scope : ScopeKind) (tree : Tree)
    (name : String) (binding : Binding) :
    (ofScope source scope tree).get? name = some binding ↔
      name ≠ "" ∧ ∃ earlier site later,
        Declaration.owned scope tree = earlier ++ site :: later ∧
        (∀ other ∈ earlier, other.name.text source ≠ name) ∧
        site.name.text source = name ∧ binding = ⟨name, site.kind, site.init, scope⟩ := by
  rw [get?_ofScope]
  by_cases nameless : name = ""
  · simp only [if_pos nameless, reduceCtorEq, false_iff]
    intro owned
    exact owned.1 nameless
  · rw [if_neg nameless, Option.map_eq_some_iff]
    simp only [List.find?_eq_some_iff_append, decide_eq_true_eq, Bool.not_eq_true',
      decide_eq_false_iff_not]
    constructor
    · rintro ⟨site, ⟨named, earlier, later, split, before⟩, same⟩
      exact ⟨nameless, earlier, site, later, split, before, named, same.symm⟩
    · rintro ⟨_, earlier, site, later, split, before, named, same⟩
      exact ⟨site, ⟨named, earlier, later, split, before⟩, same.symm⟩

theorem get?_ofScope_eq_none_iff (source : String) (scope : ScopeKind) (tree : Tree)
    (name : String) :
    (ofScope source scope tree).get? name = none ↔
      name = "" ∨ ∀ site ∈ Declaration.owned scope tree, site.name.text source ≠ name := by
  rw [get?_ofScope]
  by_cases nameless : name = ""
  · rw [if_pos nameless]
    exact iff_of_true rfl (Or.inl nameless)
  · rw [if_neg nameless, Option.map_eq_none_iff, List.find?_eq_none, or_iff_right nameless]
    simp only [decide_eq_true_eq, ne_eq]

end Frame

/-- A frame binds the names that a declaration of its scope has, each to the first such declaration. An
empty text is no name. The scope owns the declarations of its head, and then those that its container
has at addresses in pre-order. -/
theorem frame_binds_first_owned (source : String) (scope : ScopeKind) (tree : Tree) :
    (∀ name binding, (Frame.ofScope source scope tree).get? name = some binding ↔
      name ≠ "" ∧ ∃ earlier site later,
        Declaration.owned scope tree = earlier ++ site :: later ∧
        (∀ other ∈ earlier, other.name.text source ≠ name) ∧
        site.name.text source = name ∧ binding = ⟨name, site.kind, site.init, scope⟩) ∧
    (∀ name, (Frame.ofScope source scope tree).get? name = none ↔
      name = "" ∨ ∀ site ∈ Declaration.owned scope tree, site.name.text source ≠ name) ∧
    ∀ container, Declaration.container? scope tree = some container →
      container.addresses.Pairwise (· < ·) ∧
      ∀ address, address ∈ container.addresses ↔ (container.nodeAt? address).isSome = true := by
  refine ⟨Frame.get?_ofScope_eq_some_iff source scope tree,
    Frame.get?_ofScope_eq_none_iff source scope tree, ?_⟩
  intro container _
  exact ⟨container.addresses_pairwise_lt, container.mem_addresses_iff⟩

end InjectionLint
