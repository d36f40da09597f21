import InjectionLint.Proofs.Rule.Replacement
import Mathlib.Logic.Relation

/-!
Parentheses around operands. A binary operation, an argument list, a substitution and a declarator take
expressions, and see through parentheses around them; so does the traversal, which finds nothing at the
parentheses and goes on inside.

Main statement: putting operands in parentheses, any number of times, does not change what detection
finds (`parentheses_transparent`).
-/

set_option autoImplicit false

namespace InjectionLint

def Kind.takesOperand (parent : Kind) (field : Option Field) : Bool :=
  match parent with
  | .binaryExpression => field = some .left || field = some .right
  | .variableDeclarator => field = some .value
  | .templateSubstitution => true
  | kind => kind = .other "arguments"

namespace Tree

def unlabelled : Tree → Tree
  | .node label children => .node { label with field := none } children

def parenthesized (start stop : Nat) (fault : Option Fault) (damaged : Bool) (tree : Tree) : Tree :=
  .node ⟨.parenthesizedExpression, start, stop, tree.label.field, true, fault, damaged⟩
    [tree.unlabelled]

end Tree

/-! ### A node without its role -/

section Unlabelled

variable (source : String)

private theorem Tree.isNamed_unlabelled (tree : Tree) : tree.unlabelled.isNamed = tree.isNamed := by
  cases tree
  rfl

private theorem Tree.isContent_unlabelled (tree : Tree) :
    tree.unlabelled.isContent = tree.isContent := by
  cases tree
  rfl

private theorem Tree.operands?_unlabelled (tree : Tree) :
    tree.unlabelled.operands? source = tree.operands? source := by
  cases tree
  exact Tree.operands?_congr source rfl rfl rfl

private theorem Tree.outlook_unlabelled (tree : Tree) :
    tree.unlabelled.outlook source = tree.outlook source := by
  have operands := Tree.operands?_unlabelled source tree
  cases tree with
  | node label children =>
      refine Tree.outlook_congr source rfl rfl rfl (fun _ => operands) ?_
      intro simple
      unfold Expr.classify unlabelled
      simp only [unlabelled, Tree.kind, Tree.label] at simple ⊢
      split
      case h_1 => contradiction
      case h_3 =>
        cases Call.ofTree? (.node { label with field := none } children) <;>
          cases Call.ofTree? (.node label children) <;> rfl
      all_goals rfl

theorem Tree.reading_unlabelled (tree : Tree) :
    tree.unlabelled.reading source = tree.reading source := by
  have operands := Tree.operands?_unlabelled source tree
  cases tree with
  | node label children =>
      refine Tree.reading_congr source rfl rfl (fun _ => operands) ?_
      intro simple
      unfold Expr.classify unlabelled
      simp only [unlabelled, Tree.kind, Tree.label] at simple ⊢
      split
      case h_1 => contradiction
      case h_3 =>
        have sameRoles : ∀ field, (Tree.node { label with field := none } children).child? field =
            (Tree.node label children).child? field := fun _ => rfl
        unfold Call.ofTree?
        rw [sameRoles, sameRoles]
        cases (Tree.node label children).child? .function with
        | none => rfl
        | some callee =>
            cases (Tree.node label children).child? .arguments with
            | none => rfl
            | some arguments => rfl
      all_goals rfl

private theorem Declaration.within_unlabelled (hoists own : Bool) (parent : Kind) (tree : Tree) :
    within hoists own parent tree.unlabelled = within hoists own parent tree := by
  cases tree
  rw [within_eq_standingAt, within_eq_standingAt]
  rfl

private theorem Visit.enter_unlabelled (chain : Chain) (parent : Kind) (tree : Tree) :
    enter source chain parent tree.unlabelled = enter source chain parent tree := by
  have frame : ∀ scope, Frame.ofScope source scope tree.unlabelled =
      Frame.ofScope source scope tree := by
    intro scope
    cases tree
    cases scope <;> rfl
  unfold enter
  simp only [frame]
  cases tree
  rfl

private theorem Rule.detectFrom_unlabelled (chain : Chain) (tree : Tree) :
    detectFrom source chain tree.unlabelled = detectFrom source chain tree := by
  have here : emitted source ⟨tree.unlabelled, chain⟩ = emitted source ⟨tree, chain⟩ :=
    emitted_congr (Tree.reading_unlabelled source tree) rfl
  cases tree with
  | node label children =>
      unfold Tree.unlabelled at here ⊢
      rw [detectFrom_node, detectFrom_node, here]

end Unlabelled

/-! ### Parentheses in place of an operand -/

section Operand

variable {source : String} {parent : Kind} {field : Option Field} {operand : Tree}

theorem Kind.opened?_of_takesOperand (takes : parent.takesOperand field = true) (kind : Kind) :
    ScopeKind.opened? (some parent) kind =
      ScopeKind.opened? (some .parenthesizedExpression) kind := by
  -- Only below a function or a catch clause does a block open no scope.
  have plain : (parent.isFunction || decide (parent = .catchClause)) = false := by
    unfold Kind.takesOperand at takes
    split at takes
    case h_4 =>
      rw [of_decide_eq_true takes]
      rfl
    all_goals rfl
  unfold ScopeKind.opened?
  split
  case h_2 =>
    simp only [Option.any_some, plain]
    rfl
  all_goals rfl

private theorem Tree.namedChildren_parenthesized (named : operand.isNamed = true) (start stop : Nat)
    (fault : Option Fault) (damaged : Bool) :
    (operand.parenthesized start stop fault damaged).namedChildren = [operand.unlabelled] := by
  rw [Tree.parenthesized, Tree.namedChildren_node, List.filter_cons_of_pos, List.filter_nil]
  rw [Tree.isNamed_unlabelled, named]

theorem Declaration.within_parenthesized (takes : parent.takesOperand field = true)
    (named : operand.isNamed = true) (start stop : Nat) (fault : Option Fault) (damaged : Bool)
    (hoists own : Bool) :
    within hoists own parent (operand.parenthesized start stop fault damaged) =
      within hoists own parent operand := by
  have passed : within hoists own parent (operand.parenthesized start stop fault damaged) =
      (operand.parenthesized start stop fault damaged).namedChildren.flatMap
        (within hoists own .parenthesizedExpression) := by
    rw [within_eq_standingAt]
    rfl
  have samePlace : within hoists own .parenthesizedExpression operand =
      within hoists own parent operand := by
    rw [within_eq_standingAt, within_eq_standingAt]
    unfold directBelow?
    rw [Kind.opened?_of_takesOperand takes]
  rw [passed, Tree.namedChildren_parenthesized named, List.flatMap_singleton, within_unlabelled,
    samePlace]

private theorem Tree.outlook_parenthesized (content : operand.isContent = true) (start stop : Nat)
    (fault : Option Fault) (damaged : Bool) :
    (operand.parenthesized start stop fault damaged).outlook source = operand.outlook source := by
  have inside : (operand.parenthesized start stop fault damaged).content? =
      some operand.unlabelled := by
    unfold parenthesized content?
    rw [Tree.children, List.find?_cons, Tree.isContent_unlabelled, content]
  rw [outlook_of_parenthesized source _ rfl, inside, Option.map_some, Option.getD_some,
    outlook_unlabelled]

theorem Rule.detectBelow_parenthesized (takes : parent.takesOperand field = true)
    (named : operand.isNamed = true) (start stop : Nat) (fault : Option Fault) (damaged : Bool)
    (chain : Chain) :
    detectBelow source chain parent (operand.parenthesized start stop fault damaged) =
      detectBelow source chain parent operand := by
  -- Nothing is found at the parentheses, and they open no scope.
  have passed : detectBelow source chain parent (operand.parenthesized start stop fault damaged) =
      detectFrom source chain (operand.parenthesized start stop fault damaged) := rfl
  have samePlace : Visit.enter source chain .parenthesizedExpression operand =
      Visit.enter source chain parent operand := by
    unfold Visit.enter
    rw [Kind.opened?_of_takesOperand takes]
  have here : detectBelow source chain parent operand =
      detectFrom source (Visit.enter source chain parent operand) operand := by
    rw [detectBelow, if_pos named]
  rw [passed, here, detectFrom_eq, Tree.namedChildren_parenthesized named, List.flatMap_singleton,
    detectFrom_unlabelled, Visit.enter_unlabelled, ← samePlace]
  rfl

end Operand

/-! ### Nodes over operands -/

/-- A parent that takes expressions cannot tell two children apart: they show the same, contribute the
same to a scope, and have the same found in them. A child that is no operand is not exchanged. -/
structure Tree.SameOperand (source : String) (parent : Kind) (left right : Tree) : Prop where
  field : left.label.field = right.label.field
  named : left.isNamed = right.isNamed
  content : left.isContent = right.isContent
  outlook : left.outlook source = right.outlook source
  declared : ∀ hoists own,
    Declaration.within hoists own parent left = Declaration.within hoists own parent right
  found : ∀ chain,
    Rule.detectBelow source chain parent left = Rule.detectBelow source chain parent right
  elsewhere : parent.takesOperand left.label.field = false → left = right

theorem Tree.SameOperand.refl (source : String) (parent : Kind) (tree : Tree) :
    Tree.SameOperand source parent tree tree where
  field := rfl
  named := rfl
  content := rfl
  outlook := rfl
  declared _ _ := rfl
  found _ := rfl
  elsewhere _ := rfl

theorem Tree.sameOperand_parenthesized {source : String} {parent : Kind} {operand : Tree}
    (content : operand.isContent = true)
    (takes : parent.takesOperand operand.label.field = true) (start stop : Nat)
    (fault : Option Fault) (damaged : Bool) :
    Tree.SameOperand source parent operand (operand.parenthesized start stop fault damaged) := by
  have named : operand.isNamed = true := (Bool.and_eq_true_iff.mp content).1
  exact {
    field := rfl
    named := named
    content := content
    outlook := (Tree.outlook_parenthesized content start stop fault damaged).symm
    declared := fun hoists own =>
      (Declaration.within_parenthesized takes named start stop fault damaged hoists own).symm
    found := fun chain =>
      (Rule.detectBelow_parenthesized takes named start stop fault damaged chain).symm
    elsewhere := fun otherwise => by
      rw [takes] at otherwise
      cases otherwise }

theorem Kind.cases_of_takesOperand {parent : Kind} {field : Option Field}
    (takes : parent.takesOperand field = true) :
    parent = .binaryExpression ∨ parent = .variableDeclarator ∨ parent = .templateSubstitution ∨
      parent = .other "arguments" := by
  unfold Kind.takesOperand at takes
  split at takes
  case h_1 => exact .inl rfl
  case h_2 => exact .inr (.inl rfl)
  case h_3 => exact .inr (.inr (.inl rfl))
  case h_4 => exact .inr (.inr (.inr (of_decide_eq_true takes)))

section Holder

variable {source : String} {label : Label} {field : Option Field} {left right : List Tree}

section Kind

variable (takes : label.kind.takesOperand field = true)

include takes

private theorem Tree.boundNames_of_takesOperand (children : List Tree) :
    (Tree.node label children).boundNames = [] := by
  rw [Tree.boundNames_eq]
  rcases Kind.cases_of_takesOperand takes with kind | kind | kind | kind <;>
    simp only [Tree.kind, Tree.label, kind]

private theorem ScopeKind.opened?_none_of_takesOperand (parent : Option Kind) :
    ScopeKind.opened? parent label.kind = none := by
  rcases Kind.cases_of_takesOperand takes with kind | kind | kind | kind <;>
    rw [kind] <;> rfl

theorem Declaration.within_of_takesOperand (hoists own : Bool) (parent : Kind)
    (children : List Tree) :
    within hoists own parent (.node label children) =
      (Tree.node label children).namedChildren.flatMap (within hoists own label.kind) := by
  have nothingHere : standingAt hoists own (.node label children) = [] := by
    unfold standingAt
    rcases Kind.cases_of_takesOperand takes with kind | kind | kind | kind <;>
      simp only [Tree.kind, Tree.label, kind]
  have unsealed : label.kind.isSealed = false := by
    rcases Kind.cases_of_takesOperand takes with kind | kind | kind | kind <;>
      rw [kind] <;> rfl
  have further : directBelow? hoists own parent label.kind = some own := by
    simp [directBelow?, unsealed, ScopeKind.opened?_none_of_takesOperand takes]
  rw [within_eq_standingAt, nothingHere, List.nil_append]
  simp only [Tree.kind, Tree.label, further]

theorem Expr.classify_of_takesOperand (simple : label.kind ≠ .binaryExpression)
    (children : List Tree) :
    Expr.classify (.node label children) = .other (.node label children) := by
  unfold Expr.classify
  rcases Kind.cases_of_takesOperand takes with kind | kind | kind | kind
  · contradiction
  all_goals simp only [Tree.kind, Tree.label, kind]

private theorem enter_operands (chain : Chain) (parent : Kind) (children : List Tree) :
    Visit.enter source chain parent (.node label children) = chain := by
  unfold Visit.enter
  simp only [Tree.kind, Tree.label, ScopeKind.opened?_none_of_takesOperand takes]

end Kind

variable (related : List.Forall₂ (Tree.SameOperand source label.kind) left right)

include related

private theorem child?_operands (role : Field) :
    Option.Rel (fun l r => Tree.SameOperand source label.kind l r ∧ l.label.field = some role)
      ((Tree.node label left).child? role) ((Tree.node label right).child? role) :=
  Tree.child?_related related (fun _ _ same => same.field) role

private theorem outlook_child?_operands (role : Field) :
    ((Tree.node label left).child? role).map (Tree.outlook source) =
      ((Tree.node label right).child? role).map (Tree.outlook source) :=
  map_option_related (child?_operands related role) fun _ _ found => found.1.outlook

theorem child?_eq_of_elsewhere {role : Field}
    (otherwise : label.kind.takesOperand (some role) = false) :
    (Tree.node label left).child? role = (Tree.node label right).child? role := by
  have roles := child?_operands related role
  generalize (Tree.node label left).child? role = l, (Tree.node label right).child? role = r
    at roles
  cases roles with
  | none => rfl
  | some found => rw [found.1.elsewhere (found.2 ▸ otherwise)]

private theorem content?_operands :
    (Tree.node label left).content?.map (Tree.outlook source) =
      (Tree.node label right).content?.map (Tree.outlook source) :=
  map_option_related (Tree.content?_related related fun _ _ same => same.content)
    fun _ _ same => same.outlook

theorem operands?_operands (binary : label.kind = .binaryExpression) :
    (Tree.node label left).operands? source = (Tree.node label right).operands? source := by
  have sameOperator : (Tree.node label left).childKind? .operator =
      (Tree.node label right).childKind? .operator := by
    unfold Tree.childKind?
    rw [child?_eq_of_elsewhere related]
    rw [binary]
    rfl
  exact Tree.operands?_congr source (outlook_child?_operands related .left)
    (outlook_child?_operands related .right) sameOperator

private theorem outlook_operands (takes : label.kind.takesOperand field = true) :
    (Tree.node label left).outlook source = (Tree.node label right).outlook source := by
  refine Tree.outlook_congr source rfl rfl (content?_operands related) (operands?_operands related) ?_
  intro simple
  rw [Expr.classify_of_takesOperand takes simple, Expr.classify_of_takesOperand takes simple]
  rfl

private theorem reading_operands (takes : label.kind.takesOperand field = true) :
    (Tree.node label left).reading source = (Tree.node label right).reading source := by
  refine Tree.reading_congr source rfl rfl (operands?_operands related) ?_
  intro simple
  rw [Expr.classify_of_takesOperand takes simple, Expr.classify_of_takesOperand takes simple]
  rfl

private theorem within_namedChildren_operands (hoists own : Bool) :
    (Tree.node label left).namedChildren.flatMap (Declaration.within hoists own label.kind) =
      (Tree.node label right).namedChildren.flatMap (Declaration.within hoists own label.kind) :=
  flatMap_related (Tree.namedChildren_related related fun _ _ same => same.named)
    fun _ _ same => same.declared hoists own

theorem ofContainer_operands (scope : ScopeKind) :
    Declaration.ofContainer scope (.node label left) =
      Declaration.ofContainer scope (.node label right) := by
  unfold Declaration.ofContainer
  rw [Declaration.withinEach_eq_flatMap, Declaration.withinEach_eq_flatMap]
  exact within_namedChildren_operands related scope.isBoundary true

private theorem declarator_operands (isDeclarator : label.kind = .variableDeclarator)
    (kind : BindingKind) :
    (Declaration.ofDeclarator kind (.node label left)).map (Declaration.entry source) =
      (Declaration.ofDeclarator kind (.node label right)).map (Declaration.entry source) := by
  have sameName : (Tree.node label left).child? .name = (Tree.node label right).child? .name := by
    apply child?_eq_of_elsewhere related
    rw [isDeclarator]
    rfl
  apply Declaration.entries_ofDeclarator_congr _ (outlook_child?_operands related .value)
  rw [sameName]
  cases (Tree.node label right).child? .name with
  | none => exact .none
  | some name => exact .some (Tree.Alike.refl source name)

theorem alikeUnder_operands (takes : label.kind.takesOperand field = true) {parent : Kind}
    (unread : parent.isFunction = true → label.field ≠ some .parameters) :
    Tree.AlikeUnder source parent (.node label left) (.node label right) where
  kind := rfl
  start := rfl
  stop := rfl
  named := rfl
  field := rfl
  outlook := outlook_operands related takes
  names := by
    rw [Tree.boundNames_of_takesOperand takes, Tree.boundNames_of_takesOperand takes]
  declared := by
    intro hoists own above
    rw [Declaration.within_of_takesOperand takes, Declaration.within_of_takesOperand takes,
      within_namedChildren_operands related]
  declarator := declarator_operands related
  substituted _ := Template.inserted_congr (content?_operands related) rfl
  parameters underFunction asParameters := absurd asParameters (unread underFunction)
  arguments _ _ := map_related (filter_related related fun _ _ same => same.content)
    fun _ _ kept => kept.1.outlook
  body _ _ scope := by rw [ofContainer_operands related]

private theorem rootFrame_operands (takes : label.kind.takesOperand field = true) :
    Visit.rootFrame source ⟨none, .node label left⟩ =
      Visit.rootFrame source ⟨none, .node label right⟩ := by
  unfold Visit.rootFrame
  simp only [Tree.kind, Tree.label, ScopeKind.opened?_none_of_takesOperand takes, Option.getD_none]
  unfold Frame.ofScope Declaration.ofScope
  simp only [ofContainer_operands related]

private theorem detectFrom_operands (takes : label.kind.takesOperand field = true) (chain : Chain) :
    Rule.detectFrom source chain (.node label left) =
      Rule.detectFrom source chain (.node label right) := by
  rw [Rule.detectFrom_node, Rule.detectFrom_node,
    Rule.emitted_congr (reading_operands related takes) rfl,
    flatMap_related related fun _ _ same => same.found chain]

end Holder

/-! ### Parentheses in a tree -/

/-- An operand of a tree is put in parentheses. Where a function has its parameters the grammars put no
node that takes operands. -/
inductive Tree.Parenthesizes : Tree → Tree → Prop where
  | wrap (context : Context) (around : Surrounding) (operand : Tree) (start stop : Nat)
      (fault : Option Fault) (damaged : Bool)
      (content : operand.isContent = true)
      (takes : around.label.kind.takesOperand operand.label.field = true)
      (placed : ∀ parent ∈ context.parentKind?, parent.isFunction = true →
        around.label.field ≠ some .parameters) :
      Parenthesizes ((context ++ [around]).fill operand)
        ((context ++ [around]).fill (operand.parenthesized start stop fault damaged))

theorem detect_parenthesizes {tree wrapped : Tree} (step : tree.Parenthesizes wrapped)
    (source : String) : Rule.detect source tree = Rule.detect source wrapped := by
  cases step with
  | wrap context around operand start stop fault damaged content takes placed =>
      have unchanged : ∀ siblings : List Tree,
          List.Forall₂ (Tree.SameOperand source around.label.kind) siblings siblings := fun _ =>
        List.forall₂_same.mpr fun tree _ => Tree.SameOperand.refl source around.label.kind tree
      have related : List.Forall₂ (Tree.SameOperand source around.label.kind)
          (around.before ++ operand :: around.after)
          (around.before ++ operand.parenthesized start stop fault damaged :: around.after) :=
        List.rel_append (unchanged around.before)
          (.cons (Tree.sameOperand_parenthesized content takes start stop fault damaged)
            (unchanged around.after))
      -- An operand and its parentheses differ in kind, so it is their parents that are alike.
      have alike : context.Alike source (Context.fill [around] operand)
          (Context.fill [around] (operand.parenthesized start stop fault damaged)) := by
        intro parent above
        exact alikeUnder_operands related takes (placed parent above)
      have sameRoots :
          [Visit.rootFrame source ⟨none, context.fill (Context.fill [around] operand)⟩].map
            (Frame.entries source) =
          [Visit.rootFrame source ⟨none, context.fill (Context.fill [around]
            (operand.parenthesized start stop fault damaged))⟩].map (Frame.entries source) := by
        rw [List.map_singleton, List.map_singleton]
        cases context with
        | nil => exact congrArg (fun frame => [frame.entries source]) (rootFrame_operands related takes)
        | cons outer rest => rw [rootFrame_fill (List.cons_ne_nil outer rest) alike]
      rw [Context.fill_append, Context.fill_append, Rule.detect_eq_detectFrom,
        Rule.detect_eq_detectFrom]
      refine detectFrom_fill_congr alike ?_ ?_ sameRoots
      · intro parent chain other sameEntries
        simp only [Context.fill, enter_operands takes]
        exact sameEntries
      · intro chain other sameEntries
        rw [Rule.detectFrom_congr_chain sameEntries]
        exact detectFrom_operands related takes other

/-- Detection finds the same in a tree whatever operands are put in parentheses, however often. -/
theorem parentheses_transparent (source path : String) (variant : Variant) (tree wrapped : Tree)
    (steps : Relation.ReflTransGen Tree.Parenthesizes tree wrapped) :
    (detectInjection ⟨tree, source, path, variant⟩).value =
      (detectInjection ⟨wrapped, source, path, variant⟩).value := by
  induction steps with
  | refl => rfl
  | tail _ step ih => exact ih.trans (detect_parenthesizes step source)

def wrappedSource : String :=
  "db(((\"select where\") + x));"

def wrappedQuery : Tree :=
  .node ⟨.stringLiteral, 5, 19, some .left, true, none, false⟩
    [.node ⟨.other "string_fragment", 6, 18, none, true, none, false⟩ []]

def additionAround : Surrounding :=
  ⟨⟨.binaryExpression, 4, 24, none, true, none, false⟩, [],
    [.node ⟨.plus, 21, 22, some .operator, false, none, false⟩ [],
      .node ⟨.identifier, 23, 24, some .right, true, none, false⟩ []]⟩

def callAround : Context :=
  [⟨⟨.program, 0, 27, none, true, none, false⟩, [], []⟩,
    ⟨⟨.other "expression_statement", 0, 27, none, true, none, false⟩, [], []⟩,
    ⟨⟨.callExpression, 0, 26, none, true, none, false⟩,
      [.node ⟨.identifier, 0, 2, some .function, true, none, false⟩ []], []⟩]

def argumentsAround : Surrounding :=
  ⟨⟨.other "arguments", 2, 26, some .arguments, true, none, false⟩, [], []⟩

/-- The query is put in parentheses as an operand, then the addition as an argument. -/
theorem wrapped_query_transparent :
    ((detectInjection ⟨(callAround ++ [argumentsAround, additionAround]).fill wrappedQuery,
      wrappedSource, "f.js", .javascript⟩).value.map (·.origin)) = [.callArgument, .concatenation] ∧
    (detectInjection ⟨(callAround ++ [argumentsAround, additionAround]).fill wrappedQuery,
      wrappedSource, "f.js", .javascript⟩).value =
    (detectInjection ⟨(callAround ++ [argumentsAround]).fill
      ((Context.fill [additionAround] (wrappedQuery.parenthesized 4 20 none false)).parenthesized
        3 25 none false), wrappedSource, "f.js", .javascript⟩).value := by
  refine ⟨by decide +kernel, ?_⟩
  apply parentheses_transparent
  have inner := Tree.Parenthesizes.wrap (callAround ++ [argumentsAround]) additionAround wrappedQuery
    4 20 none false rfl rfl (fun _ _ _ => by decide)
  have outer := Tree.Parenthesizes.wrap callAround argumentsAround
    (Context.fill [additionAround] (wrappedQuery.parenthesized 4 20 none false)) 3 25 none false rfl
    rfl (fun _ _ _ => by decide)
  exact (Relation.ReflTransGen.single inner).tail outer

def shadowingSource : String :=
  "var q = \"select\"; (function (q) \x7b db(q); \x7d);"

def misplacedArguments : Context :=
  [⟨⟨.program, 0, 44, none, true, none, false⟩,
      [.node ⟨.variableDeclaration, 0, 17, none, true, none, false⟩
        [.node ⟨.variableDeclarator, 4, 16, none, true, none, false⟩
          [.node ⟨.identifier, 4, 5, some .name, true, none, false⟩ [],
            .node ⟨.stringLiteral, 8, 16, some .value, true, none, false⟩
              [.node ⟨.other "string_fragment", 9, 15, none, true, none, false⟩ []]]]], []⟩,
    ⟨⟨.functionExpression, 19, 42, none, true, none, false⟩, [],
      [.node ⟨.statementBlock, 32, 42, some .body, true, none, false⟩
        [.node ⟨.callExpression, 34, 39, none, true, none, false⟩
          [.node ⟨.identifier, 34, 36, some .function, true, none, false⟩ [],
            .node ⟨.other "arguments", 36, 39, some .arguments, true, none, false⟩
              [.node ⟨.identifier, 37, 38, none, true, none, false⟩ []]]]]⟩,
    ⟨⟨.other "arguments", 28, 31, some .parameters, true, none, false⟩, [], []⟩]

def shadowingName : Tree :=
  .node ⟨.identifier, 29, 30, none, true, none, false⟩ []

/-- The condition on functions is needed: as the parameters of a function, arguments bind a name that
they do not bind in parentheses. -/
theorem misplaced_arguments_not_transparent :
    (Rule.detect shadowingSource (misplacedArguments.fill shadowingName)).length = 0 ∧
    (Rule.detect shadowingSource (misplacedArguments.fill
      (shadowingName.parenthesized 28 31 none false))).length = 1 := by
  decide +kernel

end InjectionLint
