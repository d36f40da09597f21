import Mathlib.Data.List.Forall2
import InjectionLint.Proofs.Rule.Reading
import InjectionLint.Proofs.Scope.Ownership

/-!
Nodes that cannot be told apart from outside. What the rules and the scopes around a node see of it is
finite in kind: its label, its outlook as an operand, the names that it binds as a pattern, the entries
that it contributes to a scope. A parent looks further into it in a few roles only: into the parameters
and the body of a function, the body of a catch clause, the arguments of a call.

Main statements: nodes whose children are alike are alike under every parent (`alikeUnder_node`), have
the same reading (`reading_alike`) and open scopes with the same entries (`enter_alike`).
-/

set_option autoImplicit false

namespace InjectionLint

/-! ### Patterns without mutual recursion -/

namespace Tree

private theorem boundInRole_eq (field : Field) (children : List Tree) :
    boundInRole field children =
      (children.find? fun child => child.label.field = some field).toList.flatMap boundNames := by
  induction children with
  | nil => rfl
  | cons head tail ih =>
      rw [boundInRole, List.find?_cons]
      by_cases role : head.label.field = some field
      · rw [if_pos role, decide_eq_true role, Option.toList_some, List.flatMap_singleton]
      · rw [if_neg role, decide_eq_false role, ih]

private theorem boundInEach_eq (children : List Tree) :
    boundInEach children = (children.filter isNamed).flatMap boundNames := by
  induction children with
  | nil => rfl
  | cons head tail ih => rw [boundInEach, ih, flatMap_named_cons]

theorem boundNames_eq (tree : Tree) :
    tree.boundNames =
      match tree.kind with
      | .identifier | .shorthandPropertyIdentifierPattern => [tree]
      | .assignmentPattern | .objectAssignmentPattern =>
        (tree.child? .left).toList.flatMap boundNames
      | .pairPattern => (tree.child? .value).toList.flatMap boundNames
      | .requiredParameter | .optionalParameter =>
        (tree.child? .pattern).toList.flatMap boundNames
      | .restPattern | .objectPattern | .arrayPattern => tree.namedChildren.flatMap boundNames
      | _ => [] := by
  cases tree with
  | node label children =>
      rw [boundNames]
      simp only [boundInRole_eq, boundInEach_eq]
      rfl

end Tree

/-! ### Nodes alike -/

/-- Nothing around two nodes tells them apart, as long as it does not look into them. -/
structure Tree.Alike (source : String) (left right : Tree) : Prop where
  kind : left.kind = right.kind
  start : left.start = right.start
  stop : left.stop = right.stop
  named : left.isNamed = right.isNamed
  outlook : left.outlook source = right.outlook source
  names : left.boundNames.map (text source) = right.boundNames.map (text source)
  declared : ∀ hoists own parent,
    (Declaration.within hoists own parent left).map (Declaration.entry source) =
      (Declaration.within hoists own parent right).map (Declaration.entry source)
  declarator : left.kind = .variableDeclarator → ∀ kind,
    (Declaration.ofDeclarator kind left).map (Declaration.entry source) =
      (Declaration.ofDeclarator kind right).map (Declaration.entry source)
  substituted : left.kind = .templateSubstitution →
    (Template.substituted left).inserted source = (Template.substituted right).inserted source

/-- A parent of some kind does not tell two children apart either, in the roles in which it looks into
them. -/
structure Tree.AlikeUnder (source : String) (parent : Kind) (left right : Tree) : Prop
    extends Tree.Alike source left right where
  field : left.label.field = right.label.field
  parameters : parent.isFunction = true → left.label.field = some .parameters →
    (left.namedChildren.flatMap boundNames).map (text source) =
      (right.namedChildren.flatMap boundNames).map (text source)
  arguments : parent = .callExpression → left.label.field = some .arguments →
    (left.children.filter isContent).map (Tree.outlook source) =
      (right.children.filter isContent).map (Tree.outlook source)
  body : parent = .catchClause ∨ parent.isFunction = true ∧ left.kind = .statementBlock →
    left.label.field = some .body → ∀ scope,
    (Declaration.ofContainer scope left).map (Declaration.entry source) =
      (Declaration.ofContainer scope right).map (Declaration.entry source)

namespace Tree

theorem Alike.refl (source : String) (tree : Tree) : Alike source tree tree where
  kind := rfl
  start := rfl
  stop := rfl
  named := rfl
  outlook := rfl
  names := rfl
  declared _ _ _ := rfl
  declarator _ _ := rfl
  substituted _ := rfl

theorem AlikeUnder.refl (source : String) (parent : Kind) (tree : Tree) :
    AlikeUnder source parent tree tree where
  toAlike := Alike.refl source tree
  field := rfl
  parameters _ _ := rfl
  arguments _ _ := rfl
  body _ _ _ := rfl

theorem Alike.text {source : String} {left right : Tree} (alike : Alike source left right) :
    left.text source = right.text source := by
  unfold Tree.text
  rw [alike.start, alike.stop]

theorem Alike.content {source : String} {left right : Tree} (alike : Alike source left right) :
    left.isContent = right.isContent := by
  unfold isContent
  rw [alike.named, alike.kind]

end Tree

/-! ### Siblings alike -/

section Siblings

variable {R : Tree → Tree → Prop} {left right : List Tree}

theorem find?_related {p : Tree → Bool} (related : List.Forall₂ R left right)
    (same : ∀ l r, R l r → p l = p r) :
    Option.Rel (fun l r => R l r ∧ p l = true) (left.find? p) (right.find? p) := by
  induction related with
  | nil => exact .none
  | @cons l r _ _ alike _ ih =>
      rw [List.find?_cons, List.find?_cons, ← same l r alike]
      cases chosen : p l with
      | true => exact .some ⟨alike, chosen⟩
      | false => exact ih

theorem filter_related {p : Tree → Bool} (related : List.Forall₂ R left right)
    (same : ∀ l r, R l r → p l = p r) :
    List.Forall₂ (fun l r => R l r ∧ p l = true) (left.filter p) (right.filter p) := by
  induction related with
  | nil => exact .nil
  | @cons l r _ _ alike _ ih =>
      rw [List.filter_cons, List.filter_cons, ← same l r alike]
      cases chosen : p l with
      | true => exact .cons ⟨alike, chosen⟩ ih
      | false => exact ih

theorem map_related {β : Type} {f : Tree → β} (related : List.Forall₂ R left right)
    (same : ∀ l r, R l r → f l = f r) : left.map f = right.map f := by
  induction related with
  | nil => rfl
  | cons alike _ ih => rw [List.map_cons, List.map_cons, same _ _ alike, ih]

theorem flatMap_related {β : Type} {f g : Tree → List β} (related : List.Forall₂ R left right)
    (same : ∀ l r, R l r → f l = g r) : left.flatMap f = right.flatMap g := by
  induction related with
  | nil => rfl
  | cons alike _ ih => rw [List.flatMap_cons, List.flatMap_cons, same _ _ alike, ih]

private theorem option_related_imp {S : Tree → Tree → Prop} {l r : Option Tree}
    (related : Option.Rel R l r) (weaker : ∀ l r, R l r → S l r) : Option.Rel S l r := by
  cases related with
  | none => exact .none
  | some alike => exact .some (weaker _ _ alike)

theorem map_option_related {β : Type} {f : Tree → β} {l r : Option Tree}
    (related : Option.Rel R l r) (same : ∀ l r, R l r → f l = f r) : l.map f = r.map f := by
  cases related with
  | none => rfl
  | some alike => rw [Option.map_some, Option.map_some, same _ _ alike]

theorem flatMap_toList_related {β : Type} {f g : Tree → List β} {l r : Option Tree}
    (related : Option.Rel R l r) (same : ∀ l r, R l r → f l = g r) :
    l.toList.flatMap f = r.toList.flatMap g := by
  cases related with
  | none => rfl
  | some alike =>
      simp only [Option.toList_some, List.flatMap_singleton]
      exact same _ _ alike

variable {label : Label}

theorem Tree.child?_related (related : List.Forall₂ R left right)
    (same : ∀ l r, R l r → l.label.field = r.label.field) (field : Field) :
    Option.Rel (fun l r => R l r ∧ l.label.field = some field)
      ((Tree.node label left).child? field) ((Tree.node label right).child? field) := by
  have found := find?_related (p := fun child => child.label.field = some field) related
    fun l r alike => by rw [same l r alike]
  simp only [decide_eq_true_eq] at found
  exact found

theorem Tree.namedChildren_related (related : List.Forall₂ R left right)
    (same : ∀ l r, R l r → l.isNamed = r.isNamed) :
    List.Forall₂ R (Tree.node label left).namedChildren (Tree.node label right).namedChildren :=
  (filter_related related same).imp fun _ _ kept => kept.1

theorem Tree.content?_related (related : List.Forall₂ R left right)
    (same : ∀ l r, R l r → l.isContent = r.isContent) :
    Option.Rel R (Tree.node label left).content? (Tree.node label right).content? :=
  option_related_imp (find?_related related same) fun _ _ found => found.1

private theorem quasisFrom_related {source : String} {stop : Nat}
    (related : List.Forall₂ R left right)
    (same : ∀ l r, R l r → l.start = r.start ∧ l.stop = r.stop) (start : Nat) :
    Template.quasisFrom source stop start left = Template.quasisFrom source stop start right := by
  induction related generalizing start with
  | nil => rfl
  | @cons l r _ _ alike _ ih =>
      obtain ⟨sameStart, sameStop⟩ := same l r alike
      rw [Template.quasisFrom, Template.quasisFrom, sameStart, sameStop, ih]

end Siblings

/-! ### A node over children alike -/

theorem ScopeKind.kind_of_opened? {parent : Option Kind} {kind : Kind} {scope : ScopeKind}
    (opened : ScopeKind.opened? parent kind = some scope) :
    (scope = .function → kind.isFunction = true) ∧
      (scope = .catchClause → kind = .catchClause) := by
  unfold ScopeKind.opened? at opened
  split at opened
  case h_2 =>
    split at opened
    · cases opened
    · cases opened
      exact ⟨nofun, nofun⟩
  case h_6 =>
    cases opened
    exact ⟨nofun, fun _ => rfl⟩
  case h_7 =>
    split at opened
    · rename_i function
      cases opened
      exact ⟨fun _ => function, nofun⟩
    · cases opened
  all_goals
    cases opened
    exact ⟨nofun, nofun⟩

theorem Declaration.entries_plain_congr {source : String} {left right : List Tree}
    (same : left.map (Tree.text source) = right.map (Tree.text source)) (kind : BindingKind) :
    (Declaration.plain kind left).map (Declaration.entry source) =
      (Declaration.plain kind right).map (Declaration.entry source) := by
  have ofTexts : ∀ names : List Tree,
      (Declaration.plain kind names).map (Declaration.entry source) =
        (names.map (Tree.text source)).map fun name => (name, none) := by
    intro names
    rw [Declaration.plain, List.map_map, List.map_map]
    rfl
  rw [ofTexts, ofTexts, same]

theorem Declaration.entries_ofDeclarator_congr {source : String} {left right : Tree}
    (sameName : Option.Rel (Tree.Alike source) (left.child? .name) (right.child? .name))
    (sameValue : (left.child? .value).map (Tree.outlook source) =
      (right.child? .value).map (Tree.outlook source)) (kind : BindingKind) :
    (Declaration.ofDeclarator kind left).map (Declaration.entry source) =
      (Declaration.ofDeclarator kind right).map (Declaration.entry source) := by
  have string : ∀ init : Option Tree,
      (init.bind fun value => ((Expr.ofTree value).face source).text?) =
        (init.map (Tree.outlook source)).bind fun outlook => outlook.face.text? := by
    intro init
    cases init <;> rfl
  unfold Declaration.ofDeclarator
  generalize left.child? .name = l, right.child? .name = r at sameName
  cases sameName with
  | none => rfl
  | some alike =>
      simp only [alike.kind]
      split
      · simp only [List.map_cons, List.map_nil, Declaration.entry, alike.text, string, sameValue]
      · exact Declaration.entries_plain_congr alike.names kind

section Node

variable {source : String} {label : Label} {left right : List Tree}
  (related : List.Forall₂ (Tree.AlikeUnder source label.kind) left right)

include related

theorem Tree.child?_alike (field : Field) :
    Option.Rel (fun l r => Tree.AlikeUnder source label.kind l r ∧ l.label.field = some field)
      ((Tree.node label left).child? field) ((Tree.node label right).child? field) :=
  Tree.child?_related related (fun _ _ alike => alike.field) field

theorem Tree.childKind?_alike (field : Field) :
    (Tree.node label left).childKind? field = (Tree.node label right).childKind? field := by
  exact map_option_related (Tree.child?_alike related field) fun _ _ found => found.1.kind

theorem Tree.namedChildren_alike :
    List.Forall₂ (Tree.AlikeUnder source label.kind) (Tree.node label left).namedChildren
      (Tree.node label right).namedChildren :=
  Tree.namedChildren_related related fun _ _ alike => alike.named

private theorem Tree.content?_alike :
    (Tree.node label left).content?.map (Tree.outlook source) =
      (Tree.node label right).content?.map (Tree.outlook source) :=
  map_option_related (Tree.content?_related related fun _ _ alike => alike.content)
    fun _ _ alike => alike.outlook

theorem boundNames_child?_alike (field : Field) :
    (((Tree.node label left).child? field).toList.flatMap Tree.boundNames).map (Tree.text source) =
      (((Tree.node label right).child? field).toList.flatMap Tree.boundNames).map
        (Tree.text source) := by
  rw [List.map_flatMap, List.map_flatMap]
  exact flatMap_toList_related (Tree.child?_alike related field) fun _ _ found => found.1.names

private theorem boundNames_namedChildren_alike :
    ((Tree.node label left).namedChildren.flatMap Tree.boundNames).map (Tree.text source) =
      ((Tree.node label right).namedChildren.flatMap Tree.boundNames).map (Tree.text source) := by
  rw [List.map_flatMap, List.map_flatMap]
  exact flatMap_related (Tree.namedChildren_alike related) fun _ _ alike => alike.names

private theorem boundNames_alike :
    (Tree.node label left).boundNames.map (Tree.text source) =
      (Tree.node label right).boundNames.map (Tree.text source) := by
  rw [Tree.boundNames_eq, Tree.boundNames_eq]
  simp only [Tree.kind, Tree.label]
  split
  case h_1 | h_2 => rfl
  case h_3 | h_4 => exact boundNames_child?_alike related .left
  case h_5 => exact boundNames_child?_alike related .value
  case h_6 | h_7 => exact boundNames_child?_alike related .pattern
  case h_8 | h_9 | h_10 => exact boundNames_namedChildren_alike related
  case h_11 => rfl

private theorem literalValue_alike :
    Literal.value source (.node label left) = Literal.value source (.node label right) := by
  unfold Literal.value
  rw [flatMap_related (Tree.namedChildren_alike related)]
  intro l r alike
  unfold Literal.fragmentValue
  rw [alike.kind, alike.text]

theorem operands?_alike :
    (Tree.node label left).operands? source = (Tree.node label right).operands? source :=
  Tree.operands?_congr source
    (map_option_related (Tree.child?_alike related .left) fun _ _ found => found.1.outlook)
    (map_option_related (Tree.child?_alike related .right) fun _ _ found => found.1.outlook)
    (Tree.childKind?_alike related .operator)

private theorem face_classify_alike
    (simple : label.kind ≠ .binaryExpression) :
    (Expr.classify (.node label left)).face source =
      (Expr.classify (.node label right)).face source := by
  simp only [Expr.classify, Tree.kind, Tree.label]
  split
  case h_1 => contradiction
  case h_3 =>
    cases Call.ofTree? (.node label left) <;> cases Call.ofTree? (.node label right) <;> rfl
  case h_8 =>
    simp only [Expr.face, literalValue_alike related]
    rfl
  all_goals rfl

private theorem outlook_alike :
    (Tree.node label left).outlook source = (Tree.node label right).outlook source :=
  Tree.outlook_congr source rfl rfl
    (Tree.content?_alike related)
    (fun _ => operands?_alike related) (face_classify_alike related)

private theorem declarator_alike (kind : BindingKind) :
    (Declaration.ofDeclarator kind (.node label left)).map (Declaration.entry source) =
      (Declaration.ofDeclarator kind (.node label right)).map (Declaration.entry source) :=
  Declaration.entries_ofDeclarator_congr
    (option_related_imp (Tree.child?_alike related .name) fun _ _ found => found.1.toAlike)
    (map_option_related (Tree.child?_alike related .value) fun _ _ found => found.1.outlook) kind

theorem declared_alike (kind : BindingKind) :
    (Declaration.declared kind (.node label left)).map (Declaration.entry source) =
      (Declaration.declared kind (.node label right)).map (Declaration.entry source) := by
  rw [← Declaration.ofDeclarators_eq_declared, ← Declaration.ofDeclarators_eq_declared]
  unfold Declaration.ofDeclarators
  rw [List.map_flatMap, List.map_flatMap]
  apply flatMap_related (filter_related (Tree.namedChildren_alike related) _)
  · intro l r kept
    exact kept.1.declarator (of_decide_eq_true kept.2) kind
  · intro l r alike
    rw [alike.kind]

private theorem ownName_alike :
    ((Tree.node label left).child? .name).toList.map (Tree.text source) =
      ((Tree.node label right).child? .name).toList.map (Tree.text source) := by
  rw [← Option.toList_map, ← Option.toList_map,
    map_option_related (Tree.child?_alike related .name) fun _ _ found => found.1.text]

theorem standingAt_alike (hoists own : Bool) :
    (Declaration.standingAt hoists own (.node label left)).map (Declaration.entry source) =
      (Declaration.standingAt hoists own (.node label right)).map (Declaration.entry source) := by
  unfold Declaration.standingAt
  simp only [Tree.kind, Tree.label, Tree.childKind?_alike related]
  split
  case h_1 =>
    cases hoists with
    | true => exact declared_alike related .varName
    | false => rfl
  case h_2 =>
    split
    · exact Declaration.entries_plain_congr (boundNames_child?_alike related .left) .varName
    · rfl
  case h_3 =>
    cases own with
    | true => exact declared_alike related _
    | false => rfl
  case h_4 | h_5 =>
    cases own with
    | true => exact Declaration.entries_plain_congr (ownName_alike related) .function
    | false => rfl
  case h_6 =>
    cases own with
    | true => exact Declaration.entries_plain_congr (ownName_alike related) .classDeclaration
    | false => rfl
  case h_7 => rfl

theorem within_alike (hoists own : Bool)
    (parent : Kind) :
    (Declaration.within hoists own parent (.node label left)).map (Declaration.entry source) =
      (Declaration.within hoists own parent (.node label right)).map (Declaration.entry source) := by
  have below : ∀ direct,
      ((Tree.node label left).namedChildren.flatMap
        (Declaration.within hoists direct label.kind)).map (Declaration.entry source) =
      ((Tree.node label right).namedChildren.flatMap
        (Declaration.within hoists direct label.kind)).map (Declaration.entry source) := by
    intro direct
    rw [List.map_flatMap, List.map_flatMap]
    exact flatMap_related (Tree.namedChildren_alike related)
      fun _ _ alike => alike.declared hoists direct label.kind
  rw [Declaration.within_eq_standingAt, Declaration.within_eq_standingAt, List.map_append,
    List.map_append, standingAt_alike related]
  congr 1
  simp only [Tree.kind, Tree.label]
  cases Declaration.directBelow? hoists own parent label.kind with
  | none => rfl
  | some direct => exact below direct

theorem ofContainer_alike (scope : ScopeKind) :
    (Declaration.ofContainer scope (.node label left)).map (Declaration.entry source) =
      (Declaration.ofContainer scope (.node label right)).map (Declaration.entry source) := by
  unfold Declaration.ofContainer
  rw [Declaration.withinEach_eq_flatMap, Declaration.withinEach_eq_flatMap, List.map_flatMap,
    List.map_flatMap]
  exact flatMap_related (Tree.namedChildren_alike related)
    fun _ _ alike => alike.declared scope.isBoundary true label.kind

private theorem substituted_alike :
    (Template.substituted (.node label left)).inserted source =
      (Template.substituted (.node label right)).inserted source :=
  Template.inserted_congr (Tree.content?_alike related) rfl

/-- Children that are alike make nodes that are alike, under any parent. -/
theorem alikeUnder_node (parent : Kind) :
    Tree.AlikeUnder source parent (.node label left) (.node label right) where
  kind := rfl
  start := rfl
  stop := rfl
  named := rfl
  outlook := outlook_alike related
  names := boundNames_alike related
  declared := within_alike related
  declarator _ := declarator_alike related
  substituted _ := substituted_alike related
  field := rfl
  parameters _ _ := boundNames_namedChildren_alike related
  arguments _ _ := map_related (filter_related related fun _ _ alike => alike.content)
    fun _ _ kept => kept.1.outlook
  body _ _ := ofContainer_alike related

/-! ### What rules and scopes take from a node itself -/

theorem template_reading_alike :
    (Expr.template (.node label left)).reading source =
      (Expr.template (.node label right)).reading source := by
  have substitutions := filter_related (p := fun child => child.kind = .templateSubstitution)
    (Tree.namedChildren_alike related) fun _ _ alike => by rw [alike.kind]
  have values : (Template.expressions (.node label left)).map (Expr.inserted source) =
      (Template.expressions (.node label right)).map (Expr.inserted source) := by
    unfold Template.expressions
    rw [List.map_map, List.map_map]
    apply map_related substitutions
    intro l r kept
    exact kept.1.substituted (of_decide_eq_true kept.2)
  have quasis : Template.quasis source (.node label left) =
      Template.quasis source (.node label right) :=
    quasisFrom_related substitutions (fun _ _ kept => ⟨kept.1.start, kept.1.stop⟩) _
  rw [Expr.reading, Expr.reading, values, quasis]

theorem call_ofTree?_alike
    (isCall : label.kind = .callExpression) :
    Option.Rel (fun l r : Call => (Expr.call l).reading source = (Expr.call r).reading source)
      (Call.ofTree? (.node label left)) (Call.ofTree? (.node label right)) := by
  have optional : ((Tree.node label left).child? .optionalChain).isSome =
      ((Tree.node label right).child? .optionalChain).isSome := by
    have linked := congrArg Option.isSome (Tree.childKind?_alike related .optionalChain)
    rw [Tree.childKind?, Tree.childKind?, Option.isSome_map, Option.isSome_map] at linked
    exact linked
  have calleeRole := Tree.child?_alike related .function
  have argumentsRole := Tree.child?_alike related .arguments
  unfold Call.ofTree?
  generalize (Tree.node label left).child? .function = l,
    (Tree.node label right).child? .function = r at calleeRole
  generalize (Tree.node label left).child? .arguments = l',
    (Tree.node label right).child? .arguments = r' at argumentsRole
  cases calleeRole with
  | none => exact .none
  | some callee =>
      cases argumentsRole with
      | none => exact .none
      | some arguments =>
          -- A call reads the text of its callee and looks into its arguments, so both must be alike
          -- in these roles.
          apply Option.Rel.some
          simp only [Expr.reading, Rule.isInspected, Call.isTagged, Call.isOptional,
            Call.calleeName?, Call.argumentOutlooks, callee.1.kind, callee.1.text,
            arguments.1.kind, arguments.1.arguments isCall arguments.2, optional]
          rfl

theorem reading_alike :
    (Tree.node label left).reading source = (Tree.node label right).reading source := by
  refine Tree.reading_congr source rfl rfl (fun _ => operands?_alike related) ?_
  intro simple
  unfold Expr.classify
  simp only [Tree.kind, Tree.label] at simple ⊢
  split
  case h_1 => contradiction
  case h_2 => exact template_reading_alike related
  case h_3 isCall =>
    have calls := call_ofTree?_alike related isCall
    generalize Call.ofTree? (.node label left) = l, Call.ofTree? (.node label right) = r at calls
    cases calls with
    | none => rfl
    | some same => exact same
  all_goals rfl

theorem headOf_alike (scope : ScopeKind)
    (isFunction : scope = .function → label.kind.isFunction = true) :
    (Declaration.headOf scope (.node label left)).map (Declaration.entry source) =
      (Declaration.headOf scope (.node label right)).map (Declaration.entry source) := by
  have role : ∀ kind field,
      (Declaration.plain kind (((Tree.node label left).child? field).toList.flatMap
        Tree.boundNames)).map (Declaration.entry source) =
      (Declaration.plain kind (((Tree.node label right).child? field).toList.flatMap
        Tree.boundNames)).map (Declaration.entry source) := fun kind field =>
    Declaration.entries_plain_congr (boundNames_child?_alike related field) kind
  cases scope with
  | function =>
      have parameters :
          ((((Tree.node label left).child? .parameters).toList.flatMap Tree.namedChildren).flatMap
            Tree.boundNames).map (Tree.text source) =
          ((((Tree.node label right).child? .parameters).toList.flatMap Tree.namedChildren).flatMap
            Tree.boundNames).map (Tree.text source) := by
        rw [List.flatMap_assoc, List.flatMap_assoc, List.map_flatMap, List.map_flatMap]
        exact flatMap_toList_related (Tree.child?_alike related .parameters)
          fun _ _ found => found.1.parameters (isFunction rfl) found.2
      simp only [Declaration.headOf, List.map_append, role,
        Declaration.entries_plain_congr parameters]
      congr 2
      by_cases selfNamed : label.kind ∈ [Kind.functionExpression, .functionKeyword, .generatorFunction]
      · have heads : ∀ children, (Tree.node label children).kind ∈ _ := fun _ => selfNamed
        rw [if_pos (heads left), if_pos (heads right)]
        exact Declaration.entries_plain_congr (ownName_alike related) .function
      · have heads : ∀ children, (Tree.node label children).kind ∉ _ := fun _ => selfNamed
        rw [if_neg (heads left), if_neg (heads right)]
  | catchClause => exact role .catchParameter .parameter
  | loop =>
      simp only [Declaration.headOf, Tree.childKind?_alike related]
      by_cases overElements : label.kind = .forInStatement
      · have heads : ∀ children, (Tree.node label children).kind = .forInStatement :=
          fun _ => overElements
        rw [if_pos (heads left), if_pos (heads right)]
        split
        · exact role .letName .left
        · split
          · exact role .constName .left
          · rfl
      · have heads : ∀ children, (Tree.node label children).kind ≠ .forInStatement :=
          fun _ => overElements
        rw [if_neg (heads left), if_neg (heads right)]
  | program => rfl
  | block => rfl

theorem ofScope_alike (scope : ScopeKind)
    (isFunction : scope = .function → label.kind.isFunction = true)
    (isCatch : scope = .catchClause → label.kind = .catchClause) :
    (Declaration.ofScope scope (.node label left)).map (Declaration.entry source) =
      (Declaration.ofScope scope (.node label right)).map (Declaration.entry source) := by
  have inside : ((Declaration.container? scope (.node label left)).toList.flatMap
        (Declaration.ofContainer scope)).map (Declaration.entry source) =
      ((Declaration.container? scope (.node label right)).toList.flatMap
        (Declaration.ofContainer scope)).map (Declaration.entry source) := by
    rw [List.map_flatMap, List.map_flatMap]
    cases scope with
    | program | block | loop =>
        simp only [Declaration.container?, Option.toList_some, List.flatMap_singleton]
        exact ofContainer_alike related _
    | catchClause =>
        exact flatMap_toList_related (Tree.child?_alike related .body)
          fun _ _ found => found.1.body (.inl (isCatch rfl)) found.2 .catchClause
    | function =>
        have body := Tree.child?_alike related .body
        unfold Declaration.container?
        generalize (Tree.node label left).child? .body = l,
          (Tree.node label right).child? .body = r at body
        cases body with
        | none => rfl
        | some found =>
            simp only [Option.filter_some, ← found.1.kind]
            split
            · rename_i block
              simp only [Option.toList_some, List.flatMap_singleton]
              exact found.1.body (.inr ⟨isFunction rfl, of_decide_eq_true block⟩) found.2 .function
            · rfl
  rw [Declaration.ofScope_eq_headOf, Declaration.ofScope_eq_headOf, List.map_append,
    List.map_append, headOf_alike related scope isFunction, inside]

theorem ofOpenedScope_alike {parent : Option Kind}
    {scope : ScopeKind} (opened : ScopeKind.opened? parent label.kind = some scope) :
    (Frame.ofScope source scope (.node label left)).entries source =
      (Frame.ofScope source scope (.node label right)).entries source := by
  obtain ⟨isFunction, isCatch⟩ := ScopeKind.kind_of_opened? opened
  rw [Frame.entries_ofScope, Frame.entries_ofScope, ofScope_alike related scope isFunction isCatch]

theorem enter_alike {chain other : Chain}
    (sameEntries : chain.map (Frame.entries source) = other.map (Frame.entries source))
    (parent : Kind) :
    (Visit.enter source chain parent (.node label left)).map (Frame.entries source) =
      (Visit.enter source other parent (.node label right)).map (Frame.entries source) := by
  unfold Visit.enter
  simp only [Tree.kind, Tree.label]
  cases opened : ScopeKind.opened? (some parent) label.kind with
  | none => exact sameEntries
  | some scope =>
      rw [List.map_cons, List.map_cons, ofOpenedScope_alike related opened, sameEntries]

theorem rootFrame_alike :
    (Visit.rootFrame source ⟨none, .node label left⟩).entries source =
      (Visit.rootFrame source ⟨none, .node label right⟩).entries source := by
  unfold Visit.rootFrame
  simp only [Tree.kind, Tree.label]
  cases opened : ScopeKind.opened? none label.kind with
  | some scope => exact ofOpenedScope_alike related opened
  | none =>
      rw [Option.getD_none, Frame.entries_ofScope, Frame.entries_ofScope,
        ofScope_alike related .program]
      · intro same
        cases same
      · intro same
        cases same

end Node

end InjectionLint
