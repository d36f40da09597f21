import InjectionLint.Proofs.Rule.Replacement
import Mathlib.Logic.Relation

/-!
Comments among the children of a node. A parser puts them in between wherever the text has one, as
named nodes without a role. Whoever looks for a role passes them over, whoever looks for content skips
them, and as a pattern, a statement or a place for rules they have nothing to give. Only the value of a
string takes in every named child, so that a comment there would count.

Main statement: comments anywhere but in strings do not change what detection finds
(`comments_invisible`).
-/

set_option autoImplicit false

namespace InjectionLint

structure Tree.IsComment (tree : Tree) : Prop where
  kind : tree.kind = .comment
  named : tree.isNamed = true
  roleless : tree.label.field = none
  leaf : tree.children = []

/-! ### A comment by itself -/

namespace Tree.IsComment

variable {comment : Tree} (isComment : comment.IsComment)

include isComment

private theorem not_content : comment.isContent = false := by
  rw [isContent, isComment.named, isComment.kind]
  rfl

private theorem namedChildren_eq : comment.namedChildren = [] := by
  rw [namedChildren, isComment.leaf, List.filter_nil]

theorem boundNames_eq : comment.boundNames = [] := by
  rw [Tree.boundNames_eq, isComment.kind]

theorem within_eq (hoists own : Bool) (parent : Kind) :
    Declaration.within hoists own parent comment = [] := by
  rw [Declaration.within_eq_standingAt, isComment.namedChildren_eq, Declaration.standingAt,
    isComment.kind]
  rfl

private theorem detectBelow_eq (source : String) (chain : Chain) (parent : Kind) :
    Rule.detectBelow source chain parent comment = [] := by
  have silent : ∀ chain, Rule.emitted source ⟨comment, chain⟩ = [] := by
    intro chain
    simp only [Rule.emitted, Expr.classify, isComment.kind]
    rfl
  rw [Rule.detectBelow, if_pos isComment.named, Rule.detectFrom_eq, silent,
    isComment.namedChildren_eq]
  rfl

end Tree.IsComment

/-! ### Among siblings -/

section Siblings

variable {comment : Tree} (before after : List Tree)

private theorem find?_gap {p : Tree → Bool} (skipped : p comment = false) :
    (before ++ comment :: after).find? p = (before ++ after).find? p := by
  rw [List.find?_append, List.find?_append, List.find?_cons_of_neg]
  rw [skipped]
  exact Bool.false_ne_true

private theorem filter_gap {p : Tree → Bool} (skipped : p comment = false) :
    (before ++ comment :: after).filter p = (before ++ after).filter p := by
  rw [List.filter_append, List.filter_append, List.filter_cons_of_neg]
  rw [skipped]
  exact Bool.false_ne_true

private theorem flatMap_gap {β : Type} {f : Tree → List β} (empty : f comment = []) :
    (before ++ comment :: after).flatMap f = (before ++ after).flatMap f := by
  rw [List.flatMap_append, List.flatMap_append, List.flatMap_cons, empty, List.nil_append]

end Siblings

/-! ### A node with one more comment -/

section Node

variable {source : String} {label : Label} {before after : List Tree} {comment : Tree}
  (isComment : comment.IsComment)

include isComment

theorem Tree.child?_commented (field : Field) :
    (Tree.node label (before ++ comment :: after)).child? field =
      (Tree.node label (before ++ after)).child? field := by
  apply find?_gap
  rw [isComment.roleless]
  rfl

private theorem Tree.childKind?_commented (field : Field) :
    (Tree.node label (before ++ comment :: after)).childKind? field =
      (Tree.node label (before ++ after)).childKind? field := by
  unfold Tree.childKind?
  rw [Tree.child?_commented isComment]

private theorem Tree.content?_commented :
    (Tree.node label (before ++ comment :: after)).content? =
      (Tree.node label (before ++ after)).content? :=
  find?_gap before after isComment.not_content

theorem Tree.flatMap_namedChildren_commented {β : Type} {f : Tree → List β}
    (empty : f comment = []) :
    (Tree.node label (before ++ comment :: after)).namedChildren.flatMap f =
      (Tree.node label (before ++ after)).namedChildren.flatMap f := by
  rw [Tree.namedChildren_node, Tree.namedChildren_node, List.filter_append,
    List.filter_cons_of_pos isComment.named, flatMap_gap _ _ empty, ← List.filter_append]

theorem Tree.ofKind_namedChildren_commented (kind : Kind) (other : kind ≠ .comment) :
    ((Tree.node label (before ++ comment :: after)).namedChildren.filter (·.kind = kind)) =
      (Tree.node label (before ++ after)).namedChildren.filter (·.kind = kind) := by
  rw [Tree.namedChildren_node, Tree.namedChildren_node, List.filter_append,
    List.filter_cons_of_pos isComment.named, filter_gap, ← List.filter_append]
  rw [isComment.kind]
  exact decide_eq_false other.symm

private theorem boundNames_commented :
    (Tree.node label (before ++ comment :: after)).boundNames.map (Tree.text source) =
      (Tree.node label (before ++ after)).boundNames.map (Tree.text source) := by
  rw [Tree.boundNames_eq, Tree.boundNames_eq]
  simp only [Tree.child?_commented isComment,
    Tree.flatMap_namedChildren_commented isComment isComment.boundNames_eq]
  simp only [Tree.kind, Tree.label]
  split <;> rfl

private theorem ofDeclarator_commented (kind : BindingKind) :
    Declaration.ofDeclarator kind (.node label (before ++ comment :: after)) =
      Declaration.ofDeclarator kind (.node label (before ++ after)) := by
  unfold Declaration.ofDeclarator
  simp only [Tree.child?_commented isComment]

private theorem standingAt_commented (hoists own : Bool) :
    Declaration.standingAt hoists own (.node label (before ++ comment :: after)) =
      Declaration.standingAt hoists own (.node label (before ++ after)) := by
  unfold Declaration.standingAt Declaration.declared
  simp only [Tree.ofKind_namedChildren_commented isComment .variableDeclarator nofun,
    Tree.child?_commented isComment, Tree.childKind?_commented isComment]
  rfl

private theorem within_commented (hoists own : Bool) (parent : Kind) :
    Declaration.within hoists own parent (.node label (before ++ comment :: after)) =
      Declaration.within hoists own parent (.node label (before ++ after)) := by
  rw [Declaration.within_eq_standingAt, Declaration.within_eq_standingAt,
    standingAt_commented isComment]
  simp only [Tree.kind, Tree.label,
    Tree.flatMap_namedChildren_commented isComment (isComment.within_eq _ _ _)]

theorem ofContainer_commented (scope : ScopeKind) :
    Declaration.ofContainer scope (.node label (before ++ comment :: after)) =
      Declaration.ofContainer scope (.node label (before ++ after)) := by
  unfold Declaration.ofContainer
  rw [Declaration.withinEach_eq_flatMap, Declaration.withinEach_eq_flatMap]
  exact Tree.flatMap_namedChildren_commented isComment (isComment.within_eq _ _ _)

theorem ofScope_commented (scope : ScopeKind) :
    Declaration.ofScope scope (.node label (before ++ comment :: after)) =
      Declaration.ofScope scope (.node label (before ++ after)) := by
  have head : Declaration.headOf scope (.node label (before ++ comment :: after)) =
      Declaration.headOf scope (.node label (before ++ after)) := by
    unfold Declaration.headOf
    simp only [Tree.child?_commented isComment, Tree.childKind?_commented isComment]
    rfl
  rw [Declaration.ofScope_eq_headOf, Declaration.ofScope_eq_headOf, head]
  congr 1
  cases scope with
  | program | block | loop =>
      simp only [Declaration.container?, Option.toList_some, List.flatMap_singleton]
      exact ofContainer_commented isComment _
  | function | catchClause =>
      simp only [Declaration.container?, Tree.child?_commented isComment]

theorem operands?_commented :
    (Tree.node label (before ++ comment :: after)).operands? source =
      (Tree.node label (before ++ after)).operands? source := by
  apply Tree.operands?_congr source
  · rw [Tree.child?_commented isComment]
  · rw [Tree.child?_commented isComment]
  · exact Tree.childKind?_commented isComment .operator

private theorem outlook_commented (notString : label.kind ≠ .stringLiteral) :
    (Tree.node label (before ++ comment :: after)).outlook source =
      (Tree.node label (before ++ after)).outlook source := by
  refine Tree.outlook_congr source rfl rfl ?_ (fun _ => operands?_commented isComment) ?_
  · rw [Tree.content?_commented isComment]
  · intro simple
    simp only [Expr.classify, Tree.kind, Tree.label] at simple ⊢
    split
    case h_1 => contradiction
    case h_3 =>
      cases Call.ofTree? (.node label (before ++ comment :: after)) <;>
        cases Call.ofTree? (.node label (before ++ after)) <;> rfl
    case h_8 => contradiction
    all_goals rfl

private theorem template_reading_commented :
    (Expr.template (.node label (before ++ comment :: after))).reading source =
      (Expr.template (.node label (before ++ after))).reading source := by
  unfold Expr.reading Template.expressions Template.quasis Template.substitutions
  simp only [Tree.ofKind_namedChildren_commented isComment .templateSubstitution nofun]
  rfl

private theorem call_reading_commented :
    (((Call.ofTree? (.node label (before ++ comment :: after))).map Expr.call).getD
        (.other (.node label (before ++ comment :: after)))).reading source =
      (((Call.ofTree? (.node label (before ++ after))).map Expr.call).getD
        (.other (.node label (before ++ after)))).reading source := by
  unfold Call.ofTree?
  rw [Tree.child?_commented isComment, Tree.child?_commented isComment]
  split
  · -- The call itself is looked at once more, for the sign that it is optional.
    simp only [Option.map_some, Option.getD_some, Expr.reading, Rule.isInspected, Call.isOptional,
      Tree.child?_commented isComment]
    rfl
  · rfl

private theorem reading_commented :
    (Tree.node label (before ++ comment :: after)).reading source =
      (Tree.node label (before ++ after)).reading source := by
  refine Tree.reading_congr source rfl rfl (fun _ => operands?_commented isComment) ?_
  intro simple
  unfold Expr.classify
  simp only [Tree.kind, Tree.label] at simple ⊢
  split
  case h_1 => contradiction
  case h_2 => exact template_reading_commented isComment
  case h_3 => exact call_reading_commented isComment
  all_goals rfl

theorem alikeUnder_commented (notString : label.kind ≠ .stringLiteral) (parent : Kind) :
    Tree.AlikeUnder source parent (.node label (before ++ comment :: after))
      (.node label (before ++ after)) where
  kind := rfl
  start := rfl
  stop := rfl
  named := rfl
  field := rfl
  outlook := outlook_commented isComment notString
  names := boundNames_commented isComment
  declared := by
    intro hoists own above
    rw [within_commented isComment]
  declarator := by
    intro _ kind
    rw [ofDeclarator_commented isComment]
  substituted := by
    intro _
    refine Template.inserted_congr ?_ rfl
    rw [Tree.content?_commented isComment]
  parameters := by
    intro _ _
    rw [Tree.flatMap_namedChildren_commented isComment isComment.boundNames_eq]
  arguments := by
    intro _ _
    exact congrArg (List.map (Tree.outlook source)) (filter_gap before after isComment.not_content)
  body := by
    intro _ _ scope
    rw [ofContainer_commented isComment]

private theorem frame_commented (scope : ScopeKind) :
    Frame.ofScope source scope (.node label (before ++ comment :: after)) =
      Frame.ofScope source scope (.node label (before ++ after)) := by
  unfold Frame.ofScope
  rw [ofScope_commented isComment]

private theorem enter_commented (chain : Chain) (parent : Kind) :
    Visit.enter source chain parent (.node label (before ++ comment :: after)) =
      Visit.enter source chain parent (.node label (before ++ after)) := by
  unfold Visit.enter
  simp only [frame_commented isComment]
  rfl

private theorem rootFrame_commented :
    Visit.rootFrame source ⟨none, .node label (before ++ comment :: after)⟩ =
      Visit.rootFrame source ⟨none, .node label (before ++ after)⟩ := by
  unfold Visit.rootFrame
  simp only [frame_commented isComment]
  rfl

private theorem detectFrom_commented (chain : Chain) :
    Rule.detectFrom source chain (.node label (before ++ comment :: after)) =
      Rule.detectFrom source chain (.node label (before ++ after)) := by
  rw [Rule.detectFrom_node, Rule.detectFrom_node,
    Rule.emitted_congr (reading_commented isComment) rfl,
    flatMap_gap before after (isComment.detectBelow_eq source chain label.kind)]

end Node

/-! ### Comments in a tree -/

/-- A comment is put somewhere among the children of a node that is no string. -/
inductive Tree.GainsComment : Tree → Tree → Prop where
  | insert (context : Context) (label : Label) (before after : List Tree) (comment : Tree)
      (isComment : comment.IsComment) (notString : label.kind ≠ .stringLiteral) :
      GainsComment (context.fill (.node label (before ++ after)))
        (context.fill (.node label (before ++ comment :: after)))

theorem detect_gainsComment {tree commented : Tree} (step : tree.GainsComment commented)
    (source : String) : Rule.detect source commented = Rule.detect source tree := by
  cases step with
  | insert context label before after comment isComment notString =>
      have alike : context.Alike source (.node label (before ++ comment :: after))
          (.node label (before ++ after)) :=
        fun parent _ => alikeUnder_commented isComment notString parent
      have sameRoots :
          [Visit.rootFrame source ⟨none,
            context.fill (.node label (before ++ comment :: after))⟩].map (Frame.entries source) =
          [Visit.rootFrame source ⟨none, context.fill (.node label (before ++ after))⟩].map
            (Frame.entries source) := by
        rw [List.map_singleton, List.map_singleton]
        cases context with
        | nil => exact congrArg (fun frame => [frame.entries source]) (rootFrame_commented isComment)
        | cons outer rest => rw [rootFrame_fill (List.cons_ne_nil outer rest) alike]
      rw [Rule.detect_eq_detectFrom, Rule.detect_eq_detectFrom]
      refine detectFrom_fill_congr alike ?_ ?_ sameRoots
      · intro parent chain other sameEntries
        rw [enter_commented isComment, Visit.enter_eq_append, Visit.enter_eq_append,
          List.map_append, List.map_append, sameEntries]
      · intro chain other sameEntries
        rw [Rule.detectFrom_congr_chain sameEntries]
        exact detectFrom_commented isComment other

/-- Detection finds the same in a tree whatever comments are put into it, however many. -/
theorem comments_invisible (source path : String) (variant : Variant) (tree commented : Tree)
    (steps : Relation.ReflTransGen Tree.GainsComment tree commented) :
    (detectInjection ⟨commented, source, path, variant⟩).value =
      (detectInjection ⟨tree, source, path, variant⟩).value := by
  induction steps with
  | refl => rfl
  | tail _ step ih => exact (detect_gainsComment step source).trans ih

def annotatedSource : String :=
  "db(/* a */(/* b */\"select where\" + x));"

def remark (start stop : Nat) : Tree :=
  .node ⟨.comment, start, stop, none, true, none, false⟩ []

def annotatedAddition : Tree :=
  .node ⟨.binaryExpression, 18, 36, none, true, none, false⟩
    [.node ⟨.stringLiteral, 18, 32, some .left, true, none, false⟩
        [.node ⟨.other "string_fragment", 19, 31, none, true, none, false⟩ []],
      .node ⟨.plus, 33, 34, some .operator, false, none, false⟩ [],
      .node ⟨.identifier, 35, 36, some .right, true, none, false⟩ []]

def annotatedCall : Context :=
  [⟨⟨.program, 0, 39, none, true, none, false⟩, [], []⟩,
    ⟨⟨.other "expression_statement", 0, 39, none, true, none, false⟩, [], []⟩,
    ⟨⟨.callExpression, 0, 38, none, true, none, false⟩,
      [.node ⟨.identifier, 0, 2, some .function, true, none, false⟩ []], []⟩]

def annotatedArguments (before inner : List Tree) : Tree :=
  .node ⟨.other "arguments", 2, 38, some .arguments, true, none, false⟩
    (before ++ [.node ⟨.parenthesizedExpression, 10, 37, none, true, none, false⟩
      (inner ++ [annotatedAddition])])

/-- A comment comes before the argument, then one inside its parentheses. -/
theorem annotated_query_found :
    (Rule.detect annotatedSource (annotatedCall.fill (annotatedArguments [] []))).map (·.origin) =
      [.callArgument, .concatenation] ∧
    (detectInjection ⟨annotatedCall.fill (annotatedArguments [remark 3 10] [remark 11 18]),
      annotatedSource, "f.js", .javascript⟩).value =
    (detectInjection ⟨annotatedCall.fill (annotatedArguments [] []), annotatedSource, "f.js",
      .javascript⟩).value := by
  refine ⟨by decide +kernel, ?_⟩
  apply comments_invisible
  have outer := Tree.GainsComment.insert annotatedCall
    ⟨.other "arguments", 2, 38, some .arguments, true, none, false⟩ []
    [.node ⟨.parenthesizedExpression, 10, 37, none, true, none, false⟩ [annotatedAddition]]
    (remark 3 10) ⟨rfl, rfl, rfl, rfl⟩ nofun
  have inner := Tree.GainsComment.insert
    (annotatedCall ++ [⟨⟨.other "arguments", 2, 38, some .arguments, true, none, false⟩,
      [remark 3 10], []⟩])
    ⟨.parenthesizedExpression, 10, 37, none, true, none, false⟩ [] [annotatedAddition]
    (remark 11 18) ⟨rfl, rfl, rfl, rfl⟩ nofun
  exact (Relation.ReflTransGen.single outer).tail inner

end InjectionLint
