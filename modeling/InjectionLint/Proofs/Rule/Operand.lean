import InjectionLint.Proofs.Rule.Reading
import Mathlib.Data.List.Infix

/-!
The notions that the rules are built on, said without the searches that decide them: what it is for a
text to hold a word, for a node to operate on two others or to stand in parentheses, and for a tree to
begin with a node at the far left of a chain of additions.

Main statements: a search for a word tells whether the text holds it (`mentions_iff_holds`), the kind of
a node tells the kind of its expression (`kind_classify_iff`), and the descent to the far left ends where
the tree begins, and only there (`leftmost_begins`, `Begins.leftmost_eq`).
-/

set_option autoImplicit false

namespace InjectionLint

/-! ### Words in a text -/

private theorem Text.occurs_iff_infix (word text : List Char) :
    Text.occurs word text = true ↔ word <:+: text := by
  induction text with
  | nil => rw [occurs, List.isEmpty_iff, List.infix_nil]
  | cons c rest ih =>
      rw [occurs, Bool.or_eq_true, List.isPrefixOf_iff_prefix, ih, List.infix_cons_iff]

namespace Keyword

def Holds (text word : String) : Prop :=
  word.toList <:+: Text.lowercase text.toList

theorem mentions_iff_holds (word text : String) : mentions word text = true ↔ Holds text word :=
  Text.occurs_iff_infix word.toList (Text.lowercase text.toList)

instance (text word : String) : Decidable (Holds text word) :=
  decidable_of_iff _ (mentions_iff_holds word text)

theorem hasStatement_iff_holds (text : String) :
    hasStatement text = true ↔ ∃ word ∈ ["select", "delete", "update"], Holds text word := by
  simp only [hasStatement, Bool.or_eq_true, mentions_iff_holds, List.mem_cons, List.not_mem_nil,
    or_false, exists_eq_or_imp, exists_eq_left, or_assoc]

theorem hasAny_iff_holds (text : String) :
    hasAny text = true ↔
      ∃ word ∈ ["select", "delete", "update", "where"], Holds text word := by
  simp only [hasAny, hasWhere, hasStatement, Bool.or_eq_true, mentions_iff_holds, List.mem_cons,
    List.not_mem_nil, or_false, exists_eq_or_imp, exists_eq_left, or_assoc]

end Keyword

/-! ### Operations and other expressions -/

structure Tree.Operates (tree : Tree) (operator : Kind) (left right : Tree) : Prop where
  kind : tree.kind = .binaryExpression
  left : tree.child? .left = some left
  right : tree.child? .right = some right
  operator : tree.childKind? .operator = some operator

theorem Tree.isAddition_iff_operates (tree : Tree) :
    tree.isAddition = true ↔ ∃ left right, tree.Operates .plus left right := by
  simp only [isAddition, Bool.and_eq_true, decide_eq_true_eq, Option.isSome_iff_exists]
  constructor
  · rintro ⟨⟨⟨isBinary, left, hasLeft⟩, right, hasRight⟩, isPlus⟩
    exact ⟨left, right, isBinary, hasLeft, hasRight, isPlus⟩
  · rintro ⟨left, right, isBinary, hasLeft, hasRight, isPlus⟩
    exact ⟨⟨⟨isBinary, left, hasLeft⟩, right, hasRight⟩, isPlus⟩

def ExprKind.nodeKinds : ExprKind → List Kind
  | .binary => [.binaryExpression]
  | .template => [.templateString]
  | .call => [.callExpression]
  | .identifier => [.identifier, .undefinedValue]
  | .member => [.memberExpression, .subscriptExpression]
  | .stringLiteral => [.stringLiteral]
  | .numericLiteral => [.numberLiteral]
  | .booleanLiteral => [.trueLiteral, .falseLiteral]
  | .other => []

namespace Expr

theorem classify_eq_binary_iff (tree : Tree) (operation : Binary) :
    classify tree = .binary operation ↔
      operation.node = tree ∧ tree.Operates operation.operator operation.left operation.right := by
  constructor
  · intro classified
    unfold classify at classified
    split at classified
    case h_1 isBinary =>
      unfold Binary.ofTree? at classified
      split at classified
      · rename_i left right operator hasLeft hasRight hasOperator
        cases classified
        exact ⟨rfl, isBinary, hasLeft, hasRight, hasOperator⟩
      · cases classified
    case h_3 => cases found : Call.ofTree? tree <;> rw [found] at classified <;> cases classified
    all_goals cases classified
  · rintro ⟨rfl, operates⟩
    simp only [classify, operates.kind, Binary.ofTree?, operates.left, operates.right,
      operates.operator, Option.map_some, Option.getD_some]

theorem kind_mem_nodeKinds {tree : Tree} (known : (classify tree).kind ≠ .other) :
    tree.kind ∈ (classify tree).kind.nodeKinds := by
  revert known
  unfold classify
  split
  case h_1 isBinary =>
    rw [isBinary]
    cases Binary.ofTree? tree with
    | none => exact absurd rfl
    | some operation => exact fun _ => List.mem_singleton_self _
  case h_3 isCall =>
    rw [isCall]
    cases Call.ofTree? tree with
    | none => exact absurd rfl
    | some call => exact fun _ => List.mem_singleton_self _
  case h_12 => exact absurd rfl
  all_goals
    rename_i isKind
    simp [isKind, Expr.kind, ExprKind.nodeKinds]

/-- But for operations and calls, which may lack a part, the kind of a node decides. -/
theorem kind_classify_iff (tree : Tree) (kind : ExprKind)
    (whole : kind ∉ [ExprKind.binary, .call, .other]) :
    (classify tree).kind = kind ↔ tree.kind ∈ kind.nodeKinds := by
  constructor
  · rintro rfl
    apply kind_mem_nodeKinds
    intro isOther
    rw [isOther] at whole
    exact whole (by decide)
  · intro isKind
    cases kind with
    | binary | call | other => exact absurd (by decide) whole
    | template | stringLiteral | numericLiteral =>
        have isKind := List.mem_singleton.mp isKind
        simp only [classify, isKind, Expr.kind]
    | identifier | member | booleanLiteral =>
        rcases List.mem_pair.mp isKind with isKind | isKind <;>
          simp only [classify, isKind, Expr.kind]

theorem classify_eq_identifier_iff (tree node : Tree) :
    classify tree = .identifier node ↔
      node = tree ∧ tree.kind ∈ [.identifier, .undefinedValue] := by
  have decided := kind_classify_iff tree .identifier (by decide)
  have itself := node_classify tree
  constructor
  · intro classified
    rw [classified] at decided itself
    exact ⟨itself, decided.mp rfl⟩
  · rintro ⟨rfl, isName⟩
    have isIdentifier := decided.mpr isName
    cases classified : classify node <;> rw [classified] at itself isIdentifier <;> cases isIdentifier
    exact congrArg _ itself

theorem stringValue?_classify_eq_some_iff (source : String) (tree : Tree) (value : String) :
    (classify tree).stringValue? source = some value ↔
      tree.kind = .stringLiteral ∧ Literal.value source tree = value := by
  have decided := kind_classify_iff tree .stringLiteral (by decide)
  have itself := node_classify tree
  rw [ExprKind.nodeKinds, List.mem_singleton] at decided
  rw [← decided]
  cases classified : classify tree with
  | stringLiteral node =>
      rw [classified] at itself
      obtain rfl : node = tree := itself
      simp [Expr.kind, stringValue?]
  | _ => simp [Expr.kind, stringValue?]

end Expr

/-! ### Parentheses and chains of additions -/

inductive Tree.InParentheses (inner : Tree) : Tree → Prop where
  | bare : InParentheses inner inner
  | wrapped {outer content : Tree} (isWrapper : outer.kind = .parenthesizedExpression)
      (holds : outer.content? = some content) (inside : InParentheses inner content) :
      InParentheses inner outer

/-- A node is at the far left of a tree, through parentheses and left operands of additions only. -/
inductive Tree.Begins (first : Tree) : Tree → Prop where
  | here (unwrapped : first.kind = .parenthesizedExpression → first.content? = none)
      (single : ∀ left right, ¬first.Operates .plus left right) : Begins first first
  | wrapped {tree content : Tree} (isWrapper : tree.kind = .parenthesizedExpression)
      (holds : tree.content? = some content) (inside : Begins first content) : Begins first tree
  | added {tree left right : Tree} (adds : tree.Operates .plus left right)
      (inside : Begins first left) : Begins first tree

namespace Tree

private theorem bare_of_content {tree content : Tree}
    (isWrapper : tree.kind = .parenthesizedExpression)
    (holds : tree.content? = some content) : tree.bare = content.bare := by
  rw [bare_eq tree, if_pos isWrapper, holds]
  rfl

private theorem leftmost_of_content {tree content : Tree}
    (isWrapper : tree.kind = .parenthesizedExpression)
    (holds : tree.content? = some content) : tree.leftmost = content.leftmost := by
  rw [leftmost_eq tree, if_pos isWrapper, holds]
  rfl

theorem Operates.bareKind {tree left right : Tree} {operator : Kind}
    (operates : tree.Operates operator left right) : tree.kind ≠ .parenthesizedExpression := by
  rw [operates.kind]
  exact Kind.noConfusion

theorem Operates.leftmost_eq {tree left right : Tree} (adds : tree.Operates .plus left right) :
    tree.leftmost = left.leftmost := by
  have isAddition := tree.isAddition_iff_operates.mpr ⟨left, right, adds⟩
  rw [Tree.leftmost_eq tree, if_neg adds.bareKind, if_pos isAddition, adds.left]
  rfl

theorem InParentheses.leftmost_eq {inner outer : Tree} (within : inner.InParentheses outer) :
    outer.leftmost = inner.leftmost := by
  induction within with
  | bare => rfl
  | wrapped isWrapper holds _ ih => rw [leftmost_of_content isWrapper holds, ih]

theorem bare_inParentheses (tree : Tree) : tree.bare.InParentheses tree := by
  induction tree with
  | step tree ih =>
      by_cases isWrapper : tree.kind = .parenthesizedExpression
      · cases holds : tree.content? with
        | none =>
            rw [bare_eq, if_pos isWrapper, holds]
            exact .bare
        | some content =>
            rw [bare_of_content isWrapper holds]
            exact .wrapped isWrapper holds (ih content (List.mem_of_find?_eq_some holds))
      · rw [bare_eq, if_neg isWrapper]
        exact .bare

private theorem content?_bare {tree : Tree}
    (isWrapper : tree.bare.kind = .parenthesizedExpression) :
    tree.bare.content? = none := by
  induction tree with
  | step tree ih =>
      by_cases outside : tree.kind = .parenthesizedExpression
      · cases holds : tree.content? with
        | none =>
            rw [bare_eq, if_pos outside, holds]
            exact holds
        | some content =>
            rw [bare_of_content outside holds] at isWrapper ⊢
            exact ih content (List.mem_of_find?_eq_some holds) isWrapper
      · rw [bare_eq, if_neg outside] at isWrapper
        exact absurd isWrapper outside

theorem leftmost_begins (tree : Tree) : tree.leftmost.Begins tree := by
  induction tree with
  | step tree ih =>
      by_cases isWrapper : tree.kind = .parenthesizedExpression
      · cases holds : tree.content? with
        | none =>
            rw [leftmost_eq, if_pos isWrapper, holds]
            exact .here (fun _ => holds) fun _ _ adds => adds.bareKind isWrapper
        | some content =>
            rw [leftmost_of_content isWrapper holds]
            exact .wrapped isWrapper holds (ih content (List.mem_of_find?_eq_some holds))
      · by_cases isAddition : tree.isAddition = true
        · obtain ⟨left, right, adds⟩ := tree.isAddition_iff_operates.mp isAddition
          rw [adds.leftmost_eq]
          exact .added adds (ih left (List.mem_of_find?_eq_some adds.left))
        · rw [leftmost_eq, if_neg isWrapper, if_neg isAddition]
          refine .here (fun wrapped => absurd wrapped isWrapper) ?_
          intro left right adds
          exact isAddition (tree.isAddition_iff_operates.mpr ⟨left, right, adds⟩)

theorem Begins.leftmost_eq {first tree : Tree} (begins : first.Begins tree) :
    tree.leftmost = first := by
  induction begins with
  | here unwrapped single =>
      have notAddition : ¬first.isAddition = true := fun isAddition =>
        let ⟨left, right, adds⟩ := first.isAddition_iff_operates.mp isAddition
        single left right adds
      rw [Tree.leftmost_eq first, if_neg notAddition]
      split
      · rename_i isWrapper
        rw [unwrapped isWrapper]
        rfl
      · rfl
  | wrapped isWrapper holds _ ih => rw [leftmost_of_content isWrapper holds, ih]
  | added adds _ ih => rw [adds.leftmost_eq, ih]

theorem Begins.bare_eq {first tree : Tree} (begins : first.Begins tree) : first.bare = first := by
  induction begins with
  | here unwrapped _ =>
      rw [Tree.bare_eq first]
      split
      · rename_i isWrapper
        rw [unwrapped isWrapper]
        rfl
      · rfl
  | wrapped _ _ _ ih => exact ih
  | added _ _ ih => exact ih

theorem leftmostExpr_eq_classify (tree : Tree) : tree.leftmostExpr = .classify tree.leftmost := by
  rw [leftmostExpr, Expr.ofTree, tree.leftmost_begins.bare_eq]

theorem leftmost_of_single {tree : Tree}
    (single : ∀ left right, ¬tree.bare.Operates .plus left right) : tree.leftmost = tree.bare := by
  rw [tree.bare_inParentheses.leftmost_eq]
  exact (Begins.here content?_bare single).leftmost_eq

end Tree

end InjectionLint
