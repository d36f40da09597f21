import InjectionLint.Proofs.Rule.Operand
import Mathlib.Data.List.Sort

/-!
Chains of additions. The sums of such a chain stand in one another's left operands, so that a traversal
meets the longest first, and each of them begins with the operand that the chain begins with.

Main statement: the sums of a chain that begins with a query warn of each injectable operand, the last
one first, and those of any other chain of nothing (`sums_warn_from_last_operand`).
-/

set_option autoImplicit false

namespace InjectionLint

/-! ### One addition -/

namespace Tree

def IsQueryText (source : String) (node : Tree) : Prop :=
  node.kind = .stringLiteral ∧ Keyword.Holds (Literal.value source node) "where" ∧
    ∃ word ∈ ["select", "delete", "update"], Keyword.Holds (Literal.value source node) word

instance (source : String) (node : Tree) : Decidable (node.IsQueryText source) :=
  inferInstanceAs (Decidable (_ ∧ _ ∧ _))

def IsInjectable (source : String) (node : Tree) : Prop :=
  node.kind ∈ [.identifier, .undefinedValue, .memberExpression, .subscriptExpression] ∨
    node.kind = .stringLiteral ∧ Rule.singleQuote ∈ (node.text source).toList

instance (source : String) (node : Tree) : Decidable (node.IsInjectable source) :=
  inferInstanceAs (Decidable (_ ∨ _))

end Tree

namespace Rule

variable (source : String)

theorem isInjectable_ofTree_iff (operand : Tree) :
    isInjectable source (.ofTree operand) = true ↔ operand.bare.IsInjectable source := by
  have spread : operand.bare.IsInjectable source ↔
      operand.bare.kind ∈ ExprKind.identifier.nodeKinds ∨
        operand.bare.kind ∈ ExprKind.member.nodeKinds ∨
          operand.bare.kind ∈ ExprKind.stringLiteral.nodeKinds ∧
            singleQuote ∈ (operand.bare.text source).toList := by
    simp only [Tree.IsInjectable, ExprKind.nodeKinds, List.mem_cons, List.not_mem_nil, or_false,
      or_assoc]
  have itself := Expr.node_classify operand.bare
  rw [spread, ← Expr.kind_classify_iff operand.bare .identifier (by decide),
    ← Expr.kind_classify_iff operand.bare .member (by decide),
    ← Expr.kind_classify_iff operand.bare .stringLiteral (by decide), Expr.ofTree]
  cases classified : Expr.classify operand.bare with
  | stringLiteral string =>
      rw [classified] at itself
      rw [← itself]
      simp [isInjectable, Expr.kind, Expr.node]
  | _ => simp [isInjectable, Expr.kind]

private theorem isQueryStart_of_beginning {left : Tree}
    (isString : left.leftmost.kind = .stringLiteral) :
    isQueryStart (.ofTree left) = true := by
  by_cases isAddition : left.bare.isAddition = true
  · obtain ⟨inner, right, adds⟩ := left.bare.isAddition_iff_operates.mp isAddition
    have classified :=
      (Expr.classify_eq_binary_iff left.bare ⟨_, inner, right, .plus⟩).mpr ⟨rfl, adds⟩
    rw [Expr.ofTree, classified]
    rfl
  · have single : left.leftmost = left.bare := by
      apply Tree.leftmost_of_single
      intro inner right adds
      exact isAddition (left.bare.isAddition_iff_operates.mpr ⟨inner, right, adds⟩)
    rw [single] at isString
    simp only [Expr.ofTree, Expr.classify, isString, isQueryStart]

private theorem emitted_of_operates {node left right : Tree} {operator : Kind} (chain : Chain)
    (operates : node.Operates operator left right) :
    emitted source ⟨node, chain⟩ = additionWarnings source ⟨node, left, right, operator⟩ := by
  have classified :=
    (Expr.classify_eq_binary_iff node ⟨node, left, right, operator⟩).mpr ⟨rfl, operates⟩
  simp only [emitted, if_neg operates.bareKind, classified]

theorem additionWarnings_plus (node left right : Tree) :
    additionWarnings source ⟨node, left, right, .plus⟩ =
      if left.leftmost.IsQueryText source ∧ right.bare.IsInjectable source then
        [.ofRange .concatenation (node.range source) (right.bare.range source).start.column source]
      else [] := by
  have value := Expr.stringValue?_classify_eq_some_iff source left.leftmost
  have place : (Expr.ofTree right).range source = right.bare.range source := by
    rw [Expr.range, Expr.ofTree, Expr.node_classify]
  unfold additionWarnings
  simp only [← isInjectable_ofTree_iff, Binary.isAdditive, Binary.leftExpr, Binary.rightExpr,
    decide_true, Bool.true_and, Tree.leftmostExpr_eq_classify, place]
  cases found : (Expr.classify left.leftmost).stringValue? source with
  | none =>
      have noQuery : ¬left.leftmost.IsQueryText source := by
        intro isQuery
        rw [(value _).mpr ⟨isQuery.1, rfl⟩] at found
        cases found
      simp only [noQuery, false_and, if_false, ite_self]
  | some query =>
      obtain ⟨isString, rfl⟩ := (value query).mp found
      have isQuery : left.leftmost.IsQueryText source ↔
          Keyword.hasStatement (Literal.value source left.leftmost) = true ∧
            Keyword.hasWhere (Literal.value source left.leftmost) = true := by
        rw [Keyword.hasStatement_iff_holds, Keyword.hasWhere, Keyword.mentions_iff_holds,
          Tree.IsQueryText, and_iff_right isString, and_comm]
      simp only [isQueryStart_of_beginning isString, if_true, Bool.and_eq_true, isQuery]

end Rule

/-! ### Chains of sums -/

/-- Operands that are added up one after the other in a tree. A sum stands, in parentheses or not, in the
left operand of the next; the first operand stands for the sum of itself alone and is no sum of others. -/
structure Summation (tree : Tree) (count : Nat) where
  operand : Nat → Tree
  sum : Nat → Tree
  place : Nat → Address
  first : sum 0 = operand 0
  single : ∀ left right, ¬(operand 0).bare.Operates .plus left right
  adds : ∀ step < count, ∃ left, (sum step).InParentheses left ∧
    (sum (step + 1)).Operates .plus left (operand (step + 1))
  placed : ∀ step < count, tree.nodeAt? (place (step + 1)) = some (sum (step + 1))
  below : ∀ step, step + 1 < count →
    ∃ way, way ≠ [] ∧ place (step + 1) = place (step + 2) ++ way

namespace Summation

variable {tree : Tree} {count : Nat} (summation : Summation tree count)

def steps (_ : Summation tree count) : List Nat :=
  (List.range' 1 count).reverse

def places : List Address :=
  summation.steps.map summation.place

def warning (source : String) (step : Nat) : Warning :=
  .ofRange .concatenation ((summation.sum step).range source)
    ((summation.operand step).bare.range source).start.column source

private theorem exists_of_mem_steps {step : Nat} (isStep : step ∈ summation.steps) :
    ∃ earlier < count, step = earlier + 1 := by
  rw [steps, List.mem_reverse, List.mem_range'_1] at isStep
  exact ⟨step - 1, by omega, by omega⟩

private theorem leftmost_sum (step : Nat) (within : step ≤ count) :
    (summation.sum step).leftmost = (summation.operand 0).bare := by
  induction step with
  | zero =>
      rw [summation.first]
      exact Tree.leftmost_of_single summation.single
  | succ step ih =>
      -- A sum begins where its left operand begins, and that is the sum before it in parentheses.
      obtain ⟨left, inLeft, adds⟩ := summation.adds step (by omega)
      rw [adds.leftmost_eq, inLeft.leftmost_eq, ih (by omega)]

/-! ### The order of the sums -/

private theorem place_lt_next (step : Nat) (within : step + 1 < count) :
    summation.place (step + 2) < summation.place (step + 1) := by
  obtain ⟨way, inside, extended⟩ := summation.below step within
  obtain ⟨index, rest, rfl⟩ := List.exists_cons_of_ne_nil inside
  rw [extended]
  nth_rewrite 1 [← List.append_nil (summation.place (step + 2))]
  exact List.append_left_lt (List.nil_lt_cons index rest)

private theorem place_lt (shorter longer : Nat) (positive : 1 ≤ shorter) (less : shorter < longer)
    (within : longer ≤ count) : summation.place longer < summation.place shorter := by
  induction longer with
  | zero => omega
  | succ longer ih =>
      obtain ⟨step, rfl⟩ : ∃ step, longer = step + 1 := ⟨longer - 1, by omega⟩
      have next := summation.place_lt_next step (by omega)
      rcases Nat.lt_or_ge shorter (step + 1) with before | reached
      · exact List.lt_trans next (ih before (by omega))
      · obtain rfl : shorter = step + 1 := by omega
        exact next

private theorem places_pairwise_lt : summation.places.Pairwise (· < ·) := by
  rw [places, List.pairwise_map, steps, List.pairwise_reverse]
  refine List.Pairwise.imp_of_mem ?_ List.pairwise_lt_range'
  intro shorter longer hasShorter hasLonger less
  rw [List.mem_range'_1] at hasShorter hasLonger
  exact summation.place_lt shorter longer (by omega) less (by omega)

private theorem filter_addresses_eq_places :
    tree.addresses.filter (fun address => address ∈ summation.places) = summation.places := by
  apply List.Pairwise.eq_of_mem_iff (tree.addresses_pairwise_lt.filter _)
    summation.places_pairwise_lt
  intro address
  rw [List.mem_filter, decide_eq_true_eq, and_iff_right_iff_imp]
  intro isPlace
  obtain ⟨step, isStep, rfl⟩ := List.mem_map.mp isPlace
  obtain ⟨earlier, within, rfl⟩ := summation.exists_of_mem_steps isStep
  rw [Tree.mem_addresses_iff, summation.placed earlier within]
  rfl

private theorem atAddress_place (source : String) (step : Nat) (isStep : step ∈ summation.steps) :
    Rule.atAddress source tree (summation.place step) =
      if (summation.operand 0).bare.IsQueryText source ∧
          (summation.operand step).bare.IsInjectable source then
        [summation.warning source step]
      else [] := by
  obtain ⟨earlier, within, rfl⟩ := summation.exists_of_mem_steps isStep
  obtain ⟨left, inLeft, adds⟩ := summation.adds earlier within
  rw [Rule.atAddress_of_nodeAt? source (summation.placed earlier within),
    Rule.emitted_of_operates source _ adds, Rule.additionWarnings_plus, inLeft.leftmost_eq,
    summation.leftmost_sum earlier (by omega)]
  rfl

private theorem flatMap_kept (steps : List Nat) (kept : Nat → Prop) [DecidablePred kept]
    (warning : Nat → Warning) :
    (steps.flatMap fun step => if kept step then [warning step] else []) =
      (steps.filter fun step => kept step).map warning := by
  induction steps with
  | nil => rfl
  | cons step rest ih =>
      rw [List.flatMap_cons, ih]
      by_cases keeps : kept step
      · simp only [keeps, if_true, List.filter_cons, decide_true, List.map_cons, List.singleton_append]
      · simp only [keeps, if_false, List.filter_cons, decide_false, Bool.false_eq_true,
          List.nil_append]

end Summation

/-- The warnings at the sums of a chain, in the order of detection: if the first operand is a query, one
for each other operand that is injectable, the last first, on the sum that the operand completes and at
the operand without its parentheses; none at all otherwise. -/
theorem sums_warn_from_last_operand (parsed : ParsedSource) (count : Nat)
    (summation : Summation parsed.tree count) :
    (detectInjection parsed).value =
      parsed.tree.addresses.flatMap (Rule.atAddress parsed.source parsed.tree) ∧
    (parsed.tree.addresses.filter fun address => address ∈ summation.places).flatMap
        (Rule.atAddress parsed.source parsed.tree) =
      if (summation.operand 0).bare.IsQueryText parsed.source then
        (summation.steps.filter fun step =>
          (summation.operand step).bare.IsInjectable parsed.source).map
            (summation.warning parsed.source)
      else [] := by
  refine ⟨Rule.detect_eq_flatMap_atAddress parsed.source parsed.tree, ?_⟩
  rw [summation.filter_addresses_eq_places, Summation.places, List.flatMap_map,
    List.flatMap_congr (summation.atAddress_place parsed.source)]
  by_cases isQuery : (summation.operand 0).bare.IsQueryText parsed.source
  · simp only [isQuery, true_and, if_true, Summation.flatMap_kept]
  · simp only [isQuery, false_and, if_false, List.flatMap_eq_nil_iff, implies_true]

def summedSource : String :=
  "(\"select where\" + x) + \",\" + y.z;"

def summedOperand : Nat → Tree
  | 0 => .node ⟨.stringLiteral, 1, 15, some .left, true, none, false⟩
      [.node ⟨.other "string_fragment", 2, 14, none, true, none, false⟩ []]
  | 1 => .node ⟨.identifier, 18, 19, some .right, true, none, false⟩ []
  | 2 => .node ⟨.stringLiteral, 23, 26, some .right, true, none, false⟩
      [.node ⟨.other "string_fragment", 24, 25, none, true, none, false⟩ []]
  | _ => .node ⟨.memberExpression, 29, 32, some .right, true, none, false⟩
      [.node ⟨.identifier, 29, 30, some (.other "object"), true, none, false⟩ [],
        .node ⟨.propertyIdentifier, 31, 32, some (.other "property"), true, none, false⟩ []]

def sumOf (start stop : Nat) (field : Option Field) (left right : Tree) : Tree :=
  .node ⟨.binaryExpression, start, stop, field, true, none, false⟩
    [left, .node ⟨.plus, left.stop + 1, left.stop + 2, some .operator, false, none, false⟩ [], right]

def innerSum : Tree :=
  sumOf 1 19 none (summedOperand 0) (summedOperand 1)

def middleSum : Tree :=
  sumOf 0 26 (some .left)
    (.node ⟨.parenthesizedExpression, 0, 20, some .left, true, none, false⟩ [innerSum])
    (summedOperand 2)

def wholeSum : Tree :=
  sumOf 0 32 none middleSum (summedOperand 3)

def summedTree : Tree :=
  .node ⟨.program, 0, 33, none, true, none, false⟩
    [.node ⟨.other "expression_statement", 0, 33, none, true, none, false⟩ [wholeSum]]

def threeSums : Summation summedTree 3 where
  operand := summedOperand
  sum
    | 0 => summedOperand 0
    | 1 => innerSum
    | 2 => middleSum
    | _ => wholeSum
  place step := [0, 0] ++ List.replicate ([4, 3, 1, 0].getD step 0) 0
  first := rfl
  single _ _ adds := Kind.noConfusion adds.kind
  adds
    | 0, _ => ⟨_, .bare, rfl, rfl, rfl, rfl⟩
    | 1, _ => ⟨_, .wrapped rfl rfl .bare, rfl, rfl, rfl, rfl⟩
    | 2, _ => ⟨_, .bare, rfl, rfl, rfl, rfl⟩
  placed
    | 0, _ => rfl
    | 1, _ => rfl
    | 2, _ => rfl
  below
    | 0, _ => ⟨[0, 0], by decide, rfl⟩
    | 1, _ => ⟨[0], by decide, rfl⟩

/-- The comma between the two values is no risk, the values are. -/
theorem three_sums_warn_twice :
    (summedTree.addresses.filter fun address => address ∈ threeSums.places).flatMap
        (Rule.atAddress summedSource summedTree) =
      [threeSums.warning summedSource 3, threeSums.warning summedSource 1] ∧
    ((detectInjection ⟨summedTree, summedSource, "f.js", .javascript⟩).value.map fun warning =>
      (warning.range.render, warning.column)) = [("1:0-1:32", 29), ("1:1-1:19", 18)] := by
  constructor
  · rw [(sums_warn_from_last_operand ⟨summedTree, summedSource, "f.js", .javascript⟩ 3 threeSums).2]
    decide +kernel
  · decide +kernel

end InjectionLint
