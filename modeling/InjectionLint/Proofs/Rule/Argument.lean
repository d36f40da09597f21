import InjectionLint.Proofs.Rule.Operand
import InjectionLint.Proofs.Scope.Initialiser

/-!
Calls and the queries in their arguments. An argument carries a query as an operation that begins with
text or, if it adds, with a name for text; or as such a name alone. A name stands for the string that
its nearest declaration gives it, and for none if that declaration gives it no string.

Main statement: a call that is looked into warns once for each argument that carries a query, in the
order of the arguments (`call_warns_once_for_each_query`).
-/

set_option autoImplicit false

namespace InjectionLint

/-! ### Strings of names -/

def Chain.Nearest (chain : Chain) (name : String) (binding : Binding) : Prop :=
  ∃ inner frame outer, chain = inner ++ frame :: outer ∧
    frame.get? name = some binding ∧ ∀ nearer ∈ inner, nearer.get? name = none

def Binding.HasText (source : String) (binding : Binding) (value : String) : Prop :=
  ∃ init, binding.init = some init ∧ init.bare.kind = .stringLiteral ∧
    Literal.value source init.bare = value

def Chain.StandsFor (source : String) (chain : Chain) (name value : String) : Prop :=
  ∃ binding, chain.Nearest name binding ∧ binding.HasText source value

private theorem Chain.resolve?_eq_some_iff_nearest (chain : Chain) (name : String)
    (binding : Binding) :
    chain.resolve? name = some binding ↔ chain.Nearest name binding :=
  List.findSome?_eq_some_iff

private theorem Binding.stringInit?_eq_some_iff (source : String) (binding : Binding)
    (value : String) :
    binding.stringInit? source = some value ↔ binding.HasText source value := by
  unfold stringInit? initExpr? HasText
  cases binding.init with
  | none => simp
  | some init =>
      simp only [Option.map_some, Option.bind_some, Option.some.injEq, exists_eq_left',
        Expr.ofTree, Expr.stringValue?_classify_eq_some_iff]

theorem Chain.standsFor_iff (source : String) (chain : Chain) (name value : String) :
    chain.StandsFor source name value ↔
      (chain.resolve? name).bind (·.stringInit? source) = some value := by
  simp only [StandsFor, Option.bind_eq_some_iff, resolve?_eq_some_iff_nearest,
    Binding.stringInit?_eq_some_iff]

private theorem Chain.not_standsFor_of_nearest {source : String} {chain : Chain} {name : String}
    {binding : Binding} (nearest : chain.Nearest name binding)
    (textless : ∀ value, ¬binding.HasText source value) (value : String) :
    ¬chain.StandsFor source name value := by
  rintro ⟨other, isNearest, hasText⟩
  rw [← resolve?_eq_some_iff_nearest] at nearest isNearest
  obtain rfl : binding = other := Option.some.inj (nearest.symm.trans isNearest)
  exact textless value hasText

/-! ### Arguments -/

/-- An argument carries a text into a call, and how it came by it. -/
inductive Tree.Carries (source : String) (chain : Chain) (argument : Tree) :
    Origin → String → Prop where
  | text {operator : Kind} {left right first : Tree}
      (operates : argument.bare.Operates operator left right) (begins : first.Begins left)
      (isString : first.kind = .stringLiteral) :
      Carries source chain argument .callArgument (Literal.value source first)
  | addedName {left right first : Tree} {value : String}
      (adds : argument.bare.Operates .plus left right) (begins : first.Begins left)
      (isName : first.kind ∈ [.identifier, .undefinedValue])
      (stands : chain.StandsFor source (first.text source) value) :
      Carries source chain argument .callArgument value
  | name {value : String} (isName : argument.bare.kind ∈ [.identifier, .undefinedValue])
      (stands : chain.StandsFor source (argument.bare.text source) value) :
      Carries source chain argument .resolvedBinding value

namespace Rule

theorem argumentQuery?_of_carries {source : String} {chain : Chain} {argument : Tree}
    {origin : Origin} {value : String} (carries : argument.Carries source chain origin value) :
    argumentQuery? source chain (.ofTree argument) = some (origin, value) := by
  rw [Expr.ofTree]
  cases carries with
  | @text operator left right first operates begins isString =>
      have classified :=
        (Expr.classify_eq_binary_iff argument.bare ⟨_, left, right, operator⟩).mpr ⟨rfl, operates⟩
      have start : left.leftmostExpr = .stringLiteral first := by
        rw [Tree.leftmostExpr_eq_classify, begins.leftmost_eq]
        simp only [Expr.classify, isString]
      simp only [classified, argumentQuery?, start]
  | @addedName left right first value adds begins isName stands =>
      have classified :=
        (Expr.classify_eq_binary_iff argument.bare ⟨_, left, right, .plus⟩).mpr ⟨rfl, adds⟩
      have start : left.leftmostExpr = .identifier first := by
        rw [Tree.leftmostExpr_eq_classify, begins.leftmost_eq]
        exact (Expr.classify_eq_identifier_iff first first).mpr ⟨rfl, isName⟩
      rw [Chain.standsFor_iff] at stands
      simp only [classified, argumentQuery?, start, Binary.isAdditive, decide_true, if_true,
        literalValue?, stands, Option.map_some]
  | name isName stands =>
      have classified := (Expr.classify_eq_identifier_iff argument.bare _).mpr ⟨rfl, isName⟩
      rw [Chain.standsFor_iff] at stands
      simp only [classified, argumentQuery?, literalValue?, stands, Option.map_some]

theorem carries_of_argumentQuery? {source : String} {chain : Chain} {argument : Tree}
    {origin : Origin} {value : String}
    (found : argumentQuery? source chain (.ofTree argument) = some (origin, value)) :
    argument.Carries source chain origin value := by
  rw [Expr.ofTree] at found
  cases classified : Expr.classify argument.bare with
  | binary operation =>
      obtain ⟨_, operates⟩ := (Expr.classify_eq_binary_iff argument.bare operation).mp classified
      have begins := operation.left.leftmost_begins
      simp only [classified, argumentQuery?, Tree.leftmostExpr_eq_classify] at found
      split at found
      · rename_i node start
        cases found
        have isString := (Expr.stringValue?_classify_eq_some_iff source operation.left.leftmost
          (Literal.value source node)).mp (by rw [start]; rfl)
        rw [← isString.2]
        exact .text operates begins isString.1
      · rename_i node start
        obtain ⟨rfl, isName⟩ := (Expr.classify_eq_identifier_iff _ node).mp start
        -- Under another operator than that of an addition a name is not followed.
        split at found
        · rename_i additive
          rw [Binary.isAdditive, decide_eq_true_eq] at additive
          rw [additive] at operates
          obtain ⟨text, stands, same⟩ := Option.map_eq_some_iff.mp found
          cases same
          exact .addedName operates begins isName ((Chain.standsFor_iff ..).mpr stands)
        · cases found
      · cases found
  | identifier node =>
      obtain ⟨rfl, isName⟩ := (Expr.classify_eq_identifier_iff _ node).mp classified
      rw [classified] at found
      obtain ⟨text, stands, same⟩ := Option.map_eq_some_iff.mp found
      cases same
      exact .name isName ((Chain.standsFor_iff ..).mpr stands)
  | _ => simp only [classified, argumentQuery?, reduceCtorEq] at found

def argumentOrigin? (source : String) (chain : Chain) (argument : Tree) : Option Origin :=
  (argumentQuery? source chain (.ofTree argument)).bind fun carried =>
    if Keyword.hasAny carried.2 then some carried.1 else none

theorem argumentOrigin?_eq_some_iff (source : String) (chain : Chain) (argument : Tree)
    (origin : Origin) :
    argumentOrigin? source chain argument = some origin ↔
      ∃ value, argument.Carries source chain origin value ∧
        ∃ word ∈ ["select", "delete", "update", "where"], Keyword.Holds value word := by
  simp only [argumentOrigin?, Option.bind_eq_some_iff, Option.ite_none_right_eq_some,
    Option.some.injEq, ← Keyword.hasAny_iff_holds]
  constructor
  · rintro ⟨⟨_, value⟩, found, isQuery, rfl⟩
    exact ⟨value, carries_of_argumentQuery? found, isQuery⟩
  · rintro ⟨value, carries, isQuery⟩
    exact ⟨(origin, value), argumentQuery?_of_carries carries, isQuery, rfl⟩

end Rule

/-! ### Calls -/

def Call.IsPassedOver (source : String) (call : Call) : Prop :=
  call.arguments.kind = .templateString ∨ (call.node.child? .optionalChain).isSome = true ∨
    call.callee.kind ≠ .identifier ∨ call.callee.text source = "require"

instance (source : String) (call : Call) : Decidable (call.IsPassedOver source) :=
  inferInstanceAs (Decidable (_ ∨ _))

theorem Rule.isInspected_iff (source : String) (call : Call) :
    isInspected source call = true ↔ ¬call.IsPassedOver source := by
  unfold isInspected Call.IsPassedOver Call.calleeName? Call.isTagged Call.isOptional
  by_cases isName : call.callee.kind = .identifier
  · simp [isName]
    tauto
  · simp [isName]

theorem Rule.callWarnings_of_inspected {source : String} {call : Call} (chain : Chain)
    (inspected : isInspected source call = true) :
    callWarnings source chain call =
      ((call.arguments.children.filter Tree.isContent).filterMap
        (argumentOrigin? source chain)).map fun origin =>
          .ofRange origin (call.node.range source) (call.node.range source).start.column source := by
  have untagged : call.isTagged = false := by
    unfold isInspected at inspected
    cases tagged : call.isTagged with
    | false => rfl
    | true => simp [tagged] at inspected
  simp only [callWarnings, inspected, if_true, Call.argumentExprs, untagged, Bool.false_eq_true,
    if_false, List.filterMap_map, List.map_filterMap]
  apply List.filterMap_congr
  intro argument _
  rw [Function.comp_apply, argumentOrigin?]
  cases argumentQuery? source chain (.ofTree argument) with
  | none => rfl
  | some carried =>
      rw [Option.bind_some, apply_ite (Option.map _)]
      rfl

def calledSource : String :=
  "var q = \"select 1\"; q => run(q); run(q, \"delete\" > q);"

def nameAt (start stop : Nat) (field : Option Field) : Tree :=
  .node ⟨.identifier, start, stop, field, true, none, false⟩ []

def textAt (start stop : Nat) (field : Option Field) : Tree :=
  .node ⟨.stringLiteral, start, stop, field, true, none, false⟩
    [.node ⟨.other "string_fragment", start + 1, stop - 1, none, true, none, false⟩ []]

def hiddenCall : Tree :=
  .node ⟨.callExpression, 25, 31, some .body, true, none, false⟩
    [nameAt 25 28 (some .function),
      .node ⟨.other "arguments", 28, 31, some .arguments, true, none, false⟩ [nameAt 29 30 none]]

def hidingFunction : Tree :=
  .node ⟨.arrowFunction, 20, 31, none, true, none, false⟩
    [nameAt 20 21 (some .parameter), hiddenCall]

def openArguments : Tree :=
  .node ⟨.other "arguments", 36, 53, some .arguments, true, none, false⟩
    [nameAt 37 38 none,
      .node ⟨.binaryExpression, 40, 52, none, true, none, false⟩
        [textAt 40 48 (some .left),
          .node ⟨.other ">", 49, 50, some .operator, false, none, false⟩ [],
          nameAt 51 52 (some .right)]]

def openCall : Tree :=
  .node ⟨.callExpression, 33, 53, none, true, none, false⟩
    [nameAt 33 36 (some .function), openArguments]

def calledTree : Tree :=
  .node ⟨.program, 0, 54, none, true, none, false⟩
    [.node ⟨.variableDeclaration, 0, 19, none, true, none, false⟩
      [.node ⟨.variableDeclarator, 4, 18, none, true, none, false⟩
        [nameAt 4 5 (some .name), textAt 8 18 (some .value)]],
      .node ⟨.other "expression_statement", 20, 32, none, true, none, false⟩ [hidingFunction],
      .node ⟨.other "expression_statement", 33, 54, none, true, none, false⟩ [openCall]]

end InjectionLint
