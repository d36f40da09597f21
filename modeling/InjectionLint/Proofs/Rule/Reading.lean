import InjectionLint.Proofs.Rule.Detection

/-!
What the rules see. Of an operand, an argument or a substitution a rule sees little: the sort of
expression, a string in lower case, a name, a place. Of the frames around a node it sees with which
strings names were declared. The warnings at a node are computed from that and from nothing else.

Main statement: what a rule emits at a node is determined by the node's reading and by the strings that
the chain has for names (`emitted_eq_findings`).
-/

set_option autoImplicit false

namespace InjectionLint

def lowered (text : String) : List Char :=
  Text.lowercase text.toList

inductive Face where
  /-- A string: its value in lower case, and whether its source has a single quote. -/
  | text (value : List Char) (quoted : Bool)
  | name (name : String)
  | member
  | constant
  | operation
  | other
  deriving DecidableEq

namespace Face

def startsQuery : Face → Bool
  | .text _ _ | .operation => true
  | _ => false

def isInjectable : Face → Bool
  | .name _ | .member => true
  | .text _ quoted => quoted
  | _ => false

def isConstant : Face → Bool
  | .text _ _ | .constant => true
  | _ => false

def text? : Face → Option (List Char)
  | .text value _ => some value
  | _ => none

end Face

/-- What a node shows as an operand or an argument, parentheses removed. -/
structure Outlook where
  face : Face
  range : Range
  /-- What stands at the far left of the chain of additions that the node may be. -/
  start : Face
  /-- For an operation, whether it adds, and what stands at the far left of its left operand. -/
  lead : Option (Bool × Face)
  deriving DecidableEq

inductive Reading where
  | operation (additive : Bool) (range : Range) (left right : Outlook)
  | template (values : List (Face × Range)) (quasis : List (List Char))
  | call (inspected : Bool) (range : Range) (arguments : List Outlook)
  | nothing

structure Finding where
  origin : Origin
  range : Range
  column : Nat
  deriving DecidableEq

def Finding.warning (source : String) (finding : Finding) : Warning :=
  .ofRange finding.origin finding.range finding.column source

/-! ### From a node to its reading -/

def Expr.face (source : String) : Expr → Face
  | .stringLiteral node =>
    .text (lowered (Literal.value source node)) (Rule.singleQuote ∈ (node.text source).toList)
  | .identifier node => .name (node.text source)
  | .member _ => .member
  | .numericLiteral _ | .booleanLiteral _ => .constant
  | .binary _ => .operation
  | .template _ | .call _ | .other _ => .other

def Expr.lead? (source : String) : Expr → Option (Bool × Face)
  | .binary operation => some (operation.isAdditive, operation.left.leftmostExpr.face source)
  | _ => none

def Tree.outlook (source : String) (tree : Tree) : Outlook where
  face := (Expr.ofTree tree).face source
  range := (Expr.ofTree tree).range source
  start := tree.leftmostExpr.face source
  lead := (Expr.ofTree tree).lead? source

def Expr.inserted (source : String) (expr : Expr) : Face × Range :=
  (expr.face source, expr.range source)

def Call.argumentOutlooks (source : String) (call : Call) : List Outlook :=
  if call.isTagged then []
  else (call.arguments.children.filter Tree.isContent).map (Tree.outlook source)

def Expr.reading (source : String) : Expr → Reading
  | .binary operation =>
    .operation operation.isAdditive (operation.node.range source) (operation.left.outlook source)
      (operation.right.outlook source)
  | .template node =>
    .template ((Template.expressions node).map (Expr.inserted source))
      ((Template.quasis source node).map lowered)
  | .call application =>
    .call (Rule.isInspected source application) (application.node.range source)
      (application.argumentOutlooks source)
  | _ => .nothing

def Tree.reading (source : String) (tree : Tree) : Reading :=
  if tree.kind = .parenthesizedExpression then .nothing else (Expr.classify tree).reading source

/-! ### Operands without mutual recursion -/

namespace Tree

theorem bare_eq (tree : Tree) :
    tree.bare =
      if tree.kind = .parenthesizedExpression then (tree.content?.map bare).getD tree else tree := by
  have ofContent : ∀ children : List Tree,
      bareContent? children = (children.find? isContent).map bare := by
    intro children
    induction children with
    | nil => rfl
    | cons head tail ih =>
        rw [bareContent?, List.find?_cons]
        cases head.isContent with
        | true => rfl
        | false => exact ih
  cases tree with
  | node label children =>
      rw [bare, ofContent]
      rfl

theorem leftmost_eq (tree : Tree) :
    tree.leftmost =
      if tree.kind = .parenthesizedExpression then (tree.content?.map leftmost).getD tree
      else if tree.isAddition then ((tree.child? .left).map leftmost).getD tree
      else tree := by
  have ofContent : ∀ children : List Tree,
      leftmostContent? children = (children.find? isContent).map leftmost := by
    intro children
    induction children with
    | nil => rfl
    | cons head tail ih =>
        rw [leftmostContent?, List.find?_cons]
        cases head.isContent with
        | true => rfl
        | false => exact ih
  have ofLeft : ∀ children : List Tree,
      leftmostLeft? children =
        (children.find? fun child => child.label.field = some .left).map leftmost := by
    intro children
    induction children with
    | nil => rfl
    | cons head tail ih =>
        rw [leftmostLeft?, List.find?_cons]
        by_cases role : head.label.field = some .left
        · rw [if_pos role, decide_eq_true role]
          rfl
        · rw [if_neg role, decide_eq_false role]
          exact ih
  cases tree with
  | node label children =>
      rw [leftmost, ofContent, ofLeft]
      rfl

end Tree

theorem Expr.node_classify (tree : Tree) : (Expr.classify tree).node = tree := by
  unfold Expr.classify
  split
  · unfold Binary.ofTree?
    split <;> rfl
  · rfl
  · unfold Call.ofTree?
    split <;> rfl
  all_goals rfl

def Outlook.plain (face : Face) (range : Range) : Outlook :=
  ⟨face, range, face, none⟩

namespace Tree

variable (source : String)

private theorem ofTree_of_not_parenthesized {tree : Tree}
    (bareKind : tree.kind ≠ .parenthesizedExpression) :
    Expr.ofTree tree = Expr.classify tree := by
  rw [Expr.ofTree, bare_eq, if_neg bareKind]

theorem outlook_of_parenthesized (tree : Tree) (wrapped : tree.kind = .parenthesizedExpression) :
    tree.outlook source =
      (tree.content?.map (outlook source)).getD (.plain .other (tree.range source)) := by
  have unwrapped := tree.bare_eq
  have start := tree.leftmost_eq
  rw [if_pos wrapped] at unwrapped start
  cases inside : tree.content? with
  | none =>
      rw [inside] at unwrapped start
      have expr : Expr.ofTree tree = .other tree := by
        rw [Expr.ofTree, unwrapped]
        simp only [Option.map_none, Option.getD_none, Expr.classify, wrapped]
      simp only [outlook, leftmostExpr, start, Option.map_none, Option.getD_none, expr]
      rfl
  | some content =>
      rw [inside] at unwrapped start
      have expr : Expr.ofTree tree = Expr.ofTree content := by
        rw [Expr.ofTree, unwrapped]
        rfl
      simp only [outlook, leftmostExpr, start, Option.map_some, Option.getD_some, expr]

theorem outlook_of_plain (tree : Tree) (bareKind : tree.kind ≠ .parenthesizedExpression)
    (simple : tree.kind ≠ .binaryExpression) :
    tree.outlook source =
      .plain ((Expr.classify tree).face source) (tree.range source) := by
  have single : tree.isAddition = false := by
    simp only [isAddition, simple, decide_false, Bool.false_and]
  have start : tree.leftmost = tree := by
    rw [leftmost_eq, if_neg bareKind, single, if_neg Bool.false_ne_true]
  have unled : (Expr.classify tree).lead? source = none := by
    unfold Expr.classify
    split
    · contradiction
    · rfl
    · cases Call.ofTree? tree <;> rfl
    all_goals rfl
  simp only [outlook, leftmostExpr, start, ofTree_of_not_parenthesized bareKind, unled, Expr.range,
    Expr.node_classify]
  rfl

def operands? (tree : Tree) : Option (Bool × Outlook × Outlook) :=
  (Binary.ofTree? tree).map fun operation =>
    (operation.isAdditive, operation.left.outlook source, operation.right.outlook source)

theorem outlook_of_binary (tree : Tree) (binary : tree.kind = .binaryExpression) :
    tree.outlook source =
      match tree.operands? source with
      | some (additive, left, _) =>
        ⟨.operation, tree.range source, if additive then left.start else .operation,
          some (additive, left.start)⟩
      | none => .plain .other (tree.range source) := by
  have bareKind : tree.kind ≠ .parenthesizedExpression := by
    rw [binary]
    exact Kind.noConfusion
  have start := tree.leftmost_eq
  rw [if_neg bareKind] at start
  have expr := ofTree_of_not_parenthesized bareKind
  rw [Expr.classify, binary] at expr
  unfold operands?
  cases found : Binary.ofTree? tree with
  | none =>
      have single : tree.isAddition = false := by
        by_contra addition
        simp only [isAddition, Bool.not_eq_false, Bool.and_eq_true, decide_eq_true_eq,
          Option.isSome_iff_exists] at addition
        obtain ⟨⟨⟨_, left, hasLeft⟩, right, hasRight⟩, hasOperator⟩ := addition
        simp [Binary.ofTree?, hasLeft, hasRight, hasOperator] at found
      rw [single, if_neg Bool.false_ne_true] at start
      simp only [found, Option.map_none, Option.getD_none] at expr
      simp only [outlook, leftmostExpr, start, expr, Option.map_none]
      rfl
  | some operation =>
      simp only [found, Option.map_some, Option.getD_some] at expr
      unfold Binary.ofTree? at found
      split at found
      · rename_i left right operator hasLeft hasRight hasOperator
        obtain rfl := Option.some.inj found
        have addition : tree.isAddition = decide (operator = .plus) := by
          simp [isAddition, binary, hasLeft, hasRight, hasOperator]
        rw [addition, hasLeft] at start
        simp only [outlook, leftmostExpr, start, Binary.isAdditive, Option.map_some]
        by_cases plus : operator = .plus
        · simp only [plus, decide_true, if_true, Option.getD_some, expr]
          rfl
        · simp only [plus, decide_false, Bool.false_eq_true, if_false, expr, Expr.lead?,
            Binary.isAdditive]
          rfl
      · cases found

theorem reading_of_binary (tree : Tree) (binary : tree.kind = .binaryExpression) :
    tree.reading source =
      match tree.operands? source with
      | some (additive, left, right) => .operation additive (tree.range source) left right
      | none => .nothing := by
  have bareKind : tree.kind ≠ .parenthesizedExpression := by
    rw [binary]
    exact Kind.noConfusion
  have node := Expr.node_classify tree
  unfold reading operands?
  rw [if_neg bareKind]
  simp only [Expr.classify, binary] at node ⊢
  cases found : Binary.ofTree? tree with
  | none => rfl
  | some operation =>
      simp only [found, Option.map_some, Option.getD_some, Expr.node] at node
      simp only [Option.map_some, Option.getD_some, Expr.reading, node]

theorem operands?_congr {left right : Tree}
    (sameLeft : (left.child? .left).map (outlook source) =
      (right.child? .left).map (outlook source))
    (sameRight : (left.child? .right).map (outlook source) =
      (right.child? .right).map (outlook source))
    (sameOperator : left.childKind? .operator = right.childKind? .operator) :
    left.operands? source = right.operands? source := by
  have fromRoles : ∀ tree : Tree, tree.operands? source =
      ((tree.child? .left).map (outlook source)).bind fun first =>
        ((tree.child? .right).map (outlook source)).bind fun second =>
          (tree.childKind? .operator).map fun operator =>
            (decide (operator = .plus), first, second) := by
    intro tree
    unfold operands? Binary.ofTree?
    cases tree.child? .left with
    | none => rfl
    | some first =>
        cases tree.child? .right with
        | none => rfl
        | some second =>
            cases tree.childKind? .operator with
            | none => rfl
            | some operator => rfl
  rw [fromRoles, fromRoles, sameLeft, sameRight, sameOperator]

theorem outlook_congr {left right : Tree} (sameKind : left.kind = right.kind)
    (sameRange : left.range source = right.range source)
    (sameContent : left.content?.map (outlook source) = right.content?.map (outlook source))
    (sameOperands : left.kind = .binaryExpression →
      left.operands? source = right.operands? source)
    (sameFace : left.kind ≠ .binaryExpression →
      (Expr.classify left).face source = (Expr.classify right).face source) :
    left.outlook source = right.outlook source := by
  by_cases wrapped : left.kind = .parenthesizedExpression
  · rw [outlook_of_parenthesized source left wrapped,
      outlook_of_parenthesized source right (sameKind ▸ wrapped), sameContent, sameRange]
  · by_cases binary : left.kind = .binaryExpression
    · rw [outlook_of_binary source left binary, outlook_of_binary source right (sameKind ▸ binary),
        sameOperands binary, sameRange]
    · rw [outlook_of_plain source left wrapped binary,
        outlook_of_plain source right (sameKind ▸ wrapped) (sameKind ▸ binary), sameFace binary,
        sameRange]

theorem reading_congr {left right : Tree} (sameKind : left.kind = right.kind)
    (sameRange : left.range source = right.range source)
    (sameOperands : left.kind = .binaryExpression →
      left.operands? source = right.operands? source)
    (sameOtherwise : left.kind ≠ .binaryExpression →
      (Expr.classify left).reading source = (Expr.classify right).reading source) :
    left.reading source = right.reading source := by
  by_cases binary : left.kind = .binaryExpression
  · rw [reading_of_binary source left binary, reading_of_binary source right (sameKind ▸ binary),
      sameOperands binary, sameRange]
  · unfold reading
    rw [sameKind, sameOtherwise binary]

end Tree

theorem Template.inserted_congr {source : String} {left right : Tree}
    (sameContent : left.content?.map (Tree.outlook source) =
      right.content?.map (Tree.outlook source))
    (sameRange : left.range source = right.range source) :
    (Template.substituted left).inserted source = (Template.substituted right).inserted source := by
  have shown : ∀ tree : Tree, (Template.substituted tree).inserted source =
      ((tree.content?.map (Tree.outlook source)).map fun outlook =>
        (outlook.face, outlook.range)).getD (.other, tree.range source) := by
    intro tree
    unfold Template.substituted
    cases tree.content? <;> rfl
  rw [shown, shown, sameContent, sameRange]

/-! ### From a reading to findings -/

namespace Keyword

def isIn (text : List Char) (word : String) : Bool :=
  Text.occurs word.toList text

def statementIn (text : List Char) : Bool :=
  isIn text "select" || isIn text "delete" || isIn text "update"

def anyIn (text : List Char) : Bool :=
  statementIn text || isIn text "where"

end Keyword

def firstInserted? : List (Face × Range) → List (List Char) → Option (Face × Range)
  | [], _ => none
  | value :: values, quasis =>
    let near := fun word =>
      Keyword.isIn (quasis.head?.getD []) word || Keyword.isIn (quasis[1]?.getD []) word
    if !value.1.isConstant && near "select" && near "where" then some value
    else firstInserted? values (quasis.drop 1)

def Outlook.query? (lookup : String → Option (List Char)) (argument : Outlook) :
    Option (Origin × List Char) :=
  match argument.lead with
  | some (_, .text value _) => some (.callArgument, value)
  | some (true, .name name) => (lookup name).map (.callArgument, ·)
  | some _ => none
  | none =>
    match argument.face with
    | .name name => (lookup name).map (.resolvedBinding, ·)
    | _ => none

def Reading.findings (lookup : String → Option (List Char)) : Reading → List Finding
  | .operation additive range left right =>
    match left.start with
    | .text query _ =>
      if additive && left.face.startsQuery && Keyword.statementIn query &&
          Keyword.isIn query "where" && right.face.isInjectable then
        [⟨.concatenation, range, right.range.start.column⟩]
      else []
    | _ => []
  | .template values quasis =>
    (firstInserted? values quasis).toList.map fun value =>
      ⟨.interpolation, value.2, value.2.start.column⟩
  | .call inspected range arguments =>
    if inspected then
      arguments.filterMap fun argument =>
        (argument.query? lookup).bind fun (origin, query) =>
          if Keyword.anyIn query then some ⟨origin, range, range.start.column⟩ else none
    else []
  | .nothing => []

/-! ### The strings of names -/

abbrev Entry := String × Option (List Char)

def Entry.search (scopes : List (List Entry)) (name : String) : Option (List Char) :=
  (scopes.findSome? fun entries => entries.find? (·.1 = name)).bind Prod.snd

def Declaration.entry (source : String) (declaration : Declaration) : Entry :=
  (declaration.name.text source,
    declaration.init.bind fun init => ((Expr.ofTree init).face source).text?)

def Frame.entries (source : String) (frame : Frame) : List Entry :=
  frame.bindings.map fun binding => (binding.name, (binding.stringInit? source).map lowered)

def Chain.lookup? (source : String) (chain : Chain) (name : String) : Option (List Char) :=
  (chain.resolve? name).bind fun binding => (binding.stringInit? source).map lowered

theorem Chain.lookup?_eq_search (source : String) (chain : Chain) (name : String) :
    chain.lookup? source name = Entry.search (chain.map (Frame.entries source)) name := by
  unfold lookup? Entry.search resolve?
  induction chain with
  | nil => rfl
  | cons frame outer ih =>
      have inFrame : (frame.entries source).find? (·.1 = name) =
          (frame.get? name).map fun binding =>
            (binding.name, (binding.stringInit? source).map lowered) := by
        rw [Frame.entries, List.find?_map]
        rfl
      rw [List.map_cons, List.findSome?_cons, List.findSome?_cons, inFrame]
      cases frame.get? name with
      | none => exact ih
      | some binding => rfl

private theorem Expr.map_lowered_stringValue? (source : String) (expr : Expr) :
    (expr.stringValue? source).map lowered = (expr.face source).text? := by
  cases expr <;> rfl

theorem Frame.entries_ofScope (source : String) (scope : ScopeKind) (tree : Tree) :
    (ofScope source scope tree).entries source =
      ((Declaration.ofScope scope tree).map (Declaration.entry source)).filter (·.1 ≠ "") := by
  unfold entries ofScope
  induction Declaration.ofScope scope tree with
  | nil => rfl
  | cons site rest ih =>
      have string : ∀ scope : ScopeKind,
          (Binding.stringInit? source ⟨site.name.text source, site.kind, site.init, scope⟩).map
            lowered = (site.entry source).2 := by
        intro scope
        cases init : site.init with
        | none => simp [Binding.stringInit?, Binding.initExpr?, Declaration.entry, init]
        | some value =>
            simp [Binding.stringInit?, Binding.initExpr?, Declaration.entry, init,
              Expr.map_lowered_stringValue?]
      by_cases nameless : site.name.text source = ""
      · have unbound : binding? source scope site = none := by
          simp only [binding?, nameless, if_true]
        rw [List.filterMap_cons_none unbound, ih, List.map_cons, List.filter_cons_of_neg]
        simp [Declaration.entry, nameless]
      · have bound : binding? source scope site =
            some ⟨site.name.text source, site.kind, site.init, scope⟩ := by
          simp only [binding?, if_neg nameless]
        rw [List.filterMap_cons_some bound, List.map_cons, List.map_cons, List.filter_cons_of_pos, ih]
        · rw [string scope]
          rfl
        · simp [Declaration.entry, nameless]

/-! ### Rules see readings only -/

section Rules

variable (source : String)

theorem firstInserted?_map (exprs : List Expr) (quasis : List String) :
    firstInserted? (exprs.map (Expr.inserted source)) (quasis.map lowered) =
      (Rule.firstInterpolated? exprs quasis).map (Expr.inserted source) := by
  induction exprs generalizing quasis with
  | nil => rfl
  | cons expr rest ih =>
      have constant : (expr.inserted source).1.isConstant = expr.isConstant := by
        cases expr <;> rfl
      have before : ∀ word, Keyword.isIn ((quasis.map lowered).head?.getD []) word =
          Keyword.mentions word (quasis.head?.getD "") := by
        intro word
        cases quasis <;> rfl
      have after : ∀ word, Keyword.isIn ((quasis.map lowered)[1]?.getD []) word =
          Keyword.mentions word (quasis[1]?.getD "") := by
        intro word
        rw [List.getElem?_map]
        cases quasis[1]? <;> rfl
      rw [List.map_cons, firstInserted?, Rule.firstInterpolated?]
      simp only [constant, before, after, ← List.map_drop, ih]
      split <;> rfl

theorem argumentQuery?_eq_query? (chain : Chain) (argument : Tree) :
    (Rule.argumentQuery? source chain (.ofTree argument)).map (Prod.map id lowered) =
      (argument.outlook source).query? (chain.lookup? source) := by
  have ofName : ∀ (origin : Origin) (node : Tree),
      ((Rule.literalValue? source chain (.identifier node)).map (origin, ·)).map
          (Prod.map id lowered) =
        (chain.lookup? source (node.text source)).map (origin, ·) := by
    intro origin node
    simp only [Rule.literalValue?, Chain.lookup?]
    cases chain.resolve? (node.text source) with
    | none => rfl
    | some binding =>
        rw [Option.bind_some, Option.bind_some, Option.map_map, Option.map_map]
        rfl
  simp only [Tree.outlook, Outlook.query?]
  cases Expr.ofTree argument with
  | binary binary =>
      simp only [Rule.argumentQuery?, Expr.lead?]
      cases binary.left.leftmostExpr with
      | identifier node =>
          cases binary.isAdditive with
          | true => exact ofName _ node
          | false => rfl
      | _ => rfl
  | identifier node => exact ofName _ node
  | _ => rfl

theorem additionWarnings_eq_findings (chain : Chain) (operation : Binary) :
    Rule.additionWarnings source operation =
      (((Expr.binary operation).reading source).findings (chain.lookup? source)).map
        (Finding.warning source) := by
  have starts : (operation.left.outlook source).face.startsQuery =
      Rule.isQueryStart operation.leftExpr := by
    simp only [Tree.outlook, Binary.leftExpr]
    cases Expr.ofTree operation.left <;> rfl
  have injectable : (operation.right.outlook source).face.isInjectable =
      Rule.isInjectable source operation.rightExpr := by
    simp only [Tree.outlook, Binary.rightExpr]
    cases Expr.ofTree operation.right <;> rfl
  have start : (operation.left.outlook source).start = operation.left.leftmostExpr.face source := rfl
  simp only [Rule.additionWarnings, Expr.reading, Reading.findings, starts, injectable, start]
  cases operation.left.leftmostExpr with
  | stringLiteral node =>
      simp only [Expr.stringValue?, Expr.face]
      cases operation.isAdditive && Rule.isQueryStart operation.leftExpr with
      | false => rfl
      | true =>
          rw [if_pos rfl, Bool.true_and, apply_ite (List.map (Finding.warning source))]
          rfl
  | _ =>
      simp only [Expr.stringValue?, Expr.face, ite_self]
      rfl

private theorem templateWarnings_eq_findings (chain : Chain) (template : Tree) :
    Rule.templateWarnings source template =
      (((Expr.template template).reading source).findings (chain.lookup? source)).map
        (Finding.warning source) := by
  simp only [Rule.templateWarnings, Expr.reading, Reading.findings, firstInserted?_map]
  cases Rule.firstInterpolated? (Template.expressions template)
    (Template.quasis source template) with
  | none => rfl
  | some expr => rfl

theorem callWarnings_eq_findings (chain : Chain) (call : Call) :
    Rule.callWarnings source chain call =
      (((Expr.call call).reading source).findings (chain.lookup? source)).map
        (Finding.warning source) := by
  simp only [Rule.callWarnings, Expr.reading, Reading.findings]
  cases Rule.isInspected source call with
  | false => rfl
  | true =>
      simp only [if_true, Call.argumentExprs, Call.argumentOutlooks]
      cases call.isTagged with
      | true => rfl
      | false =>
          simp only [Bool.false_eq_true, if_false, List.filterMap_map, List.map_filterMap]
          apply List.filterMap_congr
          intro argument _
          rw [Function.comp_apply, Function.comp_apply, ← argumentQuery?_eq_query?]
          cases Rule.argumentQuery? source chain (.ofTree argument) with
          | none => rfl
          | some carried =>
              simp only [Option.map_some, Option.bind_some,
                apply_ite (Option.map (Finding.warning source))]
              rfl

/-- What a rule emits at a node follows from the node's reading and from the strings of names. -/
theorem emitted_eq_findings (tree : Tree) (chain : Chain) :
    Rule.emitted source ⟨tree, chain⟩ =
      ((tree.reading source).findings (chain.lookup? source)).map (Finding.warning source) := by
  unfold Rule.emitted Tree.reading
  by_cases parenthesized : tree.kind = .parenthesizedExpression
  · simp only [if_pos parenthesized]
    rfl
  · simp only [if_neg parenthesized]
    cases Expr.classify tree with
    | binary operation => exact additionWarnings_eq_findings source chain operation
    | template node => exact templateWarnings_eq_findings source chain node
    | call application => exact callWarnings_eq_findings source chain application
    | _ => rfl

end Rules

/-! ### Detection from a node on -/

namespace Rule

def detectFrom (source : String) (chain : Chain) (tree : Tree) : List Warning :=
  (Visit.below source chain tree).flatMap (emitted source)

theorem detectFrom_eq (source : String) (chain : Chain) (tree : Tree) :
    detectFrom source chain tree =
      emitted source ⟨tree, chain⟩ ++ tree.namedChildren.flatMap fun child =>
        detectFrom source (Visit.enter source chain tree.kind child) child := by
  unfold detectFrom
  rw [Visit.below_eq_cons, List.flatMap_cons, List.flatMap_assoc]

theorem detect_eq_detectFrom (source : String) (tree : Tree) :
    detect source tree = detectFrom source [Visit.rootFrame source ⟨none, tree⟩] tree := by
  unfold detect detectFrom
  apply List.flatMap_congr
  intro visit _
  exact atVisit_eq_emitted source visit

theorem emitted_congr {source : String} {left right : Tree} {chain other : Chain}
    (sameReading : left.reading source = right.reading source)
    (sameEntries : chain.map (Frame.entries source) = other.map (Frame.entries source)) :
    emitted source ⟨left, chain⟩ = emitted source ⟨right, other⟩ := by
  have sameStrings : chain.lookup? source = other.lookup? source := by
    funext name
    rw [Chain.lookup?_eq_search, Chain.lookup?_eq_search, sameEntries]
  rw [emitted_eq_findings, emitted_eq_findings, sameReading, sameStrings]

theorem detectFrom_congr_chain {source : String} {chain other : Chain}
    (sameEntries : chain.map (Frame.entries source) = other.map (Frame.entries source))
    (tree : Tree) : detectFrom source chain tree = detectFrom source other tree := by
  induction tree generalizing chain other with
  | step tree ih =>
      rw [detectFrom_eq, detectFrom_eq, emitted_congr rfl sameEntries]
      congr 1
      apply List.flatMap_congr
      intro child member
      apply ih child (List.mem_filter.mp member).1
      simp only [Visit.enter_eq_append, List.map_append, sameEntries]

end Rule

end InjectionLint
