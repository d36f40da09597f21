import InjectionLint.Proofs.Rule.Replacement

/-!
What is inside a function stays inside. No rule and no scope around a function looks below it, its name
excepted, so that another inside changes nothing but what is found there.

Main statement: `function_confines_findings`.
-/

set_option autoImplicit false

namespace InjectionLint

/-- Whether a parent would look into a function that stood below it in a role. The grammars put none
there. -/
def Kind.looksInto (parent : Kind) : Field → Bool
  | .arguments => parent = .callExpression
  | .parameters => parent.isFunction
  | .body => parent = .catchClause
  | _ => false

/-- Nodes that differ at most in what is below them, and not in the name there. -/
structure Tree.SameHead (left right : Tree) : Prop where
  kind : left.kind = right.kind
  start : left.start = right.start
  stop : left.stop = right.stop
  field : left.label.field = right.label.field
  named : left.isNamed = right.isNamed
  name : left.child? .name = right.child? .name

/-! ### Functions from outside -/

section Function

variable {source : String} {function other : Tree}

theorem Tree.kind_ne_of_function (isFunction : function.kind.isFunction = true) {kind : Kind}
    (notFunction : kind.isFunction = false) : function.kind ≠ kind := by
  intro same
  rw [same, notFunction] at isFunction
  cases isFunction

private theorem Tree.classify_of_function (isFunction : function.kind.isFunction = true) :
    Expr.classify function = .other function := by
  unfold Expr.classify
  split
  case h_12 => rfl
  all_goals
    rename_i otherwise
    exact absurd otherwise (Tree.kind_ne_of_function isFunction rfl)

theorem Tree.boundNames_of_function (isFunction : function.kind.isFunction = true) :
    function.boundNames = [] := by
  rw [Tree.boundNames_eq]
  split
  case h_11 => rfl
  all_goals
    rename_i otherwise
    exact absurd otherwise (Tree.kind_ne_of_function isFunction rfl)

theorem Tree.outlook_of_function (isFunction : function.kind.isFunction = true) :
    function.outlook source = .plain .other (function.range source) := by
  have bareKind : function.kind ≠ .parenthesizedExpression := Tree.kind_ne_of_function isFunction rfl
  have notBinary : function.kind ≠ .binaryExpression := Tree.kind_ne_of_function isFunction rfl
  rw [Tree.outlook_of_plain source function bareKind (absurd · notBinary),
    Tree.classify_of_function isFunction]
  rfl

theorem Tree.SameHead.within_eq (sameHead : SameHead function other)
    (isFunction : function.kind.isFunction = true) (hoists own : Bool) (parent : Kind) :
    Declaration.within hoists own parent function = Declaration.within hoists own parent other := by
  have shut : function.kind.isSealed = true := by
    unfold Kind.isSealed
    split
    case h_5 => exact isFunction
    all_goals rfl
  -- Of a function only the name that it declares reaches a scope around it.
  have nothingBelow : Declaration.directBelow? hoists own parent function.kind = none := by
    rw [Declaration.directBelow?, if_pos shut]
  have sameSite : Declaration.standingAt hoists own function =
      Declaration.standingAt hoists own other := by
    unfold Declaration.standingAt
    rw [← sameHead.kind, ← sameHead.name]
    split
    case h_4 | h_5 | h_7 => rfl
    all_goals
      rename_i otherwise
      exact absurd otherwise (Tree.kind_ne_of_function isFunction rfl)
  rw [Declaration.within_eq_standingAt, Declaration.within_eq_standingAt, ← sameHead.kind,
    nothingBelow, sameSite]

theorem Tree.SameHead.alikeUnder (sameHead : SameHead function other)
    (isFunction : function.kind.isFunction = true) {parent : Kind}
    (role : ∀ field ∈ function.label.field, parent.looksInto field = false) :
    AlikeUnder source parent function other := by
  have otherFunction : other.kind.isFunction = true := sameHead.kind ▸ isFunction
  refine {
    kind := sameHead.kind
    start := sameHead.start
    stop := sameHead.stop
    named := sameHead.named
    field := sameHead.field
    outlook := ?_, names := ?_, declared := ?_, declarator := ?_, substituted := ?_
    parameters := ?_, arguments := ?_, body := ?_ }
  · rw [outlook_of_function isFunction, outlook_of_function otherFunction, range, range,
      sameHead.start, sameHead.stop]
  · rw [boundNames_of_function isFunction, boundNames_of_function otherFunction]
  · intro hoists own above
    rw [sameHead.within_eq isFunction]
  · intro isDeclarator
    exact absurd isDeclarator (kind_ne_of_function isFunction rfl)
  · intro isSubstitution
    exact absurd isSubstitution (kind_ne_of_function isFunction rfl)
  · intro underFunction asParameters
    have unread := role .parameters asParameters
    rw [Kind.looksInto, underFunction] at unread
    cases unread
  · intro underCall asArguments
    have unread := role .arguments asArguments
    rw [Kind.looksInto, decide_eq_true underCall] at unread
    cases unread
  · rintro (underCatch | ⟨_, isBlock⟩) asBody
    · have unread := role .body asBody
      rw [Kind.looksInto, decide_eq_true underCatch] at unread
      cases unread
    · exact absurd isBlock (kind_ne_of_function isFunction rfl)

end Function

/-! ### The nodes of a part -/

def Rule.emittedWithin (source : String) (tree part : Tree) (upper : Address) : List Warning :=
  (part.addresses.filterMap fun lower =>
    Visit.ofAddress? source tree (upper ++ lower)).flatMap (emitted source)

def Context.emitted (source : String) (context : Context) (part : Tree) : List Warning :=
  (context.address? part).toList.flatMap (Rule.emittedWithin source (context.fill part) part)

section Part

variable (source : String)

private theorem Chain.belowRoot_append {tree part : Tree} {upper : Address}
    (found : tree.nodeAt? upper = some part) (lower : Address) :
    Chain.belowRoot source tree (upper ++ lower) =
      Chain.belowRoot source part lower ++ Chain.belowRoot source tree upper := by
  induction upper generalizing tree with
  | nil =>
      obtain rfl := Option.some.inj found
      exact (List.append_nil _).symm
  | cons index rest ih =>
      obtain ⟨child, isChild, inChild⟩ := Option.bind_eq_some_iff.mp found
      rw [List.cons_append, Chain.belowRoot_cons source isChild, Chain.belowRoot_cons source isChild,
        ih inChild, List.append_assoc]

private theorem Rule.emittedWithin_eq_detectFrom {tree part : Tree} {upper : Address}
    (found : tree.nodeAt? upper = some part) :
    Rule.emittedWithin source tree part upper =
      Rule.detectFrom source (Chain.ofAddress source tree upper) part := by
  unfold Rule.emittedWithin Rule.detectFrom
  rw [Visit.below_eq_filterMap]
  congr 1
  apply List.filterMap_congr
  intro lower _
  rw [Visit.ofAddress?, Tree.nodeAt?_append, found, Option.bind_some, Chain.ofAddress_eq_belowRoot,
    Chain.belowRoot_append source found, List.append_assoc, ← Chain.ofAddress_eq_belowRoot]

def Context.detected (chain : Chain) (context : Context) (part : Tree) : List Warning :=
  (context.address? part).toList.flatMap fun upper =>
    Rule.detectFrom source (Chain.belowRoot source (context.fill part) upper ++ chain) part

theorem Context.emitted_eq_detected (context : Context) (part : Tree) :
    context.emitted source part =
      context.detected source [Visit.rootFrame source ⟨none, context.fill part⟩] part := by
  apply List.flatMap_congr
  intro upper member
  rw [Rule.emittedWithin_eq_detectFrom source (nodeAt?_address (Option.mem_toList.mp member)),
    Chain.ofAddress_eq_belowRoot]

private theorem Context.detected_nil (chain : Chain) (part : Tree) :
    Context.detected source chain [] part = Rule.detectFrom source chain part :=
  List.append_nil _

theorem Context.detected_cons (chain : Chain) (around : Surrounding) (rest : Context)
    (part : Tree) :
    Context.detected source chain (around :: rest) part =
      if (fill rest part).isNamed then
        Context.detected source (Visit.enter source chain around.label.kind (fill rest part)) rest
          part
      else [] := by
  unfold detected
  rw [address?]
  by_cases named : (fill rest part).isNamed = true
  · rw [if_pos named, if_pos named]
    cases address? rest part with
    | none => rfl
    | some upper =>
        simp only [Option.map_some, Option.toList_some, List.flatMap_singleton, fill]
        rw [Chain.belowRoot_cons source (Tree.namedChildren_gap _ _ _ named), List.append_assoc,
          Visit.enter_eq_append]
        rfl
  · rw [if_neg named, if_neg named]
    rfl

end Part

/-! ### Around the place -/

theorem detectFrom_fill {source : String} {old new : Tree} {context : Context}
    (alike : context.Alike source old new) {chain other : Chain}
    (sameEntries : context ≠ [] →
      chain.map (Frame.entries source) = other.map (Frame.entries source)) :
    ∃ before after : List Warning,
      Rule.detectFrom source chain (context.fill old) =
          before ++ context.detected source chain old ++ after ∧
        Rule.detectFrom source other (context.fill new) =
          before ++ context.detected source other new ++ after := by
  -- The frame of the node at the place is in no chain around it, so that the chains have to agree only
  -- while the place is further down.
  induction context generalizing chain other with
  | nil =>
      refine ⟨[], [], ?_, ?_⟩
      · rw [Context.detected_nil, List.nil_append, List.append_nil]
        rfl
      · rw [Context.detected_nil, List.nil_append, List.append_nil]
        rfl
  | cons around rest ih =>
      have sameHere := sameEntries (List.cons_ne_nil around rest)
      have alikeBelow : Tree.AlikeUnder source around.label.kind (Context.fill rest old)
          (Context.fill rest new) := alikeUnder_fill (alike _ rfl)
      obtain ⟨before, after, ofOld, ofNew⟩ :=
        detectFrom_gap alikeBelow sameHere around.before around.after
      unfold Rule.detectBelow at ofOld ofNew
      rw [← alikeBelow.named] at ofNew
      rw [Context.detected_cons, Context.detected_cons, ← alikeBelow.named, Context.fill,
        Context.fill, ofOld, ofNew]
      by_cases named : (Context.fill rest old).isNamed = true
      · obtain ⟨inner, outer, insideOld, insideNew⟩ := ih alike.below fun inside =>
          enter_fill inside alike.below sameHere around.label.kind
        refine ⟨before ++ inner, outer ++ after, ?_, ?_⟩
        · rw [if_pos named, if_pos named, insideOld]
          simp only [List.append_assoc]
        · rw [if_pos named, if_pos named, insideNew]
          simp only [List.append_assoc]
      · simp only [if_neg named]
        exact ⟨before, after, rfl, rfl⟩

/-- A function may be exchanged for any other of the same kind, place and name: detection then finds the
same before it and after it, and at the place what the rules emit at the nodes of the one and of the
other. -/
theorem function_confines_findings (source path : String) (variant : Variant) (context : Context)
    (function other : Tree) (isFunction : function.kind.isFunction = true)
    (sameHead : function.SameHead other)
    (role : ∀ parent ∈ context.parentKind?, ∀ field ∈ function.label.field,
      parent.looksInto field = false) :
    ∃ before after : List Warning,
      (detectInjection ⟨context.fill function, source, path, variant⟩).value =
          before ++ context.emitted source function ++ after ∧
        (detectInjection ⟨context.fill other, source, path, variant⟩).value =
          before ++ context.emitted source other ++ after := by
  have alike : context.Alike source function other := by
    intro parent above
    exact sameHead.alikeUnder isFunction (role parent above)
  have sameRoots : context ≠ [] →
      [Visit.rootFrame source ⟨none, context.fill function⟩].map (Frame.entries source) =
        [Visit.rootFrame source ⟨none, context.fill other⟩].map (Frame.entries source) := by
    intro inside
    rw [List.map_singleton, List.map_singleton, rootFrame_fill inside alike]
  obtain ⟨before, after, ofFunction, ofOther⟩ := detectFrom_fill alike sameRoots
  refine ⟨before, after, ?_, ?_⟩
  · change Rule.detect source (context.fill function) = _
    rw [Rule.detect_eq_detectFrom, ofFunction, Context.emitted_eq_detected]
  · change Rule.detect source (context.fill other) = _
    rw [Rule.detect_eq_detectFrom, ofOther, Context.emitted_eq_detected]

def querySource : String :=
  "function f() \x7b var q = \"select 1\"; db(q); \x7d db(q);"

def queryCall (start : Nat) : Tree :=
  .node ⟨.other "expression_statement", start, start + 6, none, true, none, false⟩
    [.node ⟨.callExpression, start, start + 5, none, true, none, false⟩
      [.node ⟨.identifier, start, start + 2, some .function, true, none, false⟩ [],
        .node ⟨.other "arguments", start + 2, start + 5, some .arguments, true, none, false⟩
          [.node ⟨.identifier, start + 3, start + 4, none, true, none, false⟩ []]]]

def queryDeclaration : Tree :=
  .node ⟨.variableDeclaration, 15, 34, none, true, none, false⟩
    [.node ⟨.variableDeclarator, 19, 33, none, true, none, false⟩
      [.node ⟨.identifier, 19, 20, some .name, true, none, false⟩ [],
        .node ⟨.stringLiteral, 23, 33, some .value, true, none, false⟩
          [.node ⟨.other "string_fragment", 24, 32, none, true, none, false⟩ []]]]

def queryFunction (statements : List Tree) : Tree :=
  .node ⟨.functionDeclaration, 0, 43, none, true, none, false⟩
    [.node ⟨.identifier, 9, 10, some .name, true, none, false⟩ [],
      .node ⟨.other "formal_parameters", 10, 12, some .parameters, true, none, false⟩ [],
      .node ⟨.statementBlock, 13, 43, some .body, true, none, false⟩ statements]

def queryContext : Context :=
  [⟨⟨.program, 0, 50, none, true, none, false⟩, [], [queryCall 44]⟩]

/-- With its statements the function has a finding, and without them it has none; the call after it is
the same to detection, whether or not the function declares what it names. -/
theorem query_confined_to_function :
    (queryContext.emitted querySource
      (queryFunction [queryDeclaration, queryCall 35])).map (·.origin) = [.resolvedBinding] ∧
    queryContext.emitted querySource (queryFunction []) = [] ∧
    ∃ before after : List Warning,
      (detectInjection ⟨queryContext.fill (queryFunction [queryDeclaration, queryCall 35]),
          querySource, "f.js", .javascript⟩).value =
        before ++ queryContext.emitted querySource
          (queryFunction [queryDeclaration, queryCall 35]) ++ after ∧
      (detectInjection ⟨queryContext.fill (queryFunction []), querySource, "f.js",
          .javascript⟩).value =
        before ++ queryContext.emitted querySource (queryFunction []) ++ after := by
  refine ⟨by decide +kernel, by decide +kernel, ?_⟩
  refine function_confines_findings querySource "f.js" .javascript queryContext _
    (queryFunction []) rfl ⟨rfl, rfl, rfl, rfl, rfl, rfl⟩ ?_
  intro parent above field role
  cases role

end InjectionLint
