import InjectionLint.Proofs.Rule.Argument
import InjectionLint.Proofs.Rule.Interpolation
import InjectionLint.Proofs.Rule.Summation
import InjectionLint.Proofs.Source.LineBreaks
import Mathlib.Order.Bounds.Basic

/-!
Where a warning points. A value enters a query at the right operand of an addition, at what a template
puts in, or at the call it is handed to. A warning has its column from there, but the line of an addition
is the one that the whole addition begins on.

Main statement: a warning points at the place where the value enters, unless it is on an addition that
has a line break before its right operand (`warning_points_at_entry_within_line`).
-/

set_option autoImplicit false

namespace InjectionLint

inductive Tree.EntersAt (source : String) (anchor : Tree) : Origin → Tree → Prop where
  | operand {left right : Tree} (adds : anchor.Operates .plus left right) :
      EntersAt source anchor .concatenation right.bare
  | substitution {index : Nat} {substitution : Tree} (isTemplate : anchor.kind = .templateString)
      (first : IsLeast {number | Template.IsExposed source anchor number} index)
      (found : (Template.substitutions anchor)[index]? = some substitution) :
      EntersAt source anchor .interpolation (Template.inserted substitution)
  | argument (isCall : anchor.kind = .callExpression) :
      EntersAt source anchor .callArgument anchor
  | binding (isCall : anchor.kind = .callExpression) :
      EntersAt source anchor .resolvedBinding anchor

theorem Tree.EntersAt.unique {source : String} {anchor point other : Tree} {origin : Origin}
    (enters : anchor.EntersAt source origin point) (alsoEnters : anchor.EntersAt source origin other) :
    other = point := by
  cases enters with
  | operand adds =>
      cases alsoEnters with
      | operand alsoAdds =>
          rw [Option.some.inj (alsoAdds.right.symm.trans adds.right)]
  | substitution _ first found =>
      cases alsoEnters with
      | substitution _ alsoFirst alsoFound =>
          rw [alsoFirst.unique first, found] at alsoFound
          rw [Option.some.inj alsoFound]
  | argument =>
      cases alsoEnters
      rfl
  | binding =>
      cases alsoEnters
      rfl

def Origin.shown (origin : Origin) (anchor point : Tree) : Tree :=
  if origin = .concatenation then anchor else point

/-- A warning on a node shows the lines of one node and the column of the place where the value
enters. -/
def Warning.Shows (source : String) (anchor : Tree) (warning : Warning) : Prop :=
  ∃ point, anchor.EntersAt source warning.origin point ∧
    warning = .ofRange warning.origin ((warning.origin.shown anchor point).range source)
      (point.range source).start.column source

namespace Rule

variable {source : String} {anchor : Tree} {warning : Warning}

private theorem shows_of_mem_additionWarnings {operator : Kind} {left right : Tree}
    (operates : anchor.Operates operator left right)
    (member : warning ∈ additionWarnings source ⟨anchor, left, right, operator⟩) :
    warning.Shows source anchor := by
  by_cases isPlus : operator = .plus
  · subst isPlus
    rw [additionWarnings_plus] at member
    split at member
    · obtain rfl := List.mem_singleton.mp member
      exact ⟨right.bare, .operand operates, rfl⟩
    · cases member
  · simp [additionWarnings, Binary.isAdditive, isPlus] at member

private theorem shows_of_mem_templateWarnings (isTemplate : anchor.kind = .templateString)
    (member : warning ∈ templateWarnings source anchor) : warning.Shows source anchor := by
  by_cases hasExposed : ∃ index, Template.IsExposed source anchor index
  · obtain ⟨index, first⟩ := Template.exists_first_of_exposed hasExposed
    have ⟨substitution, found, _⟩ := first.1
    rw [templateWarnings_of_first first found] at member
    obtain rfl := List.mem_singleton.mp member
    exact ⟨Template.inserted substitution, .substitution isTemplate first found, rfl⟩
  · rw [templateWarnings_of_unexposed (not_exists.mp hasExposed)] at member
    cases member

private theorem shows_of_mem_callWarnings {chain : Chain} {call : Call}
    (isCall : call.node.kind = .callExpression)
    (member : warning ∈ callWarnings source chain call) : warning.Shows source call.node := by
  by_cases inspected : isInspected source call = true
  · rw [callWarnings_of_inspected chain inspected, List.mem_map] at member
    obtain ⟨origin, carried, rfl⟩ := member
    obtain ⟨argument, _, isOrigin⟩ := List.mem_filterMap.mp carried
    obtain ⟨value, carries, _⟩ := (argumentOrigin?_eq_some_iff ..).mp isOrigin
    cases carries with
    | text | addedName => exact ⟨call.node, .argument isCall, rfl⟩
    | name => exact ⟨call.node, .binding isCall, rfl⟩
  · rw [callWarnings, if_neg inspected] at member
    cases member

theorem shows_of_mem_emitted {chain : Chain} (member : warning ∈ emitted source ⟨anchor, chain⟩) :
    warning.Shows source anchor := by
  rw [emitted] at member
  split at member
  · cases member
  · have itself := Expr.node_classify anchor
    have isKind := @Expr.kind_mem_nodeKinds anchor
    cases classified : Expr.classify anchor with
    | binary operation =>
        obtain ⟨rfl, operates⟩ := (Expr.classify_eq_binary_iff anchor operation).mp classified
        rw [classified] at member
        exact shows_of_mem_additionWarnings operates member
    | template template =>
        rw [classified] at member itself isKind
        obtain rfl : template = anchor := itself
        exact shows_of_mem_templateWarnings (List.mem_singleton.mp (isKind ExprKind.noConfusion)) member
    | call call =>
        rw [classified] at member itself isKind
        obtain rfl : call.node = anchor := itself
        exact shows_of_mem_callWarnings (List.mem_singleton.mp (isKind ExprKind.noConfusion)) member
    | _ =>
        rw [classified] at member
        cases member

theorem shows_of_mem_atAddress {tree : Tree} {address : Address}
    (member : warning ∈ atAddress source tree address) :
    ∃ anchor, tree.nodeAt? address = some anchor ∧ warning.Shows source anchor := by
  cases found : tree.nodeAt? address with
  | none =>
      rw [atAddress, Visit.ofAddress?, found] at member
      cases member
  | some anchor =>
      rw [atAddress_of_nodeAt? source found] at member
      exact ⟨anchor, rfl, shows_of_mem_emitted member⟩

end Rule

/-- Every warning shows the line of its number and has the column of the place where the value enters.
On a template or a call it has also the line from there. On an addition it has the line that the addition
begins on, and so it points at the place exactly if no line break stands between that beginning and the
right operand. -/
theorem warning_points_at_entry_within_line (parsed : ParsedSource) :
    (detectInjection parsed).value =
      parsed.tree.addresses.flatMap (Rule.atAddress parsed.source parsed.tree) ∧
    ∀ address, ∀ warning ∈ Rule.atAddress parsed.source parsed.tree address,
      ∃ anchor point, parsed.tree.nodeAt? address = some anchor ∧
        anchor.EntersAt parsed.source warning.origin point ∧
        (∀ other, anchor.EntersAt parsed.source warning.origin other → other = point) ∧
        warning.line = sourceLine parsed.source warning.lineNumber ∧
        warning.column = (point.range parsed.source).start.column ∧
        (warning.origin ≠ .concatenation →
          ⟨warning.lineNumber, warning.column⟩ = (point.range parsed.source).start) ∧
        (warning.origin = .concatenation →
          warning.lineNumber = (anchor.range parsed.source).start.line ∧
          (⟨warning.lineNumber, warning.column⟩ = (point.range parsed.source).start ↔
            ∀ next ∈ lineBreaks parsed.source, next < anchor.start ↔ next < point.start)) := by
  refine ⟨Rule.detect_eq_flatMap_atAddress parsed.source parsed.tree, ?_⟩
  intro address warning member
  obtain ⟨anchor, found, point, enters, shown⟩ := Rule.shows_of_mem_atAddress member
  have line : warning.lineNumber =
      ((warning.origin.shown anchor point).range parsed.source).start.line := by
    rw [shown]
    rfl
  have column : warning.column = (point.range parsed.source).start.column := by
    rw [shown]
    rfl
  refine ⟨anchor, point, found, enters, fun _ => enters.unique, ?_, column, ?_, ?_⟩
  · rw [shown]
    rfl
  · intro elsewhere
    rw [line, column, Origin.shown, if_neg elsewhere]
  · intro isAddition
    rw [Origin.shown, if_pos isAddition] at line
    refine ⟨line, ?_⟩
    -- The column is that of the operand wherever the line breaks are, so the line alone decides.
    rw [line, column, ← Position.line_ofOffset_eq_iff]
    exact ⟨congrArg Position.line, fun sameLine => congrArg (Position.mk · _) sameLine⟩

def linedSource : String :=
  "`select\n where $\x7bid\x7d`;\n\"select where\" + x;"

def linedTemplate : Tree :=
  .node ⟨.templateString, 0, 21, none, true, none, false⟩ [insertAt 15 20 (nameAt 17 19 none)]

def linedSum : Tree :=
  sumOf 23 41 none (textAt 23 37 (some .left)) (nameAt 40 41 (some .right))

def linedTree : Tree :=
  .node ⟨.program, 0, 42, none, true, none, false⟩
    [.node ⟨.other "expression_statement", 0, 22, none, true, none, false⟩ [linedTemplate],
      .node ⟨.other "expression_statement", 23, 42, none, true, none, false⟩ [linedSum]]

/-- A template may have line breaks before the value; the addition has one before it, but none in it. -/
theorem lined_values_are_pointed_at :
    (∃ point, linedTemplate.EntersAt linedSource .interpolation point ∧
      (point.range linedSource).start = ⟨2, 9⟩) ∧
    ∃ point, linedSum.EntersAt linedSource .concatenation point ∧
      (point.range linedSource).start = ⟨3, 17⟩ := by
  have points := (warning_points_at_entry_within_line
    ⟨linedTree, linedSource, "f.js", .javascript⟩).2
  constructor
  · obtain ⟨anchor, point, found, enters, _, _, _, direct, _⟩ := points [0, 0]
      (.ofRange .interpolation ((nameAt 17 19 none).range linedSource) 9 linedSource)
      (by decide +kernel)
    cases found
    exact ⟨point, enters, (direct (by decide)).symm.trans (by decide +kernel)⟩
  · obtain ⟨anchor, point, found, enters, unique, _, _, _, onSum⟩ := points [1, 0]
      (.ofRange .concatenation (linedSum.range linedSource) 17 linedSource) (by decide +kernel)
    cases found
    have operand := unique _ (.operand ⟨rfl, rfl, rfl, rfl⟩)
    refine ⟨point, enters, ((onSum rfl).2.mpr ?_).symm.trans (by decide +kernel)⟩
    rw [← operand]
    decide +kernel

def brokenSource : String :=
  "const s =\n  \"SELECT * FROM t WHERE id = \" +\n  id;\n"

def brokenSum : Tree :=
  sumOf 12 48 (some .value) (textAt 12 41 (some .left)) (nameAt 46 48 (some .right))

def brokenTree : Tree :=
  .node ⟨.program, 0, 50, none, true, none, false⟩
    [.node ⟨.lexicalDeclaration, 0, 49, none, true, none, false⟩
      [.node ⟨.constKeyword, 0, 5, some .kind, false, none, false⟩ [],
        .node ⟨.variableDeclarator, 6, 48, none, true, none, false⟩
          [nameAt 6 7 (some .name), brokenSum]]]

/-- The value enters on the third line, the warning points into the second. -/
theorem broken_sum_points_off_line :
    brokenTree.firstDamage? = none ∧
    brokenTree.nodeAt? [0, 0, 1] = some brokenSum ∧
    brokenSum.EntersAt brokenSource .concatenation (nameAt 46 48 (some .right)) ∧
    ((nameAt 46 48 (some .right)).range brokenSource).start = ⟨3, 2⟩ ∧
    ((detectInjection ⟨brokenTree, brokenSource, "f.js", .javascript⟩).value.map fun warning =>
      (warning.origin, (⟨warning.lineNumber, warning.column⟩ : Position))) =
        [(.concatenation, ⟨2, 2⟩)] := by
  refine ⟨by decide +kernel, rfl, ?_, by decide +kernel, by decide +kernel⟩
  have adds : brokenSum.Operates .plus (textAt 12 41 (some .left)) (nameAt 46 48 (some .right)) :=
    ⟨rfl, rfl, rfl, rfl⟩
  exact .operand adds

end InjectionLint
