import InjectionLint.Proofs.Rule.Operand
import Mathlib.Order.Bounds.Defs
import Mathlib.Order.WellFounded

/-!
Templates and the values put into them. A template is cut into texts by its substitutions, the text of a
number being the one before the substitution of that number. A substitution is exposed if it puts in no
literal and the texts right before and after it have between them the words of a query.

Main statement: a template warns of its first exposed substitution, and of nothing if it has none
(`template_warns_of_first_exposed`).
-/

set_option autoImplicit false

namespace InjectionLint

/-! ### The texts of a template -/

namespace Template

def textStart (start : Nat) (substitutions : List Tree) : Nat → Nat
  | 0 => start
  | index + 1 => (substitutions[index]?.map Tree.stop).getD 0

def textStop (stop : Nat) (substitutions : List Tree) (index : Nat) : Nat :=
  (substitutions[index]?.map Tree.start).getD stop

def quasi (source : String) (template : Tree) (index : Nat) : String :=
  Text.slice source (textStart (template.start + 1) (substitutions template) index)
    (textStop (template.stop - 1) (substitutions template) index)

private theorem quasisFrom_eq_map (source : String) (stop start : Nat) (substitutions : List Tree) :
    quasisFrom source stop start substitutions =
      (List.range (substitutions.length + 1)).map fun index =>
        Text.slice source (textStart start substitutions index)
          (textStop stop substitutions index) := by
  induction substitutions generalizing start with
  | nil => rfl
  | cons substitution rest ih =>
      rw [quasisFrom, ih, List.length_cons, List.range_succ_eq_map (n := rest.length + 1),
        List.map_cons, List.map_map]
      congr 1
      apply List.map_congr_left
      intro index _
      cases index <;> rfl

theorem quasis_eq_map_quasi (source : String) (template : Tree) :
    quasis source template =
      (List.range ((substitutions template).length + 1)).map (quasi source template) :=
  quasisFrom_eq_map source _ _ _

private theorem quasis_getElem? (source : String) (template : Tree) {index : Nat}
    (within : index ≤ (substitutions template).length) :
    (quasis source template)[index]? = some (quasi source template index) := by
  rw [quasis_eq_map_quasi, List.getElem?_map, List.getElem?_range (by omega), Option.map_some]

/-! ### Exposed substitutions -/

/-- What a substitution puts in, parentheses removed; the substitution itself if it is empty. -/
def inserted (substitution : Tree) : Tree :=
  (substitution.content?.map Tree.bare).getD substitution

/-- A substitution of no literal, the words of a query being in the texts next to it. -/
def IsExposed (source : String) (template : Tree) (index : Nat) : Prop :=
  ∃ substitution, (substitutions template)[index]? = some substitution ∧
    (inserted substitution).kind ∉ [.stringLiteral, .numberLiteral, .trueLiteral, .falseLiteral] ∧
    ∀ word ∈ ["select", "where"], Keyword.Holds (quasi source template index) word ∨
      Keyword.Holds (quasi source template (index + 1)) word

theorem exists_first_of_exposed {source : String} {template : Tree}
    (hasExposed : ∃ index, IsExposed source template index) :
    ∃ index, IsLeast {number | IsExposed source template number} index := by
  obtain ⟨index, exposed, least⟩ := WellFounded.has_min Nat.lt_wfRel.wf
    {number | IsExposed source template number} hasExposed
  refine ⟨index, exposed, ?_⟩
  intro other isExposed
  exact Nat.le_of_not_lt (least other isExposed)

private theorem node_substituted (substitution : Tree) :
    (substituted substitution).node = inserted substitution := by
  unfold substituted inserted
  cases substitution.content? with
  | none => rfl
  | some content => exact Expr.node_classify content.bare

private theorem kind_of_mem_substitutions {template substitution : Tree}
    (member : substitution ∈ substitutions template) :
    substitution.kind = .templateSubstitution :=
  of_decide_eq_true (List.mem_filter.mp member).2

theorem isConstant_substituted_iff {template substitution : Tree}
    (member : substitution ∈ substitutions template) :
    (substituted substitution).isConstant = true ↔
      (inserted substitution).kind ∈
        [.stringLiteral, .numberLiteral, .trueLiteral, .falseLiteral] := by
  unfold substituted inserted
  cases substitution.content? with
  | none =>
      rw [Option.map_none, Option.getD_none, kind_of_mem_substitutions member]
      exact iff_of_false Bool.false_ne_true (by decide)
  | some content =>
      have byKind : ∀ expr : Expr, expr.isConstant = true ↔
          expr.kind = .stringLiteral ∨ expr.kind = .numericLiteral ∨
            expr.kind = .booleanLiteral := by
        intro expr
        cases expr <;> simp [Expr.isConstant, Expr.kind]
      simp only [byKind, Expr.ofTree, Option.map_some, Option.getD_some,
        Expr.kind_classify_iff content.bare .stringLiteral (by decide),
        Expr.kind_classify_iff content.bare .numericLiteral (by decide),
        Expr.kind_classify_iff content.bare .booleanLiteral (by decide), ExprKind.nodeKinds,
        List.mem_cons, List.not_mem_nil, or_false]

end Template

/-! ### The search for the first -/

namespace Rule

def Exposes (exprs : List Expr) (quasis : List String) (index : Nat) : Prop :=
  ∃ expr, exprs[index]? = some expr ∧ expr.isConstant = false ∧
    ∀ word ∈ ["select", "where"], Keyword.Holds (quasis[index]?.getD "") word ∨
      Keyword.Holds (quasis[index + 1]?.getD "") word

private theorem exposes_succ_iff (expr : Expr) (rest : List Expr) (quasis : List String)
    (index : Nat) :
    Exposes (expr :: rest) quasis (index + 1) ↔ Exposes rest (quasis.drop 1) index := by
  simp only [Exposes, List.getElem?_cons_succ, List.getElem?_drop, Nat.add_comm 1]

theorem exposes_zero_iff (expr : Expr) (rest : List Expr) (quasis : List String) :
    Exposes (expr :: rest) quasis 0 ↔
      (!expr.isConstant &&
        (Keyword.mentions "select" (quasis.head?.getD "") ||
          Keyword.mentions "select" (quasis[1]?.getD "")) &&
        (Keyword.mentions "where" (quasis.head?.getD "") ||
          Keyword.mentions "where" (quasis[1]?.getD ""))) = true := by
  simp only [Exposes, List.getElem?_cons_zero, Option.some.injEq, exists_eq_left', List.mem_cons,
    List.not_mem_nil, or_false, forall_eq_or_imp, forall_eq, Bool.and_eq_true, Bool.or_eq_true,
    Bool.not_eq_true', Keyword.mentions_iff_holds, List.head?_eq_getElem?, and_assoc, Nat.zero_add]

private theorem firstInterpolated?_eq_none {exprs : List Expr} {quasis : List String}
    (unexposed : ∀ index, ¬Exposes exprs quasis index) :
    firstInterpolated? exprs quasis = none := by
  induction exprs generalizing quasis with
  | nil => rfl
  | cons expr rest ih =>
      have notFirst := unexposed 0
      rw [exposes_zero_iff] at notFirst
      rw [firstInterpolated?, if_neg notFirst]
      apply ih
      intro index exposed
      exact unexposed (index + 1) ((exposes_succ_iff expr rest quasis index).mpr exposed)

theorem firstInterpolated?_eq_least {exprs : List Expr} {quasis : List String} {index : Nat}
    (exposed : Exposes exprs quasis index)
    (least : ∀ earlier < index, ¬Exposes exprs quasis earlier) :
    firstInterpolated? exprs quasis = exprs[index]? := by
  induction exprs generalizing quasis index with
  | nil =>
      obtain ⟨expr, found, _⟩ := exposed
      cases found
  | cons expr rest ih =>
      cases index with
      | zero =>
          rw [exposes_zero_iff] at exposed
          rw [firstInterpolated?, if_pos exposed, List.getElem?_cons_zero]
      | succ index =>
          -- The search goes on without the first value and the first text, so the numbers still match.
          have notFirst := least 0 (by omega)
          rw [exposes_zero_iff] at notFirst
          rw [firstInterpolated?, if_neg notFirst, List.getElem?_cons_succ]
          apply ih ((exposes_succ_iff expr rest quasis index).mp exposed)
          intro earlier before isExposed
          exact least (earlier + 1) (by omega)
            ((exposes_succ_iff expr rest quasis earlier).mpr isExposed)

theorem exposes_template_iff (source : String) (template : Tree) (index : Nat) :
    Exposes (Template.expressions template) (Template.quasis source template) index ↔
      Template.IsExposed source template index := by
  unfold Exposes Template.IsExposed Template.expressions
  rw [List.getElem?_map]
  cases found : (Template.substitutions template)[index]? with
  | none => simp
  | some substitution =>
      have within : index < (Template.substitutions template).length :=
        (List.getElem?_eq_some_iff.mp found).1
      rw [Template.quasis_getElem? source template (by omega),
        Template.quasis_getElem? source template (by omega)]
      simp only [Option.map_some, Option.some.injEq, exists_eq_left', Option.getD_some,
        ← Template.isConstant_substituted_iff (List.mem_of_getElem? found), Bool.not_eq_true]

theorem templateWarnings_of_unexposed {source : String} {template : Tree}
    (unexposed : ∀ index, ¬Template.IsExposed source template index) :
    templateWarnings source template = [] := by
  have none : firstInterpolated? (Template.expressions template)
      (Template.quasis source template) = none := by
    apply firstInterpolated?_eq_none
    intro index
    rw [exposes_template_iff]
    exact unexposed index
  rw [templateWarnings, none]

theorem templateWarnings_of_first {source : String} {template substitution : Tree} {index : Nat}
    (first : IsLeast {number | Template.IsExposed source template number} index)
    (found : (Template.substitutions template)[index]? = some substitution) :
    templateWarnings source template =
      [.ofRange .interpolation ((Template.inserted substitution).range source)
        ((Template.inserted substitution).range source).start.column source] := by
  have value : firstInterpolated? (Template.expressions template)
      (Template.quasis source template) = some (Template.substituted substitution) := by
    rw [firstInterpolated?_eq_least ((exposes_template_iff source template index).mpr first.1),
      Template.expressions, List.getElem?_map, found, Option.map_some]
    intro earlier before
    rw [exposes_template_iff]
    intro isExposed
    exact Nat.not_le_of_lt before (first.2 isExposed)
  simp only [templateWarnings, value, Expr.range, Template.node_substituted]

private theorem emitted_of_template (source : String) {template : Tree}
    (isTemplate : template.kind = .templateString) (chain : Chain) :
    emitted source ⟨template, chain⟩ = templateWarnings source template := by
  simp only [emitted, isTemplate, reduceCtorEq, if_false, Expr.classify]

end Rule

/-- A template has one warning if a substitution is exposed, on what the first of these puts in, and none
otherwise. It has the warning wherever it stands, as the argument of a tag or not. -/
theorem template_warns_of_first_exposed (source : String) (template : Tree) :
    ((∃ index, Template.IsExposed source template index) →
      ∃ index substitution, IsLeast {number | Template.IsExposed source template number} index ∧
        (Template.substitutions template)[index]? = some substitution ∧
        Rule.templateWarnings source template =
          [.ofRange .interpolation ((Template.inserted substitution).range source)
            ((Template.inserted substitution).range source).start.column source]) ∧
    ((¬∃ index, Template.IsExposed source template index) →
      Rule.templateWarnings source template = []) ∧
    ∀ tree address, tree.nodeAt? address = some template → template.kind = .templateString →
      Rule.atAddress source tree address = Rule.templateWarnings source template := by
  refine ⟨?_, ?_, ?_⟩
  · intro hasExposed
    obtain ⟨index, first⟩ := Template.exists_first_of_exposed hasExposed
    have ⟨substitution, found, _⟩ := first.1
    exact ⟨index, substitution, first, found, Rule.templateWarnings_of_first first found⟩
  · intro noneExposed
    exact Rule.templateWarnings_of_unexposed (not_exists.mp noneExposed)
  · intro tree address found isTemplate
    rw [Rule.atAddress_of_nodeAt? source found, Rule.emitted_of_template source isTemplate]

def taggedSource : String :=
  "sql`a $\x7b1\x7d SELECT $\x7b(b)\x7d WHERE $\x7bc\x7d`;"

def insertAt (start stop : Nat) (value : Tree) : Tree :=
  .node ⟨.templateSubstitution, start, stop, none, true, none, false⟩ [value]

def taggedTemplate : Tree :=
  .node ⟨.templateString, 3, 36, some .arguments, true, none, false⟩
    [insertAt 6 10 (.node ⟨.numberLiteral, 8, 9, none, true, none, false⟩ []),
      insertAt 18 24 (.node ⟨.parenthesizedExpression, 20, 23, none, true, none, false⟩
        [.node ⟨.identifier, 21, 22, none, true, none, false⟩ []]),
      insertAt 31 35 (.node ⟨.identifier, 33, 34, none, true, none, false⟩ [])]

def taggedTree : Tree :=
  .node ⟨.program, 0, 37, none, true, none, false⟩
    [.node ⟨.other "expression_statement", 0, 37, none, true, none, false⟩
      [.node ⟨.callExpression, 0, 36, none, true, none, false⟩
        [.node ⟨.identifier, 0, 3, some .function, true, none, false⟩ [], taggedTemplate]]]

/-- Of a number, a name in parentheses between the two words, and a name after them, the second is the
one that is exposed. -/
theorem tagged_template_warns_of_second :
    (∃ index substitution,
      IsLeast {number | Template.IsExposed taggedSource taggedTemplate number} index ∧
      (Template.substitutions taggedTemplate)[index]? = some substitution ∧
      Rule.templateWarnings taggedSource taggedTemplate =
        [.ofRange .interpolation ((Template.inserted substitution).range taggedSource)
          ((Template.inserted substitution).range taggedSource).start.column taggedSource]) ∧
    ((Rule.atAddress taggedSource taggedTree [0, 0, 1]).map fun warning =>
      (warning.range.render, warning.column)) = [("1:21-1:22", 21)] := by
  have exposed : Template.IsExposed taggedSource taggedTemplate 1 :=
    ⟨_, rfl, by decide +kernel, by decide +kernel⟩
  refine ⟨(template_warns_of_first_exposed taggedSource taggedTemplate).1 ⟨1, exposed⟩, ?_⟩
  rw [(template_warns_of_first_exposed taggedSource taggedTemplate).2.2 taggedTree [0, 0, 1] rfl rfl]
  decide +kernel

end InjectionLint
