import InjectionLint.Proofs.Scope.Ownership

/-!
The own name of a function expression. It is declared in the same frame as the parameters and the body,
and before them, so that it hides what these declare under the same name.

Main statement: the frame of a function binds its own name first, and what the parameters or the body
declare is found unless it has that name (`own_name_comes_first`).
-/

set_option autoImplicit false

namespace InjectionLint

/-- The node that names a function expression. A function declaration is named in the scope around it. -/
def Tree.ownName? (function : Tree) : Option Tree :=
  if function.kind ∈ [.functionExpression, .functionKeyword, .generatorFunction] then
    function.child? .name
  else none

namespace Declaration

def inside (function : Tree) : List Declaration :=
  plain .parameter ((function.child? .parameter).toList.flatMap Tree.boundNames) ++
  plain .parameter (((function.child? .parameters).toList.flatMap Tree.namedChildren).flatMap
    Tree.boundNames) ++
  (container? .function function).toList.flatMap fun body =>
    body.addresses.flatMap (ownedAt .function body)

private theorem owned_function (function : Tree) :
    owned .function function = plain .function function.ownName?.toList ++ inside function := by
  have ownPart : (if function.kind ∈ [.functionExpression, .functionKeyword, .generatorFunction] then
      plain .function (function.child? .name).toList else []) =
        plain .function function.ownName?.toList := by
    unfold Tree.ownName?
    split <;> rfl
  simp only [owned, headOf, inside, ownPart, List.append_assoc]

end Declaration

namespace Binding

def ofOwnName? (source : String) (function : Tree) (name : String) : Option Binding :=
  if name ≠ "" ∧ function.ownName?.map (Tree.text source) = some name then
    some ⟨name, .function, none, .function⟩
  else none

def inside? (source : String) (function : Tree) (name : String) : Option Binding :=
  if name = "" then none
  else
    ((Declaration.inside function).find? fun site => site.name.text source = name).map fun site =>
      ⟨name, site.kind, site.init, .function⟩

theorem ofOwnName?_eq_find? (source : String) (function : Tree) {name : String}
    (named : name ≠ "") :
    ofOwnName? source function name =
      ((Declaration.plain .function function.ownName?.toList).find? fun site =>
        site.name.text source = name).map fun site => ⟨name, site.kind, site.init, .function⟩ := by
  unfold ofOwnName?
  cases function.ownName? with
  | none =>
      apply if_neg
      rintro ⟨_, isOwn⟩
      cases isOwn
  | some own =>
      by_cases same : own.text source = name
      · rw [if_pos ⟨named, congrArg some same⟩]
        simp [Declaration.plain, same]
      · rw [if_neg (fun both => same (Option.some.inj both.2))]
        simp [Declaration.plain, same]

end Binding

private theorem Frame.get?_function (source : String) (function : Tree) (name : String) :
    (Frame.ofScope source .function function).get? name =
      (Binding.ofOwnName? source function name).or (Binding.inside? source function name) := by
  rw [Frame.get?_ofScope]
  by_cases nameless : name = ""
  · have noOwn : Binding.ofOwnName? source function name = none :=
      if_neg fun both => both.1 nameless
    rw [if_pos nameless, noOwn, Binding.inside?, if_pos nameless]
    rfl
  · rw [if_neg nameless, Declaration.owned_function, List.find?_append, Option.map_or,
      Binding.ofOwnName?_eq_find? source function nameless, Binding.inside?, if_neg nameless]

/-- The frame of a function has its own name before what the parameters and the body declare. So the
first of these declarations is what a name is bound to if it is not the own name, and otherwise only if
it says no more than the own name does. What nothing inside declares is bound by the own name alone. -/
theorem own_name_comes_first (source : String) (function : Tree) (name : String) :
    (Frame.ofScope source .function function).get? name =
      (Binding.ofOwnName? source function name).or (Binding.inside? source function name) ∧
    (∀ binding, Binding.inside? source function name = some binding →
      ((Frame.ofScope source .function function).get? name = some binding ↔
        function.ownName?.map (Tree.text source) ≠ some name ∨
          binding = ⟨name, .function, none, .function⟩)) ∧
    (Binding.inside? source function name = none →
      (Frame.ofScope source .function function).get? name =
        Binding.ofOwnName? source function name) := by
  rw [Frame.get?_function]
  refine ⟨rfl, ?_, ?_⟩
  · intro binding declared
    have named : name ≠ "" := by
      rintro rfl
      rw [Binding.inside?, if_pos rfl] at declared
      cases declared
    rw [declared]
    by_cases isOwn : function.ownName?.map (Tree.text source) = some name
    · have own : Binding.ofOwnName? source function name = some ⟨name, .function, none, .function⟩ :=
        if_pos ⟨named, isOwn⟩
      rw [own, Option.or_some, Option.some.injEq, eq_comm]
      simp [isOwn]
    · have noOwn : Binding.ofOwnName? source function name = none :=
        if_neg fun both => isOwn both.2
      rw [noOwn, Option.none_or]
      exact iff_of_true rfl (.inl isOwn)
  · intro nothing
    rw [nothing, Option.or_none]

def hoistingFunction : Tree :=
  .node ⟨.functionExpression, 4, 46, some .right, true, none, false⟩
    [.node ⟨.identifier, 13, 14, some .name, true, none, false⟩ [],
      .node ⟨.other "formal_parameters", 14, 16, some .parameters, true, none, false⟩ [],
      .node ⟨.statementBlock, 17, 46, some .body, true, none, false⟩
        [.node ⟨.other "expression_statement", 19, 26, none, true, none, false⟩
          [.node ⟨.callExpression, 19, 25, none, true, none, false⟩
            [.node ⟨.identifier, 19, 22, some .function, true, none, false⟩ [],
              .node ⟨.other "arguments", 22, 25, some .arguments, true, none, false⟩
                [.node ⟨.identifier, 23, 24, none, true, none, false⟩ []]]],
          .node ⟨.variableDeclaration, 27, 44, none, true, none, false⟩
            [.node ⟨.variableDeclarator, 31, 43, none, true, none, false⟩
              [.node ⟨.identifier, 31, 32, some .name, true, none, false⟩ [],
                .node ⟨.stringLiteral, 35, 43, some .value, true, none, false⟩
                  [.node ⟨.other "string_fragment", 36, 42, none, true, none, false⟩ []]]]]]

def otherNamedSource : String :=
  "x = function p() \x7b run(q); var q = 'select'; \x7d;"

theorem var_found_beside_other_own_name :
    (Binding.inside? otherNamedSource hoistingFunction "q").isSome = true ∧
    ((Frame.ofScope otherNamedSource .function hoistingFunction).get? "q").map (fun binding =>
      (binding.kind, binding.stringInit? otherNamedSource)) = some (.varName, some "select") := by
  have isSome : (Binding.inside? otherNamedSource hoistingFunction "q").isSome = true := by
    decide +kernel
  obtain ⟨binding, declared⟩ := Option.isSome_iff_exists.mp isSome
  have bound := ((own_name_comes_first otherNamedSource hoistingFunction "q").2.1 binding
    declared).mpr (.inl (by decide +kernel))
  refine ⟨isSome, ?_⟩
  rw [bound, ← declared]
  decide +kernel

def selfNamedSource : String :=
  "x = function q() \x7b run(q); var q = 'select'; \x7d;"

/-- The body declares `q` with a text, and the frame binds `q` to the function, without a value. -/
theorem own_name_hides_initialised_var :
    hoistingFunction.ownName?.map (Tree.text selfNamedSource) = some "q" ∧
    (Binding.inside? selfNamedSource hoistingFunction "q").map (fun binding =>
      (binding.kind, binding.stringInit? selfNamedSource)) = some (.varName, some "select") ∧
    ((Frame.ofScope selfNamedSource .function hoistingFunction).get? "q").map (fun binding =>
      (binding.kind, binding.stringInit? selfNamedSource)) = some (.function, none) := by
  refine ⟨by decide +kernel, by decide +kernel, by decide +kernel⟩

end InjectionLint
