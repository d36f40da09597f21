import InjectionLint.Proofs.Rule.Alike

/-!
The names of a binding pattern, told by where they stand. A pattern is a name, a pattern with something
added to it (a default value, the key of a property, a type), or a number of patterns in a row. The names
in binding position are those that no way through a default value, a key, a type, a decorator or a comment
leads to.

Main statement: a pattern binds the names in binding position from left to right, each without an
initialiser (`pattern_binds_names_in_position`).
-/

set_option autoImplicit false

namespace InjectionLint

def Kind.bindsName : Kind → Bool
  | .identifier | .shorthandPropertyIdentifierPattern => true
  | _ => false

/-- The role of the pattern in a node that adds something to it. -/
def Kind.patternRole? : Kind → Option Field
  | .assignmentPattern | .objectAssignmentPattern => some .left
  | .pairPattern => some .value
  | .requiredParameter | .optionalParameter => some .pattern
  | _ => none

inductive Aside where
  | defaultValue
  | propertyKey
  | statedType
  | decorator
  | comment
  deriving DecidableEq, Repr

namespace Tree

def aside? (parent : Kind) (child : Tree) : Option Aside :=
  if child.kind ∈ [.comment, .other "html_comment"] then some .comment
  else
    match parent, child.label.field with
    | .assignmentPattern, some .right | .objectAssignmentPattern, some .right
    | .requiredParameter, some .value | .optionalParameter, some .value => some .defaultValue
    | .pairPattern, some (.other "key") => some .propertyKey
    | .requiredParameter, some (.other "type")
    | .optionalParameter, some (.other "type") => some .statedType
    | .requiredParameter, some (.other "decorator")
    | .optionalParameter, some (.other "decorator") => some .decorator
    | _, _ => none

/-- The parts that bind nothing on the way to an address, from the outside in. -/
def asidesTo (tree : Tree) : Address → List Aside
  | [] => []
  | index :: rest =>
    match tree.namedChildren[index]? with
    | some child => (aside? tree.kind child).toList ++ child.asidesTo rest
    | none => []

def binderAt? (pattern : Tree) (address : Address) : Option Tree :=
  (pattern.nodeAt? address).filter fun node =>
    node.kind.bindsName && (pattern.asidesTo address).isEmpty

/-- What may stand beside the pattern in a node: a part that binds nothing, or a modifier. -/
def IsAddition (parent : Kind) (child : Tree) : Prop :=
  aside? parent child ≠ none ∨ child.kind.bindsName = false ∧ child.namedChildren = []

instance (parent : Kind) (child : Tree) : Decidable (IsAddition parent child) :=
  inferInstanceAs (Decidable (aside? parent child ≠ none ∨
    child.kind.bindsName = false ∧ child.namedChildren = []))

inductive IsPattern : Tree → Prop
  | name {tree : Tree} (binds : tree.kind.bindsName = true) (leaf : tree.namedChildren = []) :
      IsPattern tree
  | extended {tree inner : Tree} {role : Field} {before after : List Tree}
      (hasRole : tree.kind.patternRole? = some role) (inRole : tree.child? role = some inner)
      (parts : tree.namedChildren = before ++ inner :: after)
      (additions : ∀ child ∈ before ++ after, IsAddition tree.kind child)
      (pattern : IsPattern inner) : IsPattern tree
  | listed {tree : Tree} (kind : tree.kind ∈ [.restPattern, .objectPattern, .arrayPattern])
      (each : ∀ child ∈ tree.namedChildren, aside? tree.kind child = none → IsPattern child) :
      IsPattern tree

/-! ### Names in binding position, node by node -/

def binders (pattern : Tree) : List Tree :=
  pattern.addresses.filterMap pattern.binderAt?

private theorem binderAt?_below_child {tree child : Tree} {index : Nat}
    (found : tree.namedChildren[index]? = some child) (below : Address) :
    tree.binderAt? (index :: below) =
      if aside? tree.kind child = none then child.binderAt? below else none := by
  rw [binderAt?, binderAt?, nodeAt?_cons_of_child found, asidesTo, found]
  cases standing : aside? tree.kind child with
  | none => simp [standing]
  | some aside => simp [standing]

theorem binders_eq (tree : Tree) :
    tree.binders =
      (if tree.kind.bindsName then [tree] else []) ++
        tree.namedChildren.flatMap fun child =>
          if aside? tree.kind child = none then child.binders else [] := by
  have atRoot : (tree.binderAt? []).toList = if tree.kind.bindsName then [tree] else [] := by
    rw [binderAt?, nodeAt?_nil]
    cases binds : tree.kind.bindsName <;> simp [binds, asidesTo]
  rw [binders, List.filterMap_eq_flatMap_toList, flatMap_addresses, atRoot]
  intro index child found
  simp only [binderAt?_below_child found]
  split
  · rw [binders, List.filterMap_eq_flatMap_toList]
  · simp

/-! ### What the kinds of patterns say -/

private theorem IsPattern.not_comment {tree : Tree} (pattern : IsPattern tree) :
    tree.kind ∉ [.comment, .other "html_comment"] := by
  intro isComment
  simp only [List.mem_cons, List.not_mem_nil, or_false] at isComment
  cases pattern with
  | name binds leaf =>
      rcases isComment with isKind | isKind <;> rw [isKind] at binds <;> cases binds
  | extended hasRole inRole parts additions inner =>
      rcases isComment with isKind | isKind <;> rw [isKind] at hasRole <;> cases hasRole
  | listed kind each =>
      rcases isComment with isKind | isKind <;> rw [isKind] at kind <;> simp at kind

private theorem aside?_of_role {parent : Kind} {child : Tree} {role : Field}
    (hasRole : parent.patternRole? = some role) (inRole : child.label.field = some role)
    (pattern : IsPattern child) : aside? parent child = none := by
  unfold aside?
  rw [if_neg pattern.not_comment, inRole]
  unfold Kind.patternRole? at hasRole
  split at hasRole <;> cases hasRole <;> rfl

private theorem bindsName_of_role {kind : Kind} {role : Field}
    (hasRole : kind.patternRole? = some role) :
    kind.bindsName = false := by
  unfold Kind.patternRole? at hasRole
  split at hasRole <;> first | rfl | cases hasRole

private theorem boundNames_of_name {tree : Tree} (binds : tree.kind.bindsName = true) :
    tree.boundNames = [tree] := by
  rw [boundNames_eq]
  unfold Kind.bindsName at binds
  split at binds
  · rename_i isKind
    rw [isKind]
  · rename_i isKind
    rw [isKind]
  · cases binds

private theorem boundNames_of_role {tree : Tree} {role : Field}
    (hasRole : tree.kind.patternRole? = some role) :
    tree.boundNames = (tree.child? role).toList.flatMap boundNames := by
  rw [boundNames_eq]
  unfold Kind.patternRole? at hasRole
  split at hasRole
  case h_6 => cases hasRole
  all_goals
    rename_i isKind
    obtain rfl := Option.some.inj hasRole
    rw [isKind]

section Listed

variable {tree : Tree} (isList : tree.kind ∈ [.restPattern, .objectPattern, .arrayPattern])
include isList

private theorem kind_cases_of_list :
    tree.kind = .restPattern ∨ tree.kind = .objectPattern ∨ tree.kind = .arrayPattern := by
  simpa using isList

private theorem boundNames_of_list : tree.boundNames = tree.namedChildren.flatMap boundNames := by
  rw [boundNames_eq]
  rcases kind_cases_of_list isList with isKind | isKind | isKind <;> rw [isKind]

private theorem boundNames_of_aside_in_list {child : Tree}
    (standsAside : aside? tree.kind child ≠ none) :
    child.boundNames = [] := by
  have isComment : child.kind ∈ [.comment, .other "html_comment"] := by
    by_contra noComment
    unfold aside? at standsAside
    rw [if_neg noComment] at standsAside
    rcases kind_cases_of_list isList with isKind | isKind | isKind <;>
      rw [isKind] at standsAside <;> exact standsAside rfl
  simp only [List.mem_cons, List.not_mem_nil, or_false] at isComment
  rw [boundNames_eq]
  rcases isComment with isKind | isKind <;> rw [isKind]

end Listed

/-! ### The names of a pattern -/

theorem IsPattern.boundNames_eq_binders {tree : Tree} (pattern : IsPattern tree) :
    tree.boundNames = tree.binders := by
  induction pattern with
  | name binds leaf =>
      rw [boundNames_of_name binds, binders_eq, leaf, if_pos binds]
      rfl
  | @extended tree inner role before after hasRole inRole parts additions pattern ih =>
      have field : inner.label.field = some role := by
        simpa using List.find?_some inRole
      have inPlace : aside? tree.kind inner = none := aside?_of_role hasRole field pattern
      have nameless : ∀ child ∈ before ++ after,
          (if aside? tree.kind child = none then child.binders else []) = [] := by
        intro child member
        rcases additions child member with standsAside | ⟨noName, leaf⟩
        · rw [if_neg standsAside]
        · have none : child.binders = [] := by
            rw [binders_eq, leaf, noName]
            rfl
          rw [none, ite_self]
      have ofBefore := List.flatMap_eq_nil_iff.mpr fun child member =>
        nameless child (List.mem_append_left after member)
      have ofAfter := List.flatMap_eq_nil_iff.mpr fun child member =>
        nameless child (List.mem_append_right before member)
      rw [boundNames_of_role hasRole, inRole, Option.toList_some, List.flatMap_singleton, ih,
        binders_eq tree, bindsName_of_role hasRole, parts, List.flatMap_append, List.flatMap_cons,
        ofBefore, ofAfter, if_pos inPlace]
      simp
  | @listed tree kind each ih =>
      have noName : tree.kind.bindsName = false := by
        rcases kind_cases_of_list kind with isKind | isKind | isKind <;> rw [isKind] <;> rfl
      rw [boundNames_of_list kind, binders_eq, noName]
      apply List.flatMap_congr
      intro child member
      split
      · rename_i inPlace
        exact ih child member inPlace
      · rename_i standsAside
        exact boundNames_of_aside_in_list kind standsAside

end Tree

/-! ### Declaring a pattern -/

namespace Frame

def declare (source : String) (frame : Frame) (declarations : List Declaration) : Frame :=
  ⟨frame.kind, frame.bindings ++ declarations.filterMap (binding? source frame.kind)⟩

private theorem ofScope_eq_declare {scope : ScopeKind} {tree : Tree}
    {earlier later : List Declaration}
    (source : String) (parts : Declaration.ofScope scope tree = earlier ++ later) :
    ofScope source scope tree = (declare source ⟨scope, []⟩ earlier).declare source later := by
  rw [ofScope, parts, List.filterMap_append]
  rfl

variable {source : String} {pattern name : Tree} (frame : Frame) (kind : BindingKind)

private theorem find?_ofPattern (member : name ∈ pattern.boundNames)
    (named : name.text source ≠ "") :
    ((Declaration.ofPattern kind pattern).filterMap (binding? source frame.kind)).find?
        (·.name = name.text source) =
      some ⟨name.text source, kind, none, frame.kind⟩ := by
  rw [find?_filterMap_binding?, if_neg named, Declaration.ofPattern, List.find?_map]
  change ((pattern.boundNames.find? fun other => other.text source = name.text source).map _).map _ = _
  cases found : pattern.boundNames.find? fun other => other.text source = name.text source with
  | none =>
      have different := List.find?_eq_none.mp found name member
      simp at different
  | some other => rfl

/-- A name of a declared pattern is what the frame had under it before, and else has no initialiser.
What is declared later changes nothing. -/
theorem get?_declare_ofPattern (later : List Declaration) (member : name ∈ pattern.boundNames)
    (named : name.text source ≠ "") :
    (frame.declare source (Declaration.ofPattern kind pattern ++ later)).get? (name.text source) =
      (frame.get? (name.text source)).or (some ⟨name.text source, kind, none, frame.kind⟩) := by
  rw [declare, get?, List.filterMap_append, List.find?_append, List.find?_append,
    find?_ofPattern frame kind member named, Option.some_or]
  rfl

end Frame

private theorem Chain.resolve?_cons_of_get? {frame : Frame} {name : String} {binding : Binding}
    (bound : frame.get? name = some binding) (outer : Chain) :
    Chain.resolve? (frame :: outer) name = some binding := by
  rw [resolve?, List.findSome?_cons, bound]

/-- A pattern of any depth binds the names in binding position, in the order of their addresses, which is
from left to right. A scope that declares the pattern has it added to the frame of what it declares earlier.
There each of the names has no initialiser unless it was bound earlier, is found before all that the frames
further out have, and stands for no string. -/
theorem pattern_binds_names_in_position {pattern : Tree} (isPattern : pattern.IsPattern) :
    pattern.boundNames = pattern.addresses.filterMap pattern.binderAt? ∧
    (∀ address name, pattern.binderAt? address = some name ↔
      pattern.nodeAt? address = some name ∧ name.kind.bindsName = true ∧
        pattern.asidesTo address = []) ∧
    (pattern.addresses.Pairwise (· < ·) ∧
      ∀ address, address ∈ pattern.addresses ↔ (pattern.nodeAt? address).isSome = true) ∧
    (∀ (source : String) (scope : ScopeKind) (tree : Tree) (kind : BindingKind)
      (earlier later : List Declaration),
      Declaration.ofScope scope tree = earlier ++ (Declaration.ofPattern kind pattern ++ later) →
        Frame.ofScope source scope tree = (Frame.declare source ⟨scope, []⟩ earlier).declare source
          (Declaration.ofPattern kind pattern ++ later)) ∧
    ∀ (source : String) (frame : Frame) (kind : BindingKind) (later : List Declaration) (outer : Chain),
      ∀ name ∈ pattern.boundNames, name.text source ≠ "" →
        (frame.declare source (Declaration.ofPattern kind pattern ++ later)).get? (name.text source) =
          (frame.get? (name.text source)).or (some ⟨name.text source, kind, none, frame.kind⟩) ∧
        Chain.resolve? (frame.declare source (Declaration.ofPattern kind pattern ++ later) :: outer)
            (name.text source) =
          (frame.declare source (Declaration.ofPattern kind pattern ++ later)).get?
            (name.text source) ∧
        (frame.get? (name.text source) = none →
          ∀ node : Tree, node.text source = name.text source →
            Rule.literalValue? source
              (frame.declare source (Declaration.ofPattern kind pattern ++ later) :: outer)
              (.identifier node) = none) := by
  refine ⟨isPattern.boundNames_eq_binders, ?_,
    ⟨pattern.addresses_pairwise_lt, pattern.mem_addresses_iff⟩, ?_, ?_⟩
  · intro address name
    rw [Tree.binderAt?, Option.filter_eq_some_iff, Bool.and_eq_true, List.isEmpty_iff]
  · intro source scope tree kind earlier later parts
    exact Frame.ofScope_eq_declare source parts
  · intro source frame kind later outer name member named
    have declared := frame.get?_declare_ofPattern kind later member named
    obtain ⟨binding, bound⟩ : ∃ binding,
        (frame.declare source (Declaration.ofPattern kind pattern ++ later)).get?
          (name.text source) = some binding := by
      rw [declared]
      cases frame.get? (name.text source) <;> exact ⟨_, rfl⟩
    refine ⟨declared, ?_, ?_⟩
    · rw [bound, Chain.resolve?_cons_of_get? bound]
    · intro unbound node sameText
      rw [unbound, Option.none_or] at declared
      rw [Rule.literalValue?, sameText, Chain.resolve?_cons_of_get? declared]
      rfl

def destructuringSource : String :=
  "function f(\x7ba, b: [c = d], [e]: g = h, ...r\x7d: T = i) \x7b\x7d"

def soundNode (kind : Kind) (start stop : Nat) (field : Option Field) (children : List Tree) : Tree :=
  .node ⟨kind, start, stop, field, true, none, false⟩ children

def defaultedElement : Tree :=
  soundNode .assignmentPattern 19 24 none
    [soundNode .identifier 19 20 (some .left) [], soundNode .identifier 23 24 (some .right) []]

def computedProperty : Tree :=
  soundNode .pairPattern 27 37 none
    [soundNode (.other "computed_property_name") 27 30 (some (.other "key"))
        [soundNode .identifier 28 29 none []],
      soundNode .assignmentPattern 32 37 (some .value)
        [soundNode .identifier 32 33 (some .left) [], soundNode .identifier 36 37 (some .right) []]]

def destructuredProperties : Tree :=
  soundNode .objectPattern 11 44 (some .pattern)
    [soundNode .shorthandPropertyIdentifierPattern 12 13 none [],
      soundNode .pairPattern 15 25 none
        [soundNode .propertyIdentifier 15 16 (some (.other "key")) [],
          soundNode .arrayPattern 18 25 (some .value) [defaultedElement]],
      computedProperty,
      soundNode .restPattern 39 43 none [soundNode .identifier 42 43 none []]]

def destructuredParameter : Tree :=
  soundNode .requiredParameter 11 51 none
    [destructuredProperties,
      soundNode (.other "type_annotation") 44 47 (some (.other "type"))
        [soundNode .typeIdentifier 46 47 none []],
      soundNode .identifier 50 51 (some .value) []]

def destructuringFunction : Tree :=
  soundNode .functionDeclaration 0 55 none
    [soundNode .identifier 9 10 (some .name) [],
      soundNode (.other "formal_parameters") 10 52 (some .parameters) [destructuredParameter],
      soundNode .statementBlock 53 55 (some .body) []]

theorem isPattern_destructuredParameter : destructuredParameter.IsPattern := by
  have ofName : ∀ kind start stop field, kind.bindsName = true →
      (soundNode kind start stop field []).IsPattern := fun _ _ _ _ binds => .name binds rfl
  have element : defaultedElement.IsPattern :=
    @Tree.IsPattern.extended _ _ _ [] _ rfl rfl rfl (by decide) (ofName _ _ _ _ rfl)
  have computed : computedProperty.IsPattern :=
    @Tree.IsPattern.extended _ _ _ [_] [] rfl rfl rfl (by decide)
      (@Tree.IsPattern.extended _ _ _ [] _ rfl rfl rfl (by decide) (ofName _ _ _ _ rfl))
  have properties : destructuredProperties.IsPattern := by
    refine .listed (by decide) ?_
    change ∀ child ∈ [_, _, _, _], _
    simp only [List.forall_mem_cons]
    refine ⟨fun _ => ofName _ _ _ _ rfl, fun _ => ?_, fun _ => computed, fun _ => ?_, nofun⟩
    · refine @Tree.IsPattern.extended _ _ _ [_] [] rfl rfl rfl (by decide) (.listed (by decide) ?_)
      change ∀ child ∈ [_], _
      simp only [List.forall_mem_singleton]
      exact fun _ => element
    · refine .listed (by decide) ?_
      change ∀ child ∈ [_], _
      simp only [List.forall_mem_singleton]
      exact fun _ => ofName _ _ _ _ rfl
  exact @Tree.IsPattern.extended _ _ _ [] _ rfl rfl rfl (by decide) properties

/-- The parameter binds `a`, `c`, `g` and `r`; the default values `d`, `h` and `i` and the key `e` are left
out. In the frame of the function `c` has no initialiser, whatever is declared around the function. -/
theorem destructured_names_bound :
    destructuredParameter.IsPattern ∧
    (destructuredParameter.addresses.filterMap destructuredParameter.binderAt?).map
        (Tree.text destructuringSource) = ["a", "c", "g", "r"] ∧
    ∀ outer, Chain.resolve?
        (Frame.ofScope destructuringSource .function destructuringFunction :: outer) "c" =
      some ⟨"c", .parameter, none, .function⟩ := by
  have texts : destructuredParameter.boundNames.map (Tree.text destructuringSource) =
      ["a", "c", "g", "r"] := by
    decide +kernel
  have text : (soundNode .identifier 19 20 (some .left) []).text destructuringSource = "c" := by
    decide +kernel
  have isName : soundNode .identifier 19 20 (some .left) [] ∈ destructuredParameter.boundNames :=
    List.mem_cons_of_mem _ List.mem_cons_self
  have parts : Declaration.ofScope .function destructuringFunction =
      [] ++ (Declaration.ofPattern .parameter destructuredParameter ++ []) := rfl
  obtain ⟨inPosition, _, _, added, declared⟩ :=
    pattern_binds_names_in_position isPattern_destructuredParameter
  refine ⟨isPattern_destructuredParameter, by rw [← inPosition, texts], ?_⟩
  intro outer
  obtain ⟨bound, resolved, _⟩ := declared destructuringSource ⟨.function, []⟩ .parameter [] outer
    _ isName (by rw [text]; decide)
  rw [text] at bound resolved
  rw [added destructuringSource _ _ _ _ _ parts]
  exact resolved.trans bound

end InjectionLint
