import InjectionLint.Proofs.Rule.Reading
import InjectionLint.Proofs.Scope.Initialiser
import InjectionLint.Proofs.Source.LineBreaks
import Mathlib.Data.List.Forall2
import Mathlib.Logic.Equiv.Basic

/-!
Two sources under one tree. Detection takes little from a source: where its lines end, the names that it
compares, strings and the texts of templates in lower case, and whether a string has a single quote.
Sources that agree on these, up to a renaming of the names, have the same findings.

Main statement: `detection_invariant_under_renaming`.
-/

set_option autoImplicit false

namespace InjectionLint

/-- A change of names that keeps different names apart, and the two names that count. -/
structure Renaming where
  apply : String → String
  injective : Function.Injective apply
  keepsRequire : apply "require" = "require"
  keepsEmpty : apply "" = ""

/-! ### Names that are read -/

def Expr.startName? : Expr → Option Tree
  | .identifier node => some node
  | .binary operation =>
    match operation.left.leftmostExpr with
    | .identifier node => some node
    | _ => none
  | _ => none

def Call.namesRead (call : Call) : List Tree :=
  (if call.callee.kind = .identifier then [call.callee] else []) ++
    call.argumentExprs.filterMap Expr.startName?

namespace Tree

def declarationsAt (tree : Tree) (address : Address) : List Declaration :=
  match tree.nodeAt? address,
      (tree.scopeAt? address).or (if address = [] then some .program else none) with
  | some opener, some scope => Declaration.ofScope scope opener
  | _, _ => []

def namesRead (tree : Tree) : List Tree :=
  (tree.nodes.flatMap fun node =>
    match Expr.classify node with
    | .call call => call.namesRead
    | _ => []) ++
  (tree.addresses.flatMap tree.declarationsAt).map (·.name)

/-- Two sources look the same to detection on a tree, up to a renaming. -/
structure SeenAlike (tree : Tree) (mapping : Renaming) (source other : String) : Prop where
  breaks : lineBreaks source = lineBreaks other
  names : ∀ node ∈ tree.namesRead, node.text other = mapping.apply (node.text source)
  strings : ∀ node ∈ tree.nodes, node.kind = .stringLiteral →
    lowered (Literal.value source node) = lowered (Literal.value other node) ∧
      (Rule.singleQuote ∈ (node.text source).toList ↔ Rule.singleQuote ∈ (node.text other).toList)
  quasis : ∀ node ∈ tree.nodes, node.kind = .templateString →
    (Template.quasis source node).map lowered = (Template.quasis other node).map lowered

end Tree

/-! ### Nodes that expressions are taken from -/

namespace Tree

theorem mem_nodes_of_nodeAt? {tree node : Tree} {address : Address}
    (found : tree.nodeAt? address = some node) : node ∈ tree.nodes := by
  induction address generalizing tree with
  | nil =>
      obtain rfl := Option.some.inj found
      exact self_mem_nodes _
  | cons index rest ih =>
      obtain ⟨child, isChild, inChild⟩ := Option.bind_eq_some_iff.mp found
      exact mem_nodes_of_child (mem_children_of_named isChild) (ih inChild)

theorem bare_mem_nodes (tree : Tree) : tree.bare ∈ tree.nodes := by
  induction tree with
  | step tree ih =>
      rw [bare_eq]
      split
      · cases inside : tree.content? with
        | none => exact tree.self_mem_nodes
        | some content =>
            have isChild := List.mem_of_find?_eq_some inside
            exact mem_nodes_of_child isChild (ih content isChild)
      · exact tree.self_mem_nodes

theorem leftmost_mem_nodes (tree : Tree) : tree.leftmost ∈ tree.nodes := by
  induction tree with
  | step tree ih =>
      rw [leftmost_eq]
      split
      · cases inside : tree.content? with
        | none => exact tree.self_mem_nodes
        | some content =>
            have isChild := List.mem_of_find?_eq_some inside
            exact mem_nodes_of_child isChild (ih content isChild)
      · split
        · cases left : tree.child? .left with
          | none => exact tree.self_mem_nodes
          | some operand =>
              have isChild := List.mem_of_find?_eq_some left
              exact mem_nodes_of_child isChild (ih operand isChild)
        · exact tree.self_mem_nodes

end Tree

def Expr.parts : Expr → List Tree
  | .binary operation => [operation.left, operation.right]
  | .call application => [application.arguments]
  | _ => []

theorem Expr.mem_children_of_parts {tree part : Tree} (isPart : part ∈ (Expr.classify tree).parts) :
    part ∈ tree.children := by
  unfold Expr.classify at isPart
  split at isPart
  case h_1 =>
    unfold Binary.ofTree? at isPart
    split at isPart
    · rename_i left right operator hasLeft hasRight _
      rcases List.mem_cons.mp isPart with rfl | isRight
      · exact List.mem_of_find?_eq_some hasLeft
      · rw [List.mem_singleton.mp isRight]
        exact List.mem_of_find?_eq_some hasRight
    · cases isPart
  case h_3 =>
    unfold Call.ofTree? at isPart
    split at isPart
    · rename_i callee arguments _ hasArguments
      rw [List.mem_singleton.mp isPart]
      exact List.mem_of_find?_eq_some hasArguments
    · cases isPart
  all_goals cases isPart

/-! ### Faces under a renaming -/

namespace Face

def rename (apply : String → String) : Face → Face
  | .name given => .name (apply given)
  | face => face

def unnamed (face : Face) : Face :=
  face.rename fun _ => ""

theorem eq_of_unnamed {α : Type} (view : Face → α)
    (blind : ∀ face : Face, view face.unnamed = view face) {left right : Face}
    (same : left.unnamed = right.unnamed) : view left = view right := by
  rw [← blind left, same, blind right]

end Face

/-! ### Findings from faces -/

section Findings

variable {lookup lookup' : String → Option (List Char)}

theorem findings_operation_congr {additive : Bool} {range : Range}
    {left left' right right' : Outlook}
    (sameStart : left.start.unnamed = left'.start.unnamed)
    (sameLeft : left.face.unnamed = left'.face.unnamed)
    (sameRight : right.face.unnamed = right'.face.unnamed) (samePlace : right.range = right'.range) :
    (Reading.operation additive range left right).findings lookup =
      (Reading.operation additive range left' right').findings lookup' := by
  -- An addition asks whether its right side is a name, not which one, and looks no name up.
  have byText : ∀ (lookup : String → Option (List Char)) (left right : Outlook),
      (Reading.operation additive range left right).findings lookup =
        left.start.text?.elim [] fun query =>
          if additive && left.face.startsQuery && Keyword.statementIn query &&
              Keyword.isIn query "where" && right.face.isInjectable then
            [⟨.concatenation, range, right.range.start.column⟩]
          else [] := by
    intro lookup left right
    simp only [Reading.findings]
    cases left.start <;> rfl
  have sameQuery := Face.eq_of_unnamed Face.text? (by rintro (_ | _) <;> rfl) sameStart
  have sameStarts := Face.eq_of_unnamed Face.startsQuery (by rintro (_ | _) <;> rfl) sameLeft
  have sameInjectable := Face.eq_of_unnamed Face.isInjectable (by rintro (_ | _) <;> rfl) sameRight
  rw [byText, byText, sameQuery, sameStarts, sameInjectable, samePlace]

theorem findings_template_congr {values values' : List (Face × Range)}
    (same : List.Forall₂ (fun value value' : Face × Range =>
      value.1.unnamed = value'.1.unnamed ∧ value.2 = value'.2) values values')
    (quasis : List (List Char)) :
    (Reading.template values quasis).findings lookup =
      (Reading.template values' quasis).findings lookup' := by
  have sameFirst : (firstInserted? values quasis).map Prod.snd =
      (firstInserted? values' quasis).map Prod.snd := by
    induction same generalizing quasis with
    | nil => rfl
    | @cons value value' _ _ agree _ ih =>
        have sameConstant := Face.eq_of_unnamed Face.isConstant (by rintro (_ | _) <;> rfl) agree.1
        rw [firstInserted?, firstInserted?, sameConstant]
        simp only
        split
        · rw [Option.map_some, Option.map_some, agree.2]
        · exact ih (quasis.drop 1)
  have byRange : ∀ (lookup : String → Option (List Char)) (values : List (Face × Range)),
      (Reading.template values quasis).findings lookup =
        ((firstInserted? values quasis).map Prod.snd).toList.map fun range =>
          ⟨.interpolation, range, range.start.column⟩ := by
    intro lookup values
    simp only [Reading.findings]
    cases firstInserted? values quasis <;> rfl
  rw [byRange, byRange, sameFirst]

theorem Outlook.query?_rename {apply : String → String}
    (sameStrings : ∀ name, lookup' (apply name) = lookup name) {argument argument' : Outlook}
    (sameLead : argument'.lead = argument.lead.map (Prod.map id (Face.rename apply)))
    (sameFace : argument'.face = argument.face.rename apply) :
    argument'.query? lookup' = argument.query? lookup := by
  unfold Outlook.query?
  rw [sameLead, sameFace]
  cases argument.lead with
  | none =>
      cases argument.face with
      | name given => exact congrArg (Option.map _) (sameStrings given)
      | _ => rfl
  | some lead =>
      obtain ⟨additive, face⟩ := lead
      cases face with
      | name given =>
          cases additive with
          | true => exact congrArg (Option.map _) (sameStrings given)
          | false => rfl
      | _ => rfl

end Findings

/-! ### Findings under a renaming -/

section Sources

variable {tree : Tree} {mapping : Renaming} {source other : String}

theorem Tree.SeenAlike.range_eq (alike : tree.SeenAlike mapping source other) (node : Tree) :
    node.range source = node.range other := by
  unfold Tree.range Range.ofOffsets
  rw [Position.ofOffset_congr alike.breaks, Position.ofOffset_congr alike.breaks]

private theorem Tree.SeenAlike.face_classify (alike : tree.SeenAlike mapping source other)
    {node : Tree}
    (member : node ∈ tree.nodes) :
    ((Expr.classify node).face source).unnamed = ((Expr.classify node).face other).unnamed := by
  unfold Expr.classify
  split
  case h_1 => cases Binary.ofTree? node <;> rfl
  case h_3 => cases Call.ofTree? node <;> rfl
  case h_8 isString =>
    obtain ⟨sameValue, sameQuote⟩ := alike.strings node member isString
    simp only [Expr.face, sameValue, sameQuote]
  all_goals rfl

theorem Tree.SeenAlike.face_ofTree (alike : tree.SeenAlike mapping source other) {node : Tree}
    (member : node ∈ tree.nodes) :
    ((Expr.ofTree node).face source).unnamed = ((Expr.ofTree node).face other).unnamed :=
  alike.face_classify (Tree.mem_nodes_trans node.bare_mem_nodes member)

private theorem Tree.SeenAlike.face_leftmostExpr (alike : tree.SeenAlike mapping source other)
    {node : Tree} (member : node ∈ tree.nodes) :
    (node.leftmostExpr.face source).unnamed = (node.leftmostExpr.face other).unnamed :=
  alike.face_ofTree (Tree.mem_nodes_trans node.leftmost_mem_nodes member)

/-! ### Strings of names under a renaming -/

theorem Renaming.apply_eq_iff {mapping : Renaming} {word : String} (kept : mapping.apply word = word)
    (name : String) : mapping.apply name = word ↔ name = word := by
  constructor
  · intro same
    exact mapping.injective (same.trans kept.symm)
  · rintro rfl
    exact kept

theorem Entry.search_rename (mapping : Renaming) (scopes : List (List Entry)) (name : String) :
    Entry.search (scopes.map (List.map (Prod.map mapping.apply id))) (mapping.apply name) =
      Entry.search scopes name := by
  have inScope : ∀ entries : List Entry,
      (entries.map (Prod.map mapping.apply id)).find? (·.1 = mapping.apply name) =
        (entries.find? (·.1 = name)).map (Prod.map mapping.apply id) := by
    intro entries
    rw [List.find?_map]
    congr 2
    funext entry
    simp only [Function.comp_apply, Prod.map_fst, mapping.injective.eq_iff]
  unfold Entry.search
  induction scopes with
  | nil => rfl
  | cons entries outer ih =>
      rw [List.map_cons, List.findSome?_cons, List.findSome?_cons, inScope]
      cases entries.find? (·.1 = name) with
      | none => exact ih
      | some entry => rfl

private theorem Tree.SeenAlike.entry_rename (alike : tree.SeenAlike mapping source other)
    {declaration : Declaration} (named : declaration.name ∈ tree.namesRead)
    (inside : ∀ init, declaration.init = some init → init ∈ tree.nodes) :
    declaration.entry other = Prod.map mapping.apply id (declaration.entry source) := by
  have sameString : (declaration.init.bind fun init => ((Expr.ofTree init).face other).text?) =
      declaration.init.bind fun init => ((Expr.ofTree init).face source).text? := by
    cases hasInit : declaration.init with
    | none => rfl
    | some init =>
        have sameFace := alike.face_ofTree (inside init hasInit)
        exact (Face.eq_of_unnamed Face.text? (by rintro (_ | _) <;> rfl) sameFace).symm
  unfold Declaration.entry
  rw [alike.names _ named, sameString]
  rfl

theorem Tree.SeenAlike.entries_ofScope (alike : tree.SeenAlike mapping source other)
    {scope : ScopeKind} {node : Tree} (member : node ∈ tree.nodes)
    (named : ∀ declaration ∈ Declaration.ofScope scope node, declaration.name ∈ tree.namesRead) :
    (Frame.ofScope other scope node).entries other =
      ((Frame.ofScope source scope node).entries source).map (Prod.map mapping.apply id) := by
  have renamed : (Declaration.ofScope scope node).map (Declaration.entry other) =
      ((Declaration.ofScope scope node).map (Declaration.entry source)).map
        (Prod.map mapping.apply id) := by
    rw [List.map_map]
    apply List.map_congr_left
    intro declaration isDeclared
    apply alike.entry_rename (named declaration isDeclared)
    intro init hasInit
    exact Tree.mem_nodes_trans (Declaration.init_of_ofScope isDeclared hasInit) member
  have nonempty : (fun entry : Entry => decide (entry.1 ≠ "")) ∘ Prod.map mapping.apply id =
      fun entry => decide (entry.1 ≠ "") := by
    funext entry
    simp only [Function.comp_apply, Prod.map_fst, ne_eq, Renaming.apply_eq_iff mapping.keepsEmpty]
  rw [Frame.entries_ofScope, Frame.entries_ofScope, renamed, List.filter_map, nonempty]

private theorem Tree.mem_namesRead_of_declared {address : Address} {scope : ScopeKind} {node : Tree}
    (found : tree.nodeAt? address = some node)
    (opens : (tree.scopeAt? address).or (if address = [] then some .program else none) = some scope)
    {declaration : Declaration} (isDeclared : declaration ∈ Declaration.ofScope scope node) :
    declaration.name ∈ tree.namesRead := by
  have atAddress : tree.declarationsAt address = Declaration.ofScope scope node := by
    unfold Tree.declarationsAt
    rw [found, opens]
  have isAddress : address ∈ tree.addresses := by
    rw [Tree.mem_addresses_iff, found]
    rfl
  refine List.mem_append_right _ (List.mem_map.mpr ⟨declaration, ?_, rfl⟩)
  exact List.mem_flatMap.mpr ⟨address, isAddress, atAddress ▸ isDeclared⟩

theorem Tree.SeenAlike.lookup?_rename (alike : tree.SeenAlike mapping source other)
    (address : Address) (name : String) :
    (Chain.ofAddress other tree address).lookup? other (mapping.apply name) =
      (Chain.ofAddress source tree address).lookup? source name := by
  have entries : (Chain.ofAddress other tree address).map (Frame.entries other) =
      ((Chain.ofAddress source tree address).map (Frame.entries source)).map
        (List.map (Prod.map mapping.apply id)) := by
    -- Both chains are read off the same addresses, so the frames can be compared one by one.
    unfold Chain.ofAddress
    rw [List.map_filterMap, List.map_filterMap, List.map_filterMap]
    apply List.filterMap_congr
    intro upper _
    unfold Frame.ofAddress?
    cases found : tree.nodeAt? upper with
    | none => rfl
    | some node =>
        rw [Option.bind_some, Option.bind_some]
        cases opens : (tree.scopeAt? upper).or (if upper = [] then some .program else none) with
        | none => rfl
        | some scope =>
            have renamed := alike.entries_ofScope (Tree.mem_nodes_of_nodeAt? found)
              fun _ isDeclared => Tree.mem_namesRead_of_declared found opens isDeclared
            simp only [Option.map_some, renamed]
  rw [Chain.lookup?_eq_search, Chain.lookup?_eq_search, entries, Entry.search_rename]

/-! ### Nodes under a renaming -/

private theorem Expr.eq_of_classify_template {node template : Tree}
    (classified : Expr.classify node = .template template) :
    template = node ∧ node.kind = .templateString := by
  unfold Expr.classify at classified
  split at classified
  case h_1 => cases found : Binary.ofTree? node <;> rw [found] at classified <;> cases classified
  case h_2 isTemplate =>
    cases classified
    exact ⟨rfl, isTemplate⟩
  case h_3 => cases found : Call.ofTree? node <;> rw [found] at classified <;> cases classified
  all_goals cases classified

private theorem Tree.SeenAlike.face_substituted (alike : tree.SeenAlike mapping source other)
    {substitution : Tree} (member : substitution ∈ tree.nodes) :
    ((Template.substituted substitution).face source).unnamed =
      ((Template.substituted substitution).face other).unnamed := by
  unfold Template.substituted
  cases inside : substitution.content? with
  | none => rfl
  | some content =>
      have isChild := List.mem_of_find?_eq_some inside
      exact alike.face_ofTree (Tree.mem_nodes_trans (Tree.mem_nodes_of_mem_children isChild) member)

private theorem Tree.mem_namesRead_of_call {node name : Tree} {call : Call}
    (member : node ∈ tree.nodes)
    (classified : Expr.classify node = .call call) (isRead : name ∈ call.namesRead) :
    name ∈ tree.namesRead := by
  refine List.mem_append_left _ (List.mem_flatMap.mpr ⟨node, member, ?_⟩)
  rw [classified]
  exact isRead

private theorem Tree.SeenAlike.isInspected_eq (alike : tree.SeenAlike mapping source other)
    {call : Call}
    (named : ∀ name ∈ call.namesRead, name ∈ tree.namesRead) :
    Rule.isInspected source call = Rule.isInspected other call := by
  unfold Rule.isInspected Call.calleeName?
  by_cases plain : call.callee.kind = .identifier
  · have isRead : call.callee ∈ call.namesRead := by
      refine List.mem_append_left _ ?_
      rw [if_pos plain]
      exact List.mem_singleton.mpr rfl
    simp only [if_pos plain, alike.names _ (named _ isRead), ne_eq,
      Renaming.apply_eq_iff mapping.keepsRequire]
  · simp only [if_neg plain]

theorem Expr.face_rename {expr : Expr}
    (same : (expr.face source).unnamed = (expr.face other).unnamed)
    (named : ∀ node, expr = .identifier node → node.text other = mapping.apply (node.text source)) :
    expr.face other = (expr.face source).rename mapping.apply := by
  cases expr with
  | stringLiteral node => exact same.symm
  | identifier node => exact congrArg Face.name (named node rfl)
  | _ => rfl

theorem Tree.SeenAlike.query?_eq (alike : tree.SeenAlike mapping source other) {call : Call}
    (named : ∀ name ∈ call.namesRead, name ∈ tree.namesRead)
    {lookup lookup' : String → Option (List Char)}
    (sameStrings : ∀ name, lookup' (mapping.apply name) = lookup name) {argument : Tree}
    (member : argument ∈ tree.nodes) (given : Expr.ofTree argument ∈ call.argumentExprs) :
    (argument.outlook other).query? lookup' = (argument.outlook source).query? lookup := by
  have reads : ∀ node, (Expr.ofTree argument).startName? = some node →
      node.text other = mapping.apply (node.text source) := by
    intro node starts
    exact alike.names _ (named _ (List.mem_append_right _
      (List.mem_filterMap.mpr ⟨Expr.ofTree argument, given, starts⟩)))
  apply Outlook.query?_rename sameStrings
  · change (Expr.ofTree argument).lead? other =
      ((Expr.ofTree argument).lead? source).map (Prod.map id (Face.rename mapping.apply))
    cases isOperation : Expr.ofTree argument with
    | binary operation =>
        have isLeft : operation.left ∈ argument.bare.children := by
          apply Expr.mem_children_of_parts
          rw [← Expr.ofTree, isOperation]
          exact List.mem_cons_self
        have leftMember : operation.left ∈ tree.nodes :=
          Tree.mem_nodes_trans (Tree.mem_nodes_of_mem_children isLeft)
            (Tree.mem_nodes_trans argument.bare_mem_nodes member)
        have start : operation.left.leftmostExpr.face other =
            (operation.left.leftmostExpr.face source).rename mapping.apply := by
          apply Expr.face_rename (alike.face_leftmostExpr leftMember)
          intro node isName
          apply reads node
          rw [isOperation, Expr.startName?, isName]
        simp only [Expr.lead?, start, Option.map_some]
        rfl
    | _ => rfl
  · apply Expr.face_rename (alike.face_ofTree member)
    intro node isName
    apply reads node
    rw [isName, Expr.startName?]

private theorem Tree.SeenAlike.values_related (alike : tree.SeenAlike mapping source other)
    {template : Tree} (member : template ∈ tree.nodes) :
    List.Forall₂ (fun value value' : Face × Range =>
        value.1.unnamed = value'.1.unnamed ∧ value.2 = value'.2)
      ((Template.expressions template).map (Expr.inserted source))
      ((Template.expressions template).map (Expr.inserted other)) := by
  rw [List.forall₂_map_left_iff, List.forall₂_map_right_iff, List.forall₂_same]
  intro expr isInserted
  obtain ⟨substitution, isSubstitution, rfl⟩ := List.mem_map.mp isInserted
  have isChild := (List.mem_filter.mp (List.mem_filter.mp isSubstitution).1).1
  have substitutionMember :=
    Tree.mem_nodes_trans (Tree.mem_nodes_of_mem_children isChild) member
  exact ⟨alike.face_substituted substitutionMember, alike.range_eq _⟩

theorem Tree.SeenAlike.findings_call (alike : tree.SeenAlike mapping source other) {call : Call}
    (named : ∀ name ∈ call.namesRead, name ∈ tree.namesRead)
    {lookup lookup' : String → Option (List Char)}
    (sameStrings : ∀ name, lookup' (mapping.apply name) = lookup name)
    (member : call.arguments ∈ tree.nodes) :
    ((Expr.call call).reading source).findings lookup =
      ((Expr.call call).reading other).findings lookup' := by
  rw [Expr.reading, Expr.reading, alike.isInspected_eq named, alike.range_eq]
  simp only [Reading.findings]
  cases Rule.isInspected other call with
  | false => rfl
  | true =>
      unfold Call.argumentOutlooks
      by_cases tagged : call.isTagged = true
      · rw [if_pos tagged, if_pos tagged]
        rfl
      · rw [if_neg tagged, if_neg tagged, if_pos rfl, if_pos rfl, List.filterMap_map,
          List.filterMap_map]
        apply List.filterMap_congr
        intro argument isContent
        have argumentMember := Tree.mem_nodes_trans
          (Tree.mem_nodes_of_mem_children (List.mem_filter.mp isContent).1) member
        have given : Expr.ofTree argument ∈ call.argumentExprs := by
          rw [Call.argumentExprs, if_neg tagged]
          exact List.mem_map.mpr ⟨argument, isContent, rfl⟩
        rw [Function.comp_apply, Function.comp_apply,
          alike.query?_eq named sameStrings argumentMember given]

theorem Tree.SeenAlike.findings_eq (alike : tree.SeenAlike mapping source other) {node : Tree}
    (member : node ∈ tree.nodes) {lookup lookup' : String → Option (List Char)}
    (sameStrings : ∀ name, lookup' (mapping.apply name) = lookup name) :
    (node.reading source).findings lookup = (node.reading other).findings lookup' := by
  have partMember : ∀ part ∈ (Expr.classify node).parts, part ∈ tree.nodes := by
    intro part isPart
    exact Tree.mem_nodes_trans
      (Tree.mem_nodes_of_mem_children (Expr.mem_children_of_parts isPart)) member
  unfold Tree.reading
  by_cases wrapped : node.kind = .parenthesizedExpression
  · rw [if_pos wrapped, if_pos wrapped]
    rfl
  · rw [if_neg wrapped, if_neg wrapped]
    cases classified : Expr.classify node with
    | binary operation =>
        rw [classified] at partMember
        have leftMember := partMember operation.left List.mem_cons_self
        have rightMember := partMember operation.right
          (List.mem_cons_of_mem _ (List.mem_singleton.mpr rfl))
        rw [Expr.reading, Expr.reading, alike.range_eq]
        exact findings_operation_congr (alike.face_leftmostExpr leftMember)
          (alike.face_ofTree leftMember) (alike.face_ofTree rightMember) (alike.range_eq _)
    | template template =>
        obtain ⟨rfl, isTemplate⟩ := Expr.eq_of_classify_template classified
        rw [Expr.reading, Expr.reading, alike.quasis _ member isTemplate]
        exact findings_template_congr (alike.values_related member) _
    | call application =>
        rw [classified] at partMember
        exact alike.findings_call
          (fun _ isRead => Tree.mem_namesRead_of_call member classified isRead) sameStrings
          (partMember application.arguments (List.mem_singleton.mpr rfl))
    | _ => rfl

end Sources

def Tree.findingsAt (source : String) (tree : Tree) (address : Address) : List Finding :=
  (tree.nodeAt? address).toList.flatMap fun node =>
    (node.reading source).findings ((Chain.ofAddress source tree address).lookup? source)

theorem detect_eq_map_findings (source : String) (tree : Tree) :
    Rule.detect source tree =
      (tree.addresses.flatMap (tree.findingsAt source)).map (Finding.warning source) := by
  rw [Rule.detect_eq_flatMap_emitted, List.map_flatMap, List.filterMap_eq_flatMap_toList,
    List.flatMap_assoc]
  apply List.flatMap_congr
  intro address _
  unfold Visit.ofAddress? Tree.findingsAt
  cases tree.nodeAt? address with
  | none => rfl
  | some node =>
      simp only [Option.map_some, Option.toList_some, List.flatMap_singleton]
      exact emitted_eq_findings source node _

structure Warning.SameFinding (left right : Warning) : Prop where
  origin : left.origin = right.origin
  message : left.message = right.message
  range : left.range = right.range
  column : left.column = right.column

/-- Detection has the same findings, one by one, in sources that look the same up to a renaming. -/
theorem detection_invariant_under_renaming (tree : Tree) (mapping : Renaming)
    (source other path : String) (variant : Variant)
    (alike : tree.SeenAlike mapping source other) :
    List.Forall₂ Warning.SameFinding (detectInjection ⟨tree, source, path, variant⟩).value
      (detectInjection ⟨tree, other, path, variant⟩).value := by
  have sameFindings : tree.addresses.flatMap (tree.findingsAt source) =
      tree.addresses.flatMap (tree.findingsAt other) := by
    apply List.flatMap_congr
    intro address _
    unfold Tree.findingsAt
    apply List.flatMap_congr
    intro node found
    have member := Tree.mem_nodes_of_nodeAt? (Option.mem_toList.mp found)
    exact alike.findings_eq member (alike.lookup?_rename address)
  -- The two lists of warnings come from one list of findings, each with the lines of its own source.
  change List.Forall₂ Warning.SameFinding (Rule.detect source tree) (Rule.detect other tree)
  rw [detect_eq_map_findings, detect_eq_map_findings, sameFindings, List.forall₂_map_left_iff,
    List.forall₂_map_right_iff, List.forall₂_same]
  intro finding _
  exact ⟨rfl, rfl, rfl, rfl⟩

def boundQuery : Tree :=
  .node ⟨.program, 0, 24, none, true, none, false⟩
    [.node ⟨.variableDeclaration, 0, 17, none, true, none, false⟩
      [.node ⟨.variableDeclarator, 4, 16, none, true, none, false⟩
        [.node ⟨.identifier, 4, 5, some .name, true, none, false⟩ [],
          .node ⟨.stringLiteral, 8, 16, some .value, true, none, false⟩
            [.node ⟨.other "string_fragment", 9, 15, none, true, none, false⟩ []]]],
      .node ⟨.other "expression_statement", 18, 24, none, true, none, false⟩
        [.node ⟨.callExpression, 18, 23, none, true, none, false⟩
          [.node ⟨.identifier, 18, 20, some .function, true, none, false⟩ [],
            .node ⟨.other "arguments", 20, 23, some .arguments, true, none, false⟩
              [.node ⟨.identifier, 21, 22, none, true, none, false⟩ []]]]]

def exchange : Renaming where
  apply := Equiv.swap "q" "p"
  injective := (Equiv.swap "q" "p").injective
  keepsRequire := Equiv.swap_apply_of_ne_of_ne (by decide) (by decide)
  keepsEmpty := Equiv.swap_apply_of_ne_of_ne (by decide) (by decide)

/-- The one finding stays when the variable has another name and the query another case. -/
theorem bound_query_renamed :
    (Rule.detect "var q = \"select\"; db(q);" boundQuery).length = 1 ∧
    List.Forall₂ Warning.SameFinding
      (detectInjection ⟨boundQuery, "var q = \"select\"; db(q);", "f.js", .javascript⟩).value
      (detectInjection ⟨boundQuery, "var p = \"SELECT\"; db(p);", "f.js", .javascript⟩).value := by
  refine ⟨by decide +kernel, ?_⟩
  apply detection_invariant_under_renaming boundQuery exchange
  exact {
    breaks := by decide +kernel
    names := by decide +kernel
    strings := by decide +kernel
    quasis := by decide +kernel }

end InjectionLint
