import InjectionLint.Parse
import InjectionLint.Proofs.Tree.Address

/-!
The verdict on a source. A parser marks a node as damaged if the node or one below it is faulty; where
that holds, the search that looks only below marks finds what a search of every node would find. So a
source is accepted exactly if the tree to go by has no fault at any depth, and otherwise the error is on
the first fault of the tree that the dialect's own grammar made.
-/

set_option autoImplicit false

namespace InjectionLint

namespace Tree

mutual

def nodes : Tree → List Tree
  | .node label children => .node label children :: forestNodes children

def forestNodes : List Tree → List Tree
  | [] => []
  | tree :: rest => nodes tree ++ forestNodes rest

end

def IsSound (tree : Tree) : Prop :=
  ∀ node ∈ tree.nodes, node.label.fault = none

/-- A node is marked as damaged exactly if it or a node below it has a fault. -/
def MarksFaults (tree : Tree) : Prop :=
  ∀ node ∈ tree.nodes,
    node.label.damaged = true ↔ ∃ below ∈ node.nodes, below.label.fault ≠ none

instance (tree : Tree) : Decidable tree.IsSound :=
  inferInstanceAs (Decidable (∀ node ∈ tree.nodes, node.label.fault = none))

instance (tree : Tree) : Decidable tree.MarksFaults :=
  inferInstanceAs (Decidable (∀ node ∈ tree.nodes,
    node.label.damaged = true ↔ ∃ below ∈ node.nodes, below.label.fault ≠ none))

/-- A faulty node that no other comes before in a search of every node. -/
def IsFirstFault (tree node : Tree) (fault : Fault) : Prop :=
  ∃ earlier later, tree.nodes = earlier ++ node :: later ∧
    (∀ other ∈ earlier, other.label.fault = none) ∧ node.label.fault = some fault

def damage? (tree : Tree) : Option Damage :=
  tree.label.fault.map (⟨·, tree.kind, tree.start⟩)

/-! ### All nodes of a tree -/

private theorem forestNodes_eq_flatMap (children : List Tree) :
    forestNodes children = children.flatMap nodes := by
  induction children with
  | nil => rfl
  | cons head tail ih => rw [forestNodes, ih, List.flatMap_cons]

theorem nodes_eq_cons (tree : Tree) : tree.nodes = tree :: tree.children.flatMap nodes := by
  cases tree with
  | node label children =>
      rw [nodes, forestNodes_eq_flatMap]
      rfl

theorem self_mem_nodes (tree : Tree) : tree ∈ tree.nodes := by
  rw [nodes_eq_cons]
  exact List.mem_cons_self

theorem mem_nodes_of_child {tree child node : Tree} (isChild : child ∈ tree.children)
    (below : node ∈ child.nodes) : node ∈ tree.nodes := by
  rw [nodes_eq_cons]
  exact List.mem_cons_of_mem tree (List.mem_flatMap.mpr ⟨child, isChild, below⟩)

theorem MarksFaults.child {tree child : Tree} (marks : tree.MarksFaults)
    (isChild : child ∈ tree.children) : child.MarksFaults := by
  intro node below
  exact marks node (mem_nodes_of_child isChild below)

theorem MarksFaults.damaged_eq_false_iff {tree : Tree} (marks : tree.MarksFaults) :
    tree.label.damaged = false ↔ tree.IsSound := by
  have atRoot := marks tree tree.self_mem_nodes
  rw [← Bool.not_eq_true, atRoot]
  constructor
  · intro none node member
    by_contra faulty
    exact none ⟨node, member, faulty⟩
  · rintro sound ⟨node, member, faulty⟩
    exact faulty (sound node member)

/-! ### The search for a fault -/

private theorem findSome?_damage?_eq_none_iff (tree : Tree) :
    tree.nodes.findSome? damage? = none ↔ tree.IsSound := by
  simp only [List.findSome?_eq_none_iff, damage?, Option.map_eq_none_iff, IsSound]

private theorem firstDamage?_eq (tree : Tree) :
    tree.firstDamage? =
      if tree.label.damaged then tree.damage?.or (forestDamage? tree.children) else none := by
  cases tree with
  | node label children =>
      rw [firstDamage?]
      simp only [damage?, Tree.label, Tree.children]
      cases label.fault <;> rfl

private theorem forestDamage?_eq_findSome? {children : List Tree}
    (ofChild : ∀ child ∈ children, child.firstDamage? = child.nodes.findSome? damage?) :
    forestDamage? children = (children.flatMap nodes).findSome? damage? := by
  induction children with
  | nil => rfl
  | cons head tail ih =>
      obtain ⟨ofHead, ofTail⟩ := List.forall_mem_cons.mp ofChild
      rw [forestDamage?, ofHead, ih ofTail, List.flatMap_cons, List.findSome?_append]

/-- Below marks that can be trusted, the pruned search finds what a search of all nodes finds. -/
theorem MarksFaults.firstDamage?_eq_findSome? {tree : Tree} (marks : tree.MarksFaults) :
    tree.firstDamage? = tree.nodes.findSome? damage? := by
  induction tree with
  | step tree ih =>
      rw [firstDamage?_eq]
      cases damaged : tree.label.damaged with
      | false =>
          -- The search goes no further; by the mark it misses nothing.
          have sound := marks.damaged_eq_false_iff.mp damaged
          rw [(findSome?_damage?_eq_none_iff tree).mpr sound]
          rfl
      | true =>
          have ofChild : ∀ child ∈ tree.children,
              child.firstDamage? = child.nodes.findSome? damage? := by
            intro child isChild
            exact ih child isChild (marks.child isChild)
          rw [if_pos rfl, forestDamage?_eq_findSome? ofChild, nodes_eq_cons, List.findSome?_cons]
          cases tree.damage? <;> rfl

theorem MarksFaults.firstDamage?_eq_none {tree : Tree} (marks : tree.MarksFaults)
    (sound : tree.IsSound) : tree.firstDamage? = none := by
  rw [marks.firstDamage?_eq_findSome?, findSome?_damage?_eq_none_iff]
  exact sound

theorem MarksFaults.firstDamage?_eq_some {tree : Tree} (marks : tree.MarksFaults)
    (unsound : ¬tree.IsSound) :
    ∃ node fault, tree.IsFirstFault node fault ∧
      tree.firstDamage? = some ⟨fault, node.kind, node.start⟩ := by
  rw [← findSome?_damage?_eq_none_iff] at unsound
  obtain ⟨damage, found⟩ := Option.ne_none_iff_exists'.mp unsound
  obtain ⟨earlier, node, later, split, atNode, before⟩ := List.findSome?_eq_some_iff.mp found
  obtain ⟨fault, faulty, rfl⟩ := Option.map_eq_some_iff.mp atNode
  refine ⟨node, fault, ⟨earlier, later, split, ?_, faulty⟩, ?_⟩
  · intro other member
    exact Option.map_eq_none_iff.mp (before other member)
  · rw [marks.firstDamage?_eq_findSome?, found]

end Tree

/-! ### The tree to go by -/

section Choice

variable {parser : Parser} {source : String} {variant : Variant} {grammar : Grammar}

private theorem typedFallback?_eq_some_iff :
    variant.typedFallback? = some grammar ↔
      (variant = .javascript ∨ variant = .jsx) ∧ grammar = .tsx := by
  cases variant <;> cases grammar <;> decide

private theorem parseSource_of_sound (path : String)
    (marks : (parser variant.grammar source).MarksFaults)
    (sound : (parser variant.grammar source).IsSound) :
    (parseSource parser source path variant).value =
      .ok ⟨parser variant.grammar source, source, path, variant⟩ := by
  have undamaged := marks.damaged_eq_false_iff.mpr sound
  have chosen : (chooseTree parser source path variant).value = parser variant.grammar source := by
    unfold chooseTree
    simp only [undamaged, Bool.false_and, Bool.false_eq_true, if_false]
    cases variant.typedFallback? <;> rfl
  simp only [parseSource, Logged.andThen, Logged.silent, chosen, marks.firstDamage?_eq_none sound]

theorem parseSource_of_typed (path : String)
    (marks : (parser variant.grammar source).MarksFaults)
    (unsound : ¬(parser variant.grammar source).IsSound)
    (fallback : variant.typedFallback? = some grammar)
    (typedMarks : (parser grammar source).MarksFaults) (typed : (parser grammar source).IsSound) :
    (parseSource parser source path variant).value =
      .ok ⟨parser grammar source, source, path, variant⟩ := by
  have damaged : (parser variant.grammar source).label.damaged = true := by
    rw [← Bool.not_eq_false, marks.damaged_eq_false_iff]
    exact unsound
  have undamaged := typedMarks.damaged_eq_false_iff.mpr typed
  have chosen : (chooseTree parser source path variant).value = parser grammar source := by
    simp only [chooseTree, fallback, damaged, undamaged, Bool.not_false, Bool.and_true, if_true]
    rfl
  simp only [parseSource, Logged.andThen, Logged.silent, chosen,
    typedMarks.firstDamage?_eq_none typed]

theorem parseSource_of_unsound (path : String)
    (marks : (parser variant.grammar source).MarksFaults)
    (unsound : ¬(parser variant.grammar source).IsSound)
    (fallbackMarks : ∀ grammar, variant.typedFallback? = some grammar →
      (parser grammar source).MarksFaults)
    (untyped : ∀ grammar, variant.typedFallback? = some grammar →
      ¬(parser grammar source).IsSound) :
    ∃ node fault, (parser variant.grammar source).IsFirstFault node fault ∧
      (parseSource parser source path variant).value =
        .error (.parse path (.ofOffset source node.start)
          (match fault with
            | .missing => "missing `" ++ node.kind.name ++ "`"
            | .unexpected => "unexpected syntax while parsing " ++ variant.name)) := by
  have chosen : (chooseTree parser source path variant).value = parser variant.grammar source := by
    unfold chooseTree
    cases fallback : variant.typedFallback? with
    | none => rfl
    | some grammar =>
        have damaged : (parser grammar source).label.damaged = true := by
          rw [← Bool.not_eq_false, (fallbackMarks grammar fallback).damaged_eq_false_iff]
          exact untyped grammar fallback
        simp only [damaged, Bool.not_true, Bool.and_false, Bool.false_eq_true, if_false]
        rfl
  obtain ⟨node, fault, first, found⟩ := marks.firstDamage?_eq_some unsound
  refine ⟨node, fault, first, ?_⟩
  simp only [parseSource, Logged.andThen, Logged.silent, chosen, found, Damage.describe]
  cases fault <;> rfl

end Choice

/-- A source is accepted exactly if the tree of its dialect has no fault, or it is plain JavaScript and
the typed tree has none; the tree that comes with it has no fault at any depth. Otherwise the error is
at the start of the first fault of the dialect's own tree. -/
theorem parseSource_verdict (parser : Parser) (source path : String) (variant : Variant)
    (marks : (parser variant.grammar source).MarksFaults)
    (fallbackMarks : ∀ grammar, variant.typedFallback? = some grammar →
      (parser grammar source).MarksFaults) :
    let primary := parser variant.grammar source
    let result := (parseSource parser source path variant).value
    ((∃ parsed, result = .ok parsed) ↔
      primary.IsSound ∨
        (variant = .javascript ∨ variant = .jsx) ∧ (parser .tsx source).IsSound) ∧
    (∀ parsed, result = .ok parsed →
      parsed.tree.IsSound ∧
      (parsed.tree = primary ∨ ¬primary.IsSound ∧ parsed.tree = parser .tsx source) ∧
      parsed.source = source ∧ parsed.path = path ∧ parsed.variant = variant) ∧
    ∀ cause, result = .error cause →
      ∃ node fault, primary.IsFirstFault node fault ∧
        cause = .parse path (.ofOffset source node.start)
          (match fault with
            | .missing => "missing `" ++ node.kind.name ++ "`"
            | .unexpected => "unexpected syntax while parsing " ++ variant.name) := by
  intro primary result
  by_cases sound : primary.IsSound
  · have accepted : result = .ok ⟨primary, source, path, variant⟩ :=
      parseSource_of_sound path marks sound
    rw [accepted]
    refine ⟨iff_of_true ⟨_, rfl⟩ (Or.inl sound), ?_, ?_⟩
    · rintro _ ⟨⟩
      exact ⟨sound, Or.inl rfl, rfl, rfl, rfl⟩
    · rintro _ ⟨⟩
  · by_cases typed : (variant = .javascript ∨ variant = .jsx) ∧ (parser .tsx source).IsSound
    · have fallback : variant.typedFallback? = some .tsx :=
        typedFallback?_eq_some_iff.mpr ⟨typed.1, rfl⟩
      have accepted : result = .ok ⟨parser .tsx source, source, path, variant⟩ :=
        parseSource_of_typed path marks sound fallback (fallbackMarks .tsx fallback) typed.2
      rw [accepted]
      refine ⟨iff_of_true ⟨_, rfl⟩ (Or.inr typed), ?_, ?_⟩
      · rintro _ ⟨⟩
        exact ⟨typed.2, Or.inr ⟨sound, rfl⟩, rfl, rfl, rfl⟩
      · rintro _ ⟨⟩
    · have untyped : ∀ grammar, variant.typedFallback? = some grammar →
          ¬(parser grammar source).IsSound := by
        intro grammar fallback typedSound
        obtain ⟨plain, rfl⟩ := typedFallback?_eq_some_iff.mp fallback
        exact typed ⟨plain, typedSound⟩
      obtain ⟨node, fault, first, refused⟩ :=
        parseSource_of_unsound path marks sound fallbackMarks untyped
      change result = _ at refused
      rw [refused]
      refine ⟨iff_of_false ?_ ?_, ?_, ?_⟩
      · rintro ⟨_, ⟨⟩⟩
      · exact not_or.mpr ⟨sound, typed⟩
      · rintro _ ⟨⟩
      · rintro _ ⟨⟩
        exact ⟨node, fault, first, rfl⟩

def unclosedCall : Tree :=
  .node ⟨.program, 0, 2, none, true, none, true⟩
    [.node ⟨.callExpression, 0, 2, none, true, none, true⟩
      [.node ⟨.identifier, 0, 1, some .function, true, none, false⟩ [],
        .node ⟨.other "arguments", 1, 2, some .arguments, true, none, true⟩
          [.node ⟨.other ")", 2, 2, none, false, some .missing, true⟩ []]]]

theorem parseSource_refuses_unclosedCall :
    unclosedCall.MarksFaults ∧ ¬unclosedCall.IsSound ∧
    ∃ node fault, unclosedCall.IsFirstFault node fault ∧
      (parseSource (fun _ _ => unclosedCall) "f(" "a.js" .javascript).value =
        .error (.parse "a.js" (.ofOffset "f(" node.start)
          (match fault with
            | .missing => "missing `" ++ node.kind.name ++ "`"
            | .unexpected => "unexpected syntax while parsing javascript")) := by
  have marks : unclosedCall.MarksFaults := by decide
  have unsound : ¬unclosedCall.IsSound := by decide
  obtain ⟨accepts, _, refuses⟩ := parseSource_verdict (fun _ _ => unclosedCall) "f(" "a.js"
    .javascript marks (fun _ _ => marks)
  refine ⟨marks, unsound, ?_⟩
  cases result : (parseSource (fun _ _ => unclosedCall) "f(" "a.js" .javascript).value with
  | ok parsed =>
      rcases accepts.mp ⟨parsed, result⟩ with sound | ⟨_, sound⟩
      · exact absurd sound unsound
      · exact absurd sound unsound
  | error cause =>
      obtain ⟨node, fault, first, rfl⟩ := refuses cause result
      exact ⟨node, fault, first, rfl⟩

end InjectionLint
