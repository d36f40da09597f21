import InjectionLint.Proofs.Rule.Alike
import InjectionLint.Proofs.Tree.Context

/-!
Replacing a node of a tree by one that its surroundings cannot tell from it. On every level above the
place the nodes are alike again, so that the rules find the same before the place and after it.
-/

set_option autoImplicit false

namespace InjectionLint

section Replacement

variable {source : String} {old new : Tree}

theorem siblings_alike {parent : Kind} (alike : Tree.AlikeUnder source parent old new)
    (before after : List Tree) :
    List.Forall₂ (Tree.AlikeUnder source parent) (before ++ old :: after)
      (before ++ new :: after) := by
  have unchanged : ∀ siblings : List Tree,
      List.Forall₂ (Tree.AlikeUnder source parent) siblings siblings := fun _ =>
    List.forall₂_same.mpr fun tree _ => Tree.AlikeUnder.refl source parent tree
  exact List.rel_append (unchanged before) (.cons alike (unchanged after))

theorem alikeUnder_fill {context : Context} {above : Kind}
    (alike : Tree.AlikeUnder source (context.parentKind above) old new) :
    Tree.AlikeUnder source above (context.fill old) (context.fill new) := by
  induction context generalizing above with
  | nil => exact alike
  | cons around rest ih =>
      exact alikeUnder_node (siblings_alike (ih alike) around.before around.after) above

def Context.Alike (source : String) (context : Context) (old new : Tree) : Prop :=
  ∀ parent ∈ context.parentKind?, Tree.AlikeUnder source parent old new

namespace Context.Alike

variable {around : Surrounding} {rest : Context}

theorem below (alike : Context.Alike source (around :: rest) old new) :
    Context.Alike source rest old new := by
  cases rest with
  | nil => exact nofun
  | cons next deeper => exact alike

theorem related (alike : Context.Alike source (around :: rest) old new) :
    List.Forall₂ (Tree.AlikeUnder source around.label.kind)
      (around.before ++ Context.fill rest old :: around.after)
      (around.before ++ Context.fill rest new :: around.after) :=
  siblings_alike (alikeUnder_fill (alike _ rfl)) around.before around.after

end Context.Alike

theorem enter_fill {context : Context} (inside : context ≠ [])
    (alike : context.Alike source old new) {chain other : Chain}
    (sameEntries : chain.map (Frame.entries source) = other.map (Frame.entries source))
    (parent : Kind) :
    (Visit.enter source chain parent (context.fill old)).map (Frame.entries source) =
      (Visit.enter source other parent (context.fill new)).map (Frame.entries source) := by
  cases context with
  | nil => exact absurd rfl inside
  | cons around rest => exact enter_alike alike.related sameEntries parent

theorem rootFrame_fill {context : Context} (inside : context ≠ [])
    (alike : context.Alike source old new) :
    (Visit.rootFrame source ⟨none, context.fill old⟩).entries source =
      (Visit.rootFrame source ⟨none, context.fill new⟩).entries source := by
  cases context with
  | nil => exact absurd rfl inside
  | cons around rest => exact rootFrame_alike alike.related

def Rule.detectBelow (source : String) (chain : Chain) (parent : Kind) (child : Tree) :
    List Warning :=
  if child.isNamed then Rule.detectFrom source (Visit.enter source chain parent child) child else []

theorem Rule.detectFrom_node (source : String) (chain : Chain) (label : Label)
    (children : List Tree) :
    Rule.detectFrom source chain (.node label children) =
      Rule.emitted source ⟨.node label children, chain⟩ ++
        children.flatMap (Rule.detectBelow source chain label.kind) := by
  have below : (children.filter Tree.isNamed).flatMap (fun child =>
        Rule.detectFrom source (Visit.enter source chain label.kind child) child) =
      children.flatMap (Rule.detectBelow source chain label.kind) := by
    induction children with
    | nil => rfl
    | cons head tail ih =>
        rw [Tree.flatMap_named_cons, List.flatMap_cons, ih]
        rfl
  rw [Rule.detectFrom_eq, ← below]
  rfl

theorem detectFrom_gap {label : Label} (alike : Tree.AlikeUnder source label.kind old new)
    {chain other : Chain}
    (sameEntries : chain.map (Frame.entries source) = other.map (Frame.entries source))
    (siblings later : List Tree) :
    ∃ before after : List Warning,
      Rule.detectFrom source chain (.node label (siblings ++ old :: later)) =
          before ++ Rule.detectBelow source chain label.kind old ++ after ∧
        Rule.detectFrom source other (.node label (siblings ++ new :: later)) =
          before ++ Rule.detectBelow source other label.kind new ++ after := by
  have related := siblings_alike alike siblings later
  -- Siblings see the new chain only through the strings that it has for names.
  have beside : ∀ others : List Tree, others.flatMap (Rule.detectBelow source chain label.kind) =
      others.flatMap (Rule.detectBelow source other label.kind) := by
    intro others
    apply List.flatMap_congr
    intro sibling _
    unfold Rule.detectBelow
    rw [Rule.detectFrom_congr_chain]
    simp only [Visit.enter_eq_append, List.map_append, sameEntries]
  refine ⟨Rule.emitted source ⟨.node label (siblings ++ old :: later), chain⟩ ++
      siblings.flatMap (Rule.detectBelow source chain label.kind),
    later.flatMap (Rule.detectBelow source chain label.kind), ?_, ?_⟩
  · rw [Rule.detectFrom_node, List.flatMap_append, List.flatMap_cons]
    simp only [List.append_assoc]
  · rw [Rule.detectFrom_node, List.flatMap_append, List.flatMap_cons, beside siblings, beside later,
      Rule.emitted_congr (reading_alike related) sameEntries]
    simp only [List.append_assoc]

/-- If the rules find the same from the nodes at the place on, they find the same in the whole. -/
theorem detectFrom_fill_congr {context : Context} (alike : context.Alike source old new)
    (entered : ∀ (parent : Kind) {chain other : Chain},
      chain.map (Frame.entries source) = other.map (Frame.entries source) →
        (Visit.enter source chain parent old).map (Frame.entries source) =
          (Visit.enter source other parent new).map (Frame.entries source))
    (found : ∀ {chain other : Chain},
      chain.map (Frame.entries source) = other.map (Frame.entries source) →
        Rule.detectFrom source chain old = Rule.detectFrom source other new)
    {chain other : Chain}
    (sameEntries : chain.map (Frame.entries source) = other.map (Frame.entries source)) :
    Rule.detectFrom source chain (context.fill old) =
      Rule.detectFrom source other (context.fill new) := by
  induction context generalizing chain other with
  | nil => exact found sameEntries
  | cons around rest ih =>
      have alikeBelow : Tree.AlikeUnder source around.label.kind (Context.fill rest old)
          (Context.fill rest new) := alikeUnder_fill (alike _ rfl)
      have enteredBelow :
          (Visit.enter source chain around.label.kind (Context.fill rest old)).map
            (Frame.entries source) =
          (Visit.enter source other around.label.kind (Context.fill rest new)).map
            (Frame.entries source) := by
        -- At the place itself the nodes need not have children alike.
        cases rest with
        | nil => exact entered around.label.kind sameEntries
        | cons next deeper =>
            exact enter_fill (List.cons_ne_nil next deeper) alike.below sameEntries
              around.label.kind
      obtain ⟨before, after, ofOld, ofNew⟩ :=
        detectFrom_gap alikeBelow sameEntries around.before around.after
      rw [Context.fill, Context.fill, ofOld, ofNew]
      unfold Rule.detectBelow
      rw [ih alike.below enteredBelow, alikeBelow.named]

end Replacement

end InjectionLint
