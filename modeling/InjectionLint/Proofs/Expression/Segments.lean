import InjectionLint.Proofs.Rule.Interpolation
import InjectionLint.Proofs.Text.Boundary

/-!
The texts of a template and its substitutions, put together again. There is always one text more than
there are substitutions, and where these stand one after another between the delimiters, texts and
substitutions in turn are what the source has there.

Main statement: `template_made_of_texts_and_substitutions`.
-/

set_option autoImplicit false

namespace InjectionLint

namespace Template

/-- Texts and insertions in turn, a text first. What one of the lists has beyond the other is put at
the end. -/
def weave : List String → List String → String
  | text :: texts, insertion :: insertions => text ++ insertion ++ weave texts insertions
  | texts, insertions => String.join (texts ++ insertions)

structure IsDelimited (source : String) (template : Tree) : Prop where
  opening : Text.slice source template.start (template.start + 1) = "`"
  closing : Text.slice source (template.stop - 1) template.stop = "`"
  apart : template.start + 1 < template.stop

/-- Substitutions that stand one after another from one offset to another, none of which begins or ends
inside a character. -/
structure IsSpaced (source : String) (start stop : Nat) (substitutions : List Tree) : Prop where
  inOrder : substitutions.Pairwise fun earlier later => earlier.stop ≤ later.start
  within : ∀ substitution ∈ substitutions, start ≤ substitution.start ∧
    substitution.start ≤ substitution.stop ∧ substitution.stop ≤ stop
  atBoundaries : ∀ substitution ∈ substitutions,
    Text.IsBoundary source.toList substitution.start ∧ Text.IsBoundary source.toList substitution.stop

/-! ### One text more than substitutions -/

theorem length_quasis (source : String) (template : Tree) :
    (quasis source template).length = (expressions template).length + 1 := by
  rw [quasis_eq_map_quasi, List.length_map, List.length_range, expressions, List.length_map]

end Template

/-- With a text on either side of every value, the search looks at no text beyond these. -/
theorem Rule.firstInterpolated?_append {exprs : List Expr} {quasis : List String}
    (enough : exprs.length < quasis.length) (more : List String) :
    firstInterpolated? exprs (quasis ++ more) = firstInterpolated? exprs quasis := by
  induction exprs generalizing quasis with
  | nil => rfl
  | cons expr rest ih =>
      match quasis with
      | [] => cases enough
      | [_] => simp at enough
      | before :: after :: texts =>
          have enoughAfter : rest.length < (after :: texts).length := by
            simpa using enough
          have goesOn := ih enoughAfter
          simp only [List.cons_append] at goesOn
          simp only [firstInterpolated?, List.cons_append, List.head?_cons, List.getElem?_cons_succ,
            List.getElem?_cons_zero, List.drop_succ_cons, List.drop_zero, goesOn]

namespace Template

/-! ### Putting the parts together -/

variable {source : String} {start stop : Nat}

theorem IsSpaced.tail {first : Tree} {rest : List Tree}
    (spaced : IsSpaced source start stop (first :: rest)) :
    IsSpaced source first.stop stop rest := by
  obtain ⟨afterFirst, restInOrder⟩ := List.pairwise_cons.mp spaced.inOrder
  refine ⟨restInOrder, ?_, ?_⟩
  · intro substitution member
    have placed := spaced.within substitution (List.mem_cons_of_mem first member)
    exact ⟨afterFirst substitution member, placed.2⟩
  · intro substitution member
    exact spaced.atBoundaries substitution (List.mem_cons_of_mem first member)

private theorem weave_quasisFrom {substitutions : List Tree}
    (spaced : IsSpaced source start stop substitutions) (inOrder : start ≤ stop)
    (atStart : Text.IsBoundary source.toList start) (atStop : Text.IsBoundary source.toList stop) :
    weave (quasisFrom source stop start substitutions) (substitutions.map (Tree.text source)) =
      Text.slice source start stop := by
  induction substitutions generalizing start with
  | nil => simp [weave, quasisFrom]
  | cons first rest ih =>
      obtain ⟨afterStart, forwards, beforeStop⟩ := spaced.within first List.mem_cons_self
      obtain ⟨atFirst, pastFirst⟩ := spaced.atBoundaries first List.mem_cons_self
      have restWoven := ih spaced.tail beforeStop pastFirst
      rw [List.map_cons, quasisFrom, weave, restWoven, Tree.text,
        Text.slice_append_slice atStart atFirst pastFirst afterStart forwards,
        Text.slice_append_slice atStart pastFirst atStop (Nat.le_trans afterStart forwards) beforeStop]

private theorem weave_quasis {template : Tree} (delimited : IsDelimited source template)
    (spaced : IsSpaced source (template.start + 1) (template.stop - 1) (substitutions template)) :
    Text.slice source template.start (template.start + 1) ++
        weave (quasis source template) ((substitutions template).map (Tree.text source)) ++
        Text.slice source (template.stop - 1) template.stop =
      Text.slice source template.start template.stop := by
  obtain ⟨atStart, pastOpening⟩ := Text.isBoundary_of_slice_ne_empty
    (delimited.opening.trans_ne (by decide))
  obtain ⟨atClosing, atStop⟩ := Text.isBoundary_of_slice_ne_empty
    (delimited.closing.trans_ne (by decide))
  have apart := delimited.apart
  rw [quasis, weave_quasisFrom spaced (by omega) pastOpening atClosing,
    Text.slice_append_slice atStart pastOpening atClosing (by omega) (by omega),
    Text.slice_append_slice atStart atClosing atStop (by omega) (by omega)]

end Template

/-- A template has one text more than it has values, so that the search for an exposed value takes none
of the texts for missing. Where the substitutions stand one after another between the delimiters, the
delimiters with the texts and the substitutions in turn between them are the source of the template. -/
theorem template_made_of_texts_and_substitutions (source : String) (template : Tree) :
    (Template.quasis source template).length = (Template.expressions template).length + 1 ∧
    (∀ more, Rule.firstInterpolated? (Template.expressions template)
        (Template.quasis source template ++ more) =
      Rule.firstInterpolated? (Template.expressions template) (Template.quasis source template)) ∧
    (Template.IsDelimited source template →
      Template.IsSpaced source (template.start + 1) (template.stop - 1)
        (Template.substitutions template) →
      Text.slice source template.start (template.start + 1) ++
          Template.weave (Template.quasis source template)
            ((Template.substitutions template).map (Tree.text source)) ++
          Text.slice source (template.stop - 1) template.stop =
        template.text source) := by
  have length := Template.length_quasis source template
  refine ⟨length, ?_, Template.weave_quasis⟩
  intro more
  exact Rule.firstInterpolated?_append (by omega) more

def adjoiningSource : String :=
  "x = `é$\x7ba\x7d$\x7bb\x7d中`;"

def adjoiningTemplate : Tree :=
  .node ⟨.templateString, 4, 19, some .right, true, none, false⟩
    [.node ⟨.other "string_fragment", 5, 7, none, true, none, false⟩ [],
      insertAt 7 11 (.node ⟨.identifier, 9, 10, none, true, none, false⟩ []),
      insertAt 11 15 (.node ⟨.identifier, 13, 14, none, true, none, false⟩ []),
      .node ⟨.other "string_fragment", 15, 18, none, true, none, false⟩ []]

/-- The two substitutions have nothing between them, and the texts around them are of characters that
take several bytes. -/
theorem adjoining_substitutions_put_together :
    Template.quasis adjoiningSource adjoiningTemplate = ["é", "", "中"] ∧
    Template.IsDelimited adjoiningSource adjoiningTemplate ∧
    Template.IsSpaced adjoiningSource 5 18 (Template.substitutions adjoiningTemplate) ∧
    "`" ++ Template.weave ["é", "", "中"]
        ((Template.substitutions adjoiningTemplate).map (Tree.text adjoiningSource)) ++ "`" =
      adjoiningTemplate.text adjoiningSource := by
  have texts : Template.quasis adjoiningSource adjoiningTemplate = ["é", "", "中"] := by
    decide +kernel
  have delimited : Template.IsDelimited adjoiningSource adjoiningTemplate :=
    ⟨by decide +kernel, by decide +kernel, by decide⟩
  have spaced : Template.IsSpaced adjoiningSource 5 18 (Template.substitutions adjoiningTemplate) :=
    ⟨by decide +kernel, by decide +kernel, by decide +kernel⟩
  have together := (template_made_of_texts_and_substitutions adjoiningSource adjoiningTemplate).2.2
    delimited spaced
  rw [delimited.opening, delimited.closing, texts] at together
  exact ⟨texts, delimited, spaced, together⟩

end InjectionLint
