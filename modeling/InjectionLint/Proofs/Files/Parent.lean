import InjectionLint.Files.Path
import InjectionLint.Proofs.Text.Cut

/-!
The parent of a path, told by components alone. Idle pieces at the end of a path and before its last
component belong neither to the component nor to the parent, so the parent is a beginning of the path as
it is written, and the shortest that will do.

Main statement: `parent?_eq_some_iff`.
-/

set_option autoImplicit false

namespace InjectionLint.Path

/-- The components among the pieces of a path. Idle pieces are none, but a dot counts if it comes first. -/
def named : List String → List String
  | [] => []
  | first :: rest => (if first = "" then [] else [first]) ++ rest.filter fun piece => !isIdle piece

/-- A beginning of a path that has all its components but the last. -/
structure IsFront (front path : String) : Prop where
  begins : front.toList <+: path.toList
  sameStart : isAbsolute front = isAbsolute path
  components : ∃ name, named (pieces path) = named (pieces front) ++ [name]

/-- The shortest of these beginnings. -/
def IsParent (parent path : String) : Prop :=
  IsFront parent path ∧ ∀ front, IsFront front path → parent.length ≤ front.length

/-! ### Pieces put together -/

private theorem not_slash_mem_piece {path piece : String} (isPiece : piece ∈ pieces path) :
    '/' ∉ piece.toList := by
  obtain ⟨part, isPart, rfl⟩ := List.mem_map.mp isPiece
  rw [String.toList_ofList]
  intro member
  exact (Text.mem_of_mem_splitAt isPart member).2 rfl

theorem intercalate_pieces (path : String) : "/".intercalate (pieces path) = path := by
  apply String.toList_injective
  rw [String.toList_intercalate, pieces, Text.splitAt_eq_splitOn, List.map_map]
  have same : String.toList ∘ String.ofList = id := funext fun _ => String.toList_ofList
  rw [same, List.map_id]
  exact List.intercalate_splitOn '/'

theorem pieces_intercalate {parts : List String} (filled : parts ≠ [])
    (plain : ∀ part ∈ parts, '/' ∉ part.toList) : pieces ("/".intercalate parts) = parts := by
  have split : Text.splitAt '/' ("/".intercalate parts).toList = parts.map String.toList := by
    rw [Text.splitAt_eq_splitOn, String.toList_intercalate]
    apply List.splitOn_intercalate
    · simpa using plain
    · simpa using filled
  rw [pieces, split, List.map_map]
  have same : String.ofList ∘ String.toList = id := funext fun _ => String.ofList_toList
  rw [same, List.map_id]

private theorem exists_pieces_eq_cons (path : String) :
    ∃ first rest, pieces path = first :: rest := by
  have filled := Text.length_splitAt '/' path.toList
  unfold pieces
  cases parts : Text.splitAt '/' path.toList with
  | nil =>
      rw [parts] at filled
      cases filled
  | cons first rest => exact ⟨_, _, rfl⟩

private theorem begins_intercalate {left : List String} (filled : left ≠ []) (more : List String) :
    ("/".intercalate left).toList <+: ("/".intercalate (left ++ more)).toList := by
  by_cases nothing : more = []
  · simp only [nothing, List.append_nil, List.prefix_rfl]
  · rw [String.intercalate_append_of_ne_nil filled nothing, String.toList_append,
      String.toList_append, List.append_assoc]
    exact List.prefix_append _ _

private theorem isAbsolute_iff {path first : String} {rest : List String}
    (parts : pieces path = first :: rest) :
    isAbsolute path = true ↔ first = "" ∧ rest ≠ [] := by
  have plain : '/' ∉ first.toList := not_slash_mem_piece (parts ▸ List.mem_cons_self)
  rw [← intercalate_pieces path, parts, isAbsolute, decide_eq_true_eq]
  cases rest with
  | nil =>
      rw [String.intercalate_singleton]
      simp only [ne_eq, not_true_eq_false, and_false, iff_false]
      intro head
      exact plain (List.mem_of_mem_head? head)
  | cons next others =>
      rw [String.intercalate_cons_cons, String.toList_append, String.toList_append]
      cases chars : first.toList with
      | nil => simp [String.toList_eq_nil_iff.mp chars]
      | cons c more =>
          rw [chars] at plain
          have different : c ≠ '/' := fun same => plain (same ▸ List.mem_cons_self)
          have nonempty : first ≠ "" := by
            rintro rfl
            cases chars
          simp [different, nonempty]

/-! ### Components of beginnings -/

private theorem named_concat (before : List String) (last : String) :
    named (before ++ [last]) =
      named before ++ if last = "" ∨ last = "." ∧ before ≠ [] then [] else [last] := by
  cases before with
  | nil => simp [named]
  | cons first rest =>
      by_cases idle : isIdle last = true
      · have silent : last = "" ∨ last = "." := by simpa [isIdle] using idle
        simp [named, idle, silent]
      · have loud : ¬(last = "" ∨ last = ".") := by simpa [isIdle] using idle
        simp [named, idle, loud]

/-- Characters in the components of a text. It cannot get less as a text goes on. -/
private def extent (text : List Char) : Nat :=
  ((named ((Text.splitAt '/' text).map String.ofList)).flatMap String.toList).length

private theorem splitAt_concat (mark c : Char) (text : List Char) :
    ∃ before last, Text.splitAt mark text = before ++ [last] ∧
      Text.splitAt mark (text ++ [c]) =
        if c = mark then before ++ [last] ++ [[]] else before ++ [last ++ [c]] := by
  induction text with
  | nil =>
      refine ⟨[], [], rfl, ?_⟩
      rw [List.nil_append, Text.splitAt]
      rfl
  | cons d rest ih =>
      obtain ⟨before, last, whole, longer⟩ := ih
      by_cases ends : d = mark
      · refine ⟨[] :: before, last, ?_, ?_⟩
        · rw [Text.splitAt, if_pos ends, whole, List.cons_append]
        · rw [List.cons_append, Text.splitAt, if_pos ends, longer]
          split <;> rfl
      · rw [List.cons_append, Text.splitAt, if_neg ends, whole, Text.splitAt, if_neg ends, longer]
        cases before with
        | nil =>
            refine ⟨[], d :: last, rfl, ?_⟩
            by_cases isMark : c = mark <;> simp [isMark]
        | cons first others =>
            refine ⟨(d :: first) :: others, last, rfl, ?_⟩
            by_cases isMark : c = mark <;> simp [isMark]

private def EndsNamed (parts : List String) : Prop :=
  ∃ before last, parts = before ++ [last] ∧ named parts = named before ++ [last]

private theorem endsNamed_concat_iff {before : List String} {last : String} :
    EndsNamed (before ++ [last]) ↔ ¬(last = "" ∨ last = "." ∧ before ≠ []) := by
  constructor
  · rintro ⟨other, final, ends, counts⟩ silent
    obtain ⟨rfl, same⟩ := List.append_inj' ends rfl
    rw [named_concat, if_pos silent] at counts
    exact absurd (congrArg List.length counts) (by simp)
  · intro loud
    exact ⟨before, last, rfl, by rw [named_concat, if_neg loud]⟩

private theorem extent_concat (text : List Char) (c : Char) :
    extent text ≤ extent (text ++ [c]) ∧
      (EndsNamed ((Text.splitAt '/' (text ++ [c])).map String.ofList) →
        extent text < extent (text ++ [c])) := by
  obtain ⟨before, last, whole, longer⟩ := splitAt_concat '/' c text
  unfold extent
  rw [whole, longer]
  by_cases slash : c = '/'
  · -- A slash begins a new piece, which is empty and counts for nothing.
    have parts : (before ++ [last] ++ [[]]).map String.ofList =
        (before ++ [last]).map String.ofList ++ [""] := by
      rw [List.map_append]
      rfl
    rw [if_pos slash, parts, endsNamed_concat_iff, named_concat]
    simp
  · rw [if_neg slash, List.map_append, List.map_append, List.map_singleton, List.map_singleton,
      endsNamed_concat_iff, named_concat, named_concat]
    -- A further character can only make a component of an idle piece, or a component longer.
    by_cases silent : String.ofList last = "" ∨
        String.ofList last = "." ∧ before.map String.ofList ≠ []
    · rw [if_pos silent, List.append_nil]
      refine ⟨?_, fun loud => ?_⟩
      · rw [List.flatMap_append, List.length_append]
        exact Nat.le_add_right _ _
      · rw [if_neg loud, List.flatMap_append, List.length_append]
        simp
    · have loud : ¬(String.ofList (last ++ [c]) = "" ∨
          String.ofList (last ++ [c]) = "." ∧ before.map String.ofList ≠ []) := by
        rintro (empty | ⟨dot, _⟩)
        · simp at empty
        · have chars : last ++ [c] = ['.'] := by
            simpa using congrArg String.toList dot
          cases last with
          | nil => exact silent (Or.inl rfl)
          | cons d rest => simp at chars
      rw [if_neg silent, if_neg loud]
      simp

private theorem extent_le_append (text more : List Char) : extent text ≤ extent (text ++ more) := by
  induction more generalizing text with
  | nil => rw [List.append_nil]
  | cons c rest ih =>
      have further := ih (text ++ [c])
      rw [List.append_assoc, List.singleton_append] at further
      exact Nat.le_trans (extent_concat text c).1 further

/-- No shorter beginning of a text that ends in a component has the same components. -/
private theorem eq_of_begins {front whole : String} (begins : front.toList <+: whole.toList)
    (ends : EndsNamed (pieces whole)) (same : named (pieces front) = named (pieces whole)) :
    front = whole := by
  have sameExtent : extent front.toList = extent whole.toList := by
    rw [extent, extent, ← pieces, ← pieces, same]
  apply String.toList_injective
  rcases List.eq_nil_or_concat whole.toList with empty | ⟨text, c, shape⟩
  · rw [empty] at begins ⊢
    exact List.prefix_nil.mp begins
  · rw [List.concat_eq_append] at shape
    rw [pieces, shape] at ends
    rw [shape] at begins sameExtent ⊢
    rcases List.prefix_concat_iff.mp begins with isWhole | ⟨more, isText⟩
    · exact isWhole
    · have grows := (extent_concat text c).2 ends
      have within := extent_le_append front.toList more
      rw [isText] at within
      omega

/-! ### The parent as it is computed -/

private theorem named_append_idle {first : String} {rest idle : List String}
    (allIdle : ∀ piece ∈ idle, isIdle piece = true) :
    named (first :: (rest ++ idle)) = named (first :: rest) := by
  have nothing : idle.filter (fun piece => !isIdle piece) = [] := by
    simpa using allIdle
  rw [named, named, List.filter_append, nothing, List.append_nil]

private theorem named_rdropWhile (first : String) (rest : List String) :
    named (first :: rest.rdropWhile isIdle) = named (first :: rest) := by
  have allIdle : ∀ piece ∈ rest.rtakeWhile isIdle, isIdle piece = true :=
    fun _ => List.mem_rtakeWhile_imp
  rw [← named_append_idle allIdle, List.rdropWhile_append_rtakeWhile]

private theorem not_isIdle_of_rdropWhile {rest init : List String} {name : String}
    (ends : rest.rdropWhile isIdle = init ++ [name]) : ¬isIdle name = true := by
  have last := List.rdropWhile_last_not isIdle rest (by simp [ends])
  simpa [ends] using last

private theorem endsNamed_rdropWhile {first : String} {rest : List String}
    (kept : ¬(first = "" ∧ rest.rdropWhile isIdle = [])) :
    EndsNamed (first :: rest.rdropWhile isIdle) := by
  rcases List.eq_nil_or_concat (rest.rdropWhile isIdle) with none | ⟨init, name, ends⟩
  · rw [none, ← List.nil_append [first], endsNamed_concat_iff]
    simpa [none] using kept
  · rw [List.concat_eq_append] at ends
    have notIdle := not_isIdle_of_rdropWhile ends
    rw [ends, ← List.cons_append, endsNamed_concat_iff]
    simpa [isIdle] using notIdle

section Computed

variable {path first : String} {rest : List String} (parts : pieces path = first :: rest)
include parts

private theorem parent?_of_single (single : rest.rdropWhile isIdle = []) :
    parent? path = if first = "" then none else some "" := by
  have kept : dropIdleEnd (pieces path) = [first] := by
    rw [parts]
    exact congrArg (first :: ·) single
  unfold parent?
  rw [kept]
  by_cases empty : first = ""
  · subst empty
    rfl
  · simp only [empty]
    rfl

private theorem parent?_of_several {init : List String} {name : String}
    (several : rest.rdropWhile isIdle = init ++ [name]) :
    parent? path =
      if first = "" ∧ init.rdropWhile isIdle = [] then some "/"
      else some ("/".intercalate (first :: init.rdropWhile isIdle)) := by
  have kept : dropIdleEnd (pieces path) = first :: (init ++ [name]) := by
    rw [parts]
    exact congrArg (first :: ·) several
  have left : dropIdleEnd (first :: (init ++ [name])).dropLast = first :: init.rdropWhile isIdle := by
    rw [← List.cons_append, List.dropLast_concat]
    rfl
  unfold parent?
  rw [kept]
  split
  · simp_all
  · simp_all
  · simp_all
  · rw [left]
    split
    · simp_all
    · rename_i other
      rw [if_neg]
      rintro ⟨rfl, none⟩
      exact other (congrArg _ none)

private theorem isParent_empty (single : rest.rdropWhile isIdle = []) (filled : first ≠ "") :
    IsParent "" path := by
  have relative : isAbsolute path = false := by
    rw [← Bool.not_eq_true, isAbsolute_iff parts]
    exact fun absolute => filled absolute.1
  refine ⟨⟨List.nil_prefix, relative.symm, first, ?_⟩, fun front _ => Nat.zero_le _⟩
  rw [parts, ← named_rdropWhile, single, named, if_neg filled]
  rfl

private theorem named_of_several {init : List String} {name : String}
    (several : rest.rdropWhile isIdle = init ++ [name]) :
    named (pieces path) = named (first :: init.rdropWhile isIdle) ++ [name] := by
  have notIdle := not_isIdle_of_rdropWhile several
  rw [parts, ← named_rdropWhile, several, named_rdropWhile, ← List.cons_append, named_concat, if_neg]
  simpa [isIdle] using notIdle

private theorem isParent_slash {init : List String} {name : String}
    (several : rest.rdropWhile isIdle = init ++ [name])
    (top : first = "" ∧ init.rdropWhile isIdle = []) : IsParent "/" path := by
  have filled : rest ≠ [] := by
    rintro rfl
    simp at several
  have absolute : isAbsolute path = true := (isAbsolute_iff parts).mpr ⟨top.1, filled⟩
  have begins : ∀ text : String, isAbsolute text = true → ['/'] <+: text.toList := by
    intro text slash
    obtain ⟨more, shape⟩ := List.head?_eq_some_iff.mp (of_decide_eq_true slash)
    exact ⟨more, shape.symm⟩
  refine ⟨⟨begins path absolute, absolute.symm, name, ?_⟩, ?_⟩
  · rw [named_of_several parts several, top.1, top.2]
    rfl
  · intro front isFront
    have slash := (begins front (isFront.sameStart.trans absolute)).length_le
    rwa [String.length_toList] at slash

private theorem isParent_intercalate {init : List String} {name : String}
    (several : rest.rdropWhile isIdle = init ++ [name])
    (below : ¬(first = "" ∧ init.rdropWhile isIdle = [])) :
    IsParent ("/".intercalate (first :: init.rdropWhile isIdle)) path := by
  obtain ⟨more, whole⟩ : (first :: init.rdropWhile isIdle) <+: pieces path := by
    rw [parts, List.prefix_cons_inj]
    have within : init ++ [name] <+: rest := several ▸ List.rdropWhile_prefix isIdle rest
    exact (List.rdropWhile_prefix isIdle init).trans ((List.prefix_append _ _).trans within)
  have ownParts : pieces ("/".intercalate (first :: init.rdropWhile isIdle)) =
      first :: init.rdropWhile isIdle := by
    apply pieces_intercalate (List.cons_ne_nil _ _)
    intro part member
    exact not_slash_mem_piece (whole ▸ List.mem_append_left more member)
  have begins : ("/".intercalate (first :: init.rdropWhile isIdle)).toList <+: path.toList := by
    have starts := begins_intercalate (List.cons_ne_nil first (init.rdropWhile isIdle)) more
    rwa [whole, intercalate_pieces] at starts
  have components := named_of_several parts several
  refine ⟨⟨begins, ?_, name, by rw [components, ownParts]⟩, ?_⟩
  · rw [Bool.eq_iff_iff, isAbsolute_iff parts, isAbsolute_iff ownParts]
    have filled : rest ≠ [] := by
      rintro rfl
      simp at several
    tauto
  · intro front isFront
    obtain ⟨other, sameComponents⟩ := isFront.components
    by_contra shorter
    have within : front.toList <+: ("/".intercalate (first :: init.rdropWhile isIdle)).toList := by
      apply List.prefix_of_prefix_length_le isFront.begins begins
      rw [String.length_toList, String.length_toList]
      omega
    have same : named (pieces front) =
        named (pieces ("/".intercalate (first :: init.rdropWhile isIdle))) := by
      rw [components] at sameComponents
      rw [ownParts]
      exact (List.append_inj' sameComponents rfl).1.symm
    have ends := endsNamed_rdropWhile below
    rw [← ownParts] at ends
    rw [eq_of_begins within ends same] at shorter
    exact shorter (Nat.le_refl _)

end Computed

theorem isParent_of_parent? {path parent : String} (found : parent? path = some parent) :
    IsParent parent path := by
  obtain ⟨first, rest, parts⟩ := exists_pieces_eq_cons path
  rcases List.eq_nil_or_concat (rest.rdropWhile isIdle) with single | ⟨init, name, several⟩
  · rw [parent?_of_single parts single] at found
    split at found
    · cases found
    · rename_i filled
      cases found
      exact isParent_empty parts single filled
  · rw [List.concat_eq_append] at several
    rw [parent?_of_several parts several] at found
    split at found
    · rename_i top
      cases found
      exact isParent_slash parts several top
    · rename_i below
      cases found
      exact isParent_intercalate parts several below

theorem parent?_eq_none_iff {path : String} :
    parent? path = none ↔ ∀ front, ¬IsFront front path := by
  constructor
  · intro nothing front isFront
    obtain ⟨first, rest, parts⟩ := exists_pieces_eq_cons path
    obtain ⟨name, components⟩ := isFront.components
    rcases List.eq_nil_or_concat (rest.rdropWhile isIdle) with single | ⟨init, last, several⟩
    · rw [parent?_of_single parts single] at nothing
      split at nothing
      · rename_i empty
        rw [parts, ← named_rdropWhile, single, empty] at components
        exact absurd (congrArg List.length components) (by simp [named])
      · cases nothing
    · rw [List.concat_eq_append] at several
      rw [parent?_of_several parts several] at nothing
      split at nothing <;> cases nothing
  · intro noFront
    cases found : parent? path with
    | none => rfl
    | some parent => exact absurd (isParent_of_parent? found).1 (noFront parent)

/-- The parent of a path is the shortest beginning that has all its components but the last. -/
theorem parent?_eq_some_iff {path parent : String} :
    parent? path = some parent ↔ IsParent parent path := by
  refine ⟨isParent_of_parent?, ?_⟩
  rintro ⟨isFront, shortest⟩
  cases found : parent? path with
  | none => exact absurd isFront (parent?_eq_none_iff.mp found parent)
  | some other =>
      obtain ⟨otherFront, otherShortest⟩ := isParent_of_parent? found
      have sameLength : other.toList.length = parent.toList.length := by
        rw [String.length_toList, String.length_toList]
        exact Nat.le_antisymm (otherShortest parent isFront) (shortest other otherFront)
      have within := List.prefix_of_prefix_length_le otherFront.begins isFront.begins sameLength.le
      rw [String.toList_injective (within.eq_of_length sameLength)]

end InjectionLint.Path
