import InjectionLint.Source.Position

/-!
Places and line breaks. Of a source a place takes nothing but where its lines end, so that sources with
line breaks at the same offsets have the same places. The line of an offset counts the line breaks before
it, and two offsets are on one line if no line break stands between them.
-/

set_option autoImplicit false

namespace InjectionLint

def lineBreaksFrom (offset : Nat) : List Char → List Nat
  | [] => []
  | c :: rest =>
    if c = '\n' then offset :: lineBreaksFrom (offset + c.utf8Size) rest
    else lineBreaksFrom (offset + c.utf8Size) rest

def lineBreaks (source : String) : List Nat :=
  lineBreaksFrom 0 source.toList

namespace Position

/-- The place of an offset, given the place of an earlier one and the line breaks from there on. -/
def throughBreaks (place : Position) (offset target : Nat) : List Nat → Position
  | [] => ⟨place.line, place.column + (target - offset)⟩
  | next :: rest =>
    if next < target then throughBreaks ⟨place.line + 1, 0⟩ (next + 1) target rest
    else ⟨place.line, place.column + (target - offset)⟩

theorem le_of_mem_lineBreaksFrom {offset next : Nat} {text : List Char}
    (member : next ∈ lineBreaksFrom offset text) : offset ≤ next := by
  induction text generalizing offset with
  | nil => cases member
  | cons c rest ih =>
      rw [lineBreaksFrom] at member
      split at member
      · rcases List.mem_cons.mp member with same | later
        · omega
        · have := ih later
          omega
      · have := ih member
        omega

theorem throughBreaks_of_le {offset target : Nat} {breaks : List Nat}
    (later : ∀ next ∈ breaks, target ≤ next) (place : Position) :
    throughBreaks place offset target breaks = ⟨place.line, place.column + (target - offset)⟩ := by
  cases breaks with
  | nil => rfl
  | cons next rest =>
      have after := later next List.mem_cons_self
      rw [throughBreaks, if_neg (by omega)]

private theorem throughBreaks_shift {line column offset width target : Nat} {breaks : List Nat}
    (within : offset + width ≤ target) :
    throughBreaks ⟨line, column + width⟩ (offset + width) target breaks =
      throughBreaks ⟨line, column⟩ offset target breaks := by
  have sameColumn : column + width + (target - (offset + width)) = column + (target - offset) := by
    omega
  cases breaks with
  | nil => simp only [throughBreaks, sameColumn]
  | cons next rest => simp only [throughBreaks, sameColumn]

theorem advance_eq_throughBreaks (place : Position) (offset count : Nat) (text : List Char) :
    advance place count text =
      throughBreaks place offset (offset + count) (lineBreaksFrom offset text) := by
  induction text generalizing place offset count with
  | nil =>
      cases count with
      | zero => simp [advance, lineBreaksFrom, throughBreaks]
      | succ count => simp [advance, lineBreaksFrom, throughBreaks]
  | cons c rest ih =>
      have positive : 0 < c.utf8Size := Char.utf8Size_pos c
      cases count with
      | zero =>
          rw [throughBreaks_of_le]
          · simp [advance]
          · intro next member
            exact le_of_mem_lineBreaksFrom member
      | succ count =>
          rw [advance]
          by_cases inside : count + 1 < c.utf8Size
          · -- An offset inside a character is on the character's line, and a line feed has no inside.
            have sameLine : c ≠ '\n' := by
              rintro rfl
              have single : '\n'.utf8Size = 1 := rfl
              omega
            rw [if_pos inside, lineBreaksFrom, if_neg sameLine, throughBreaks_of_le]
            · rw [Nat.add_sub_cancel_left]
            · intro next member
              have := le_of_mem_lineBreaksFrom member
              omega
          · rw [if_neg inside, lineBreaksFrom]
            have remaining : offset + c.utf8Size + (count + 1 - c.utf8Size) = offset + (count + 1) := by
              omega
            by_cases ends : c = '\n'
            · subst ends
              rw [if_pos rfl, if_pos rfl, throughBreaks, if_pos (by omega), ih, remaining]
              rfl
            · rw [if_neg ends, if_neg ends, ih _ (offset + c.utf8Size), remaining,
                throughBreaks_shift (by omega)]

theorem ofOffset_congr {source other : String} (sameBreaks : lineBreaks source = lineBreaks other)
    (offset : Nat) : ofOffset source offset = ofOffset other offset := by
  unfold ofOffset
  rw [advance_eq_throughBreaks _ 0, advance_eq_throughBreaks _ 0]
  exact congrArg (throughBreaks ⟨1, 0⟩ 0 (0 + offset)) sameBreaks

private theorem lineBreaksFrom_pairwise_lt (offset : Nat) (text : List Char) :
    (lineBreaksFrom offset text).Pairwise (· < ·) := by
  induction text generalizing offset with
  | nil => exact List.Pairwise.nil
  | cons c rest ih =>
      have positive : 0 < c.utf8Size := Char.utf8Size_pos c
      rw [lineBreaksFrom]
      split
      · refine List.pairwise_cons.mpr ⟨?_, ih _⟩
        intro next member
        have := le_of_mem_lineBreaksFrom member
        omega
      · exact ih _

theorem line_throughBreaks {breaks : List Nat} (sorted : breaks.Pairwise (· < ·))
    (place : Position) (offset target : Nat) :
    (throughBreaks place offset target breaks).line =
      place.line + breaks.countP (· < target) := by
  induction breaks generalizing place offset with
  | nil => rfl
  | cons next rest ih =>
      obtain ⟨later, sortedRest⟩ := List.pairwise_cons.mp sorted
      rw [throughBreaks, List.countP_cons]
      by_cases before : next < target
      · rw [if_pos before, ih sortedRest, if_pos (decide_eq_true before)]
        change place.line + 1 + _ = _
        omega
      · have noneBefore : rest.countP (· < target) = 0 := by
          rw [List.countP_eq_zero]
          intro other member isBefore
          have := later other member
          have := of_decide_eq_true isBefore
          omega
        simp only [if_neg before, noneBefore, decide_eq_true_eq, Nat.add_zero]

private theorem line_ofOffset (source : String) (offset : Nat) :
    (ofOffset source offset).line = 1 + (lineBreaks source).countP (· < offset) := by
  rw [ofOffset, advance_eq_throughBreaks _ 0, Nat.zero_add,
    line_throughBreaks (lineBreaksFrom_pairwise_lt 0 source.toList)]
  rfl

theorem countP_lt_eq_iff {earlier later : Nat} (ordered : earlier ≤ later) (breaks : List Nat) :
    breaks.countP (· < earlier) = breaks.countP (· < later) ↔
      ∀ next ∈ breaks, next < later → next < earlier := by
  induction breaks with
  | nil => simp
  | cons next rest ih =>
      have fewer : rest.countP (· < earlier) ≤ rest.countP (· < later) := by
        apply List.countP_mono_left
        intro other _ isBefore
        have := of_decide_eq_true isBefore
        exact decide_eq_true (by omega)
      rw [List.countP_cons, List.countP_cons, List.forall_mem_cons, ← ih]
      simp only [decide_eq_true_eq]
      split <;> split <;> omega

/-- Two offsets are on one line if the same line breaks stand before them. -/
theorem line_ofOffset_eq_iff (source : String) (left right : Nat) :
    (ofOffset source left).line = (ofOffset source right).line ↔
      ∀ next ∈ lineBreaks source, next < left ↔ next < right := by
  rw [line_ofOffset, line_ofOffset, Nat.add_left_cancel_iff]
  rcases Nat.le_total left right with ordered | ordered
  · rw [countP_lt_eq_iff ordered]
    refine forall₂_congr fun next _ => ⟨fun back => ⟨fun _ => by omega, back⟩, Iff.mpr⟩
  · rw [eq_comm, countP_lt_eq_iff ordered]
    refine forall₂_congr fun next _ => ⟨fun back => ⟨back, fun _ => by omega⟩, Iff.mp⟩

end Position

end InjectionLint
