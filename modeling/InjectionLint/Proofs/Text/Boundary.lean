import InjectionLint.Proofs.Text.Cut

/-!
Boundaries between the characters of a text. An offset within a text is either a boundary or strictly
inside a character, and a part can be cut out exactly between two boundaries.

Main statements: `slice?_eq_some_iff`, `boundary_or_inside`, and that parts which meet at a boundary make
up one part (`slice_append_slice`).
-/

set_option autoImplicit false

namespace InjectionLint.Text

def IsBoundary (text : List Char) (offset : Nat) : Prop :=
  ∃ front back, text = front ++ back ∧ byteLength front = offset

/-- An offset strictly inside a character of a text, which then takes more than one byte. -/
def IsInside (text : List Char) (offset : Nat) : Prop :=
  ∃ front c back, text = front ++ c :: back ∧
    byteLength front < offset ∧ offset < byteLength front + c.utf8Size

variable {text front back : List Char} {start stop offset : Nat}

/-! ### Parts with equal lengths -/

theorem eq_nil_of_byteLength_eq_zero (empty : byteLength text = 0) : text = [] := by
  cases text with
  | nil => rfl
  | cons c rest =>
      have positive : 0 < c.utf8Size := Char.utf8Size_pos c
      rw [byteLength] at empty
      omega

theorem exists_between_cuts {shorter longer rest : List Char}
    (same : shorter ++ rest = longer ++ back) (notLater : byteLength shorter ≤ byteLength longer) :
    ∃ between, longer = shorter ++ between ∧ rest = between ++ back := by
  rcases List.append_eq_append_iff.mp same with ⟨between, isLonger, isRest⟩ | ⟨surplus, isShorter, isBack⟩
  · exact ⟨between, isLonger, isRest⟩
  · have noSurplus : surplus = [] := by
      rw [isShorter, byteLength_append] at notLater
      exact eq_nil_of_byteLength_eq_zero (by omega)
    subst noSurplus
    exact ⟨[], by simpa using isShorter.symm, by simpa using isBack.symm⟩

theorem cut_unique {other rest : List Char} (same : front ++ rest = other ++ back)
    (sameLength : byteLength front = byteLength other) : front = other ∧ rest = back := by
  obtain ⟨between, isOther, isRest⟩ := exists_between_cuts same (Nat.le_of_eq sameLength)
  have nothing : between = [] := by
    have length := congrArg byteLength isOther
    rw [byteLength_append] at length
    exact eq_nil_of_byteLength_eq_zero (by omega)
  subst nothing
  exact ⟨by simpa using isOther.symm, by simpa using isRest⟩

/-! ### What the cutting functions return -/

theorem dropBytes_eq_some_iff :
    dropBytes offset text = some back ↔
      ∃ front, text = front ++ back ∧ byteLength front = offset := by
  constructor
  · intro dropped
    fun_induction dropBytes offset text with
    | case1 text => exact ⟨[], Option.some.inj dropped, rfl⟩
    | case2 count => cases dropped
    | case3 count c rest fits ih =>
        obtain ⟨front, parts, length⟩ := ih dropped
        refine ⟨c :: front, by rw [parts, List.cons_append], ?_⟩
        rw [byteLength, length]
        omega
    | case4 count c rest tooLong => cases dropped
  · rintro ⟨front, rfl, rfl⟩
    exact dropBytes_byteLength front back

theorem takeBytes_eq_some_iff :
    takeBytes offset text = some front ↔
      ∃ back, text = front ++ back ∧ byteLength front = offset := by
  constructor
  · intro taken
    fun_induction takeBytes offset text generalizing front with
    | case1 text =>
        obtain rfl := Option.some.inj taken
        exact ⟨text, rfl, rfl⟩
    | case2 count => cases taken
    | case3 count c rest fits ih =>
        obtain ⟨shorter, ofRest, rfl⟩ := Option.map_eq_some_iff.mp taken
        obtain ⟨back, parts, length⟩ := ih ofRest
        refine ⟨back, by rw [parts, List.cons_append], ?_⟩
        rw [byteLength, length]
        omega
    | case4 count c rest tooLong => cases taken
  · rintro ⟨back, rfl, rfl⟩
    exact takeBytes_byteLength front back

theorem slice?_eq_some_iff {middle : List Char} :
    slice? text start stop = some middle ↔
      ∃ front back, text = front ++ (middle ++ back) ∧ byteLength front = start ∧
        byteLength front + byteLength middle = stop := by
  constructor
  · intro cut
    rw [slice?] at cut
    split at cut
    · rename_i inOrder
      obtain ⟨rest, dropped, taken⟩ := Option.bind_eq_some_iff.mp cut
      obtain ⟨front, parts, length⟩ := dropBytes_eq_some_iff.mp dropped
      obtain ⟨back, restParts, middleLength⟩ := takeBytes_eq_some_iff.mp taken
      refine ⟨front, back, by rw [parts, restParts], length, ?_⟩
      omega
    · cases cut
  · rintro ⟨front, back, rfl, rfl, rfl⟩
    exact slice?_middle front middle back

/-! ### Boundaries -/

private theorem isBoundary_iff_dropBytes :
    IsBoundary text offset ↔ (dropBytes offset text).isSome = true := by
  rw [Option.isSome_iff_exists]
  constructor
  · rintro ⟨front, back, parts⟩
    exact ⟨back, dropBytes_eq_some_iff.mpr ⟨front, parts⟩⟩
  · rintro ⟨back, dropped⟩
    obtain ⟨front, parts⟩ := dropBytes_eq_some_iff.mp dropped
    exact ⟨front, back, parts⟩

instance (text : List Char) (offset : Nat) : Decidable (IsBoundary text offset) :=
  decidable_of_iff _ isBoundary_iff_dropBytes.symm

theorem isBoundary_byteLength (text : List Char) : IsBoundary text (byteLength text) :=
  ⟨text, [], (List.append_nil text).symm, rfl⟩

theorem exists_slice? (atStart : IsBoundary text start) (atStop : IsBoundary text stop)
    (inOrder : start ≤ stop) : ∃ middle, slice? text start stop = some middle := by
  obtain ⟨front, rest, parts, rfl⟩ := atStart
  obtain ⟨longer, back, otherParts, rfl⟩ := atStop
  obtain ⟨middle, isLonger, isRest⟩ := exists_between_cuts (parts.symm.trans otherParts) inOrder
  refine ⟨middle, slice?_eq_some_iff.mpr ⟨front, back, by rw [parts, isRest], rfl, ?_⟩⟩
  rw [isLonger, byteLength_append]

theorem isBoundary_of_slice? {middle : List Char} (cut : slice? text start stop = some middle) :
    IsBoundary text start ∧ IsBoundary text stop := by
  obtain ⟨front, back, parts, frontLength, middleLength⟩ := slice?_eq_some_iff.mp cut
  refine ⟨⟨front, middle ++ back, parts, frontLength⟩, front ++ middle, back, ?_, ?_⟩
  · rw [parts, List.append_assoc]
  · rw [byteLength_append, middleLength]

theorem IsInside.not_isBoundary (inside : IsInside text offset) : ¬IsBoundary text offset := by
  rintro ⟨longer, rest, otherParts, rfl⟩
  obtain ⟨front, c, back, parts, above, below⟩ := inside
  obtain ⟨between, isLonger, isRest⟩ :=
    exists_between_cuts (parts.symm.trans otherParts) (Nat.le_of_lt above)
  rw [isLonger, byteLength_append] at above below
  cases between with
  | nil =>
      rw [byteLength] at above
      omega
  | cons d between =>
      -- What stands between the two cuts begins with the character, all of which comes before the later.
      obtain ⟨rfl, _⟩ := List.cons.inj isRest
      rw [byteLength] at below
      omega

theorem IsInside.lt_byteLength (inside : IsInside text offset) : offset < byteLength text := by
  obtain ⟨front, c, back, rfl, _, below⟩ := inside
  rw [byteLength_append, byteLength]
  omega

theorem boundary_or_inside (within : offset ≤ byteLength text) :
    IsBoundary text offset ∨ IsInside text offset := by
  induction text generalizing offset with
  | nil => exact .inl ⟨[], [], rfl, (Nat.le_zero.mp within).symm⟩
  | cons c rest ih =>
      rw [byteLength] at within
      by_cases first : offset = 0
      · exact .inl ⟨[], c :: rest, rfl, first.symm⟩
      · by_cases inFirst : offset < c.utf8Size
        · exact .inr ⟨[], c, rest, rfl, Nat.pos_of_ne_zero first, by rw [byteLength]; omega⟩
        · rcases ih (by omega : offset - c.utf8Size ≤ byteLength rest) with
            ⟨front, back, parts, length⟩ | ⟨front, d, back, parts, above, below⟩
          · refine .inl ⟨c :: front, back, by rw [parts, List.cons_append], ?_⟩
            rw [byteLength, length]
            omega
          · refine .inr ⟨c :: front, d, back, by rw [parts, List.cons_append], ?_⟩
            rw [byteLength]
            omega

/-! ### Parts of a source -/

theorem isBoundary_of_slice_ne_empty {source : String} (found : slice source start stop ≠ "") :
    IsBoundary source.toList start ∧ IsBoundary source.toList stop := by
  cases cut : slice? source.toList start stop with
  | none =>
      rw [slice, cut] at found
      exact absurd rfl found
  | some middle => exact isBoundary_of_slice? cut

theorem slice_append_slice {source : String} {middle : Nat}
    (atStart : IsBoundary source.toList start) (atMiddle : IsBoundary source.toList middle)
    (atStop : IsBoundary source.toList stop) (before : start ≤ middle) (after : middle ≤ stop) :
    slice source start middle ++ slice source middle stop = slice source start stop := by
  obtain ⟨first, cutFirst⟩ := exists_slice? atStart atMiddle before
  obtain ⟨second, cutSecond⟩ := exists_slice? atMiddle atStop after
  have cutBoth : slice? source.toList start stop = some (first ++ second) := by
    obtain ⟨front, rest, parts, frontLength, firstLength⟩ := slice?_eq_some_iff.mp cutFirst
    obtain ⟨longer, back, otherParts, longerLength, secondLength⟩ := slice?_eq_some_iff.mp cutSecond
    -- Both cuts go through the middle, so what follows the first part begins with the second.
    have sameText : (front ++ first) ++ rest = longer ++ (second ++ back) := by
      rw [List.append_assoc, ← parts, otherParts]
    have sameLength : byteLength (front ++ first) = byteLength longer := by
      rw [byteLength_append]
      omega
    obtain ⟨_, isRest⟩ := cut_unique sameText sameLength
    refine slice?_eq_some_iff.mpr ⟨front, back, ?_, frontLength, ?_⟩
    · rw [parts, isRest, List.append_assoc]
    · rw [byteLength_append]
      omega
  simp only [slice, cutFirst, cutSecond, cutBoth, Option.getD_some, String.ofList_append]

end InjectionLint.Text
