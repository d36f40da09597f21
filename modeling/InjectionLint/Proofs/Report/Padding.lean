import InjectionLint.Proofs.Text.Boundary
import InjectionLint.Report.Warning

/-!
How far to the right a caret can be. A warning may have any column and any line, also one that the column
is not on. The caret is set off by the width of a text from the shown line, or by a number of bytes if the
column is inside a character.

Main statement: nothing goes wrong on the way to the padding, bytes count only inside a character, and the
padding is bounded by the line alone (`padding_bounded_by_line`).
-/

set_option autoImplicit false

namespace InjectionLint.Warning

def difference? (whole part : Nat) : Option Nat :=
  if part ≤ whole then some (whole - part) else none

inductive Distance where
  | width (shown : List Char)
  | bytes (count : Nat)

def Distance.columns : Distance → Nat
  | .width shown => Text.displayWidth shown
  | .bytes count => count

/-- The distance of the caret with every step checked. There is none if a difference is negative or the
part of the line to be cut out ends before it begins. -/
def distance? (warning : Warning) : Option Distance := do
  let line := warning.line.toList
  let leading ← difference? (Text.byteLength line) (Text.byteLength (Text.trimStart line))
  let column := max warning.column leading
  let stop := min column (Text.byteLength line)
  if leading ≤ stop then
    match Text.slice? line leading stop with
    | some shown => some (.width shown)
    | none => (difference? column leading).map .bytes
  else none

def indentation (warning : Warning) : Nat :=
  Text.byteLength (warning.line.toList.takeWhile Text.isBlank)

variable (warning : Warning)

private theorem difference?_add (part rest : Nat) : difference? (part + rest) part = some rest := by
  rw [difference?, if_pos (Nat.le_add_right part rest), Nat.add_sub_cancel_left]

/-! ### The indentation -/

private theorem byteLength_line :
    Text.byteLength warning.line.toList =
      Text.byteLength (Text.trimStart warning.line.toList) + warning.indentation := by
  conv_lhs => rw [← Text.takeWhile_append_trimStart warning.line.toList]
  rw [Text.byteLength_append, indentation, Nat.add_comm]

private theorem isBoundary_indentation : Text.IsBoundary warning.line.toList warning.indentation :=
  ⟨_, _, (Text.takeWhile_append_trimStart warning.line.toList).symm, rfl⟩

private theorem prefix_of_slice? {shown : List Char} {stop : Nat}
    (cut : Text.slice? warning.line.toList warning.indentation stop = some shown) :
    shown <+: Text.trimStart warning.line.toList := by
  obtain ⟨front, back, parts, frontLength, _⟩ := Text.slice?_eq_some_iff.mp cut
  have sameText : warning.line.toList.takeWhile Text.isBlank ++ Text.trimStart warning.line.toList =
      front ++ (shown ++ back) := by
    rw [Text.takeWhile_append_trimStart, ← parts]
  obtain ⟨_, isShown⟩ := Text.cut_unique sameText frontLength.symm
  exact ⟨back, isShown.symm⟩

/-! ### The place in the line -/

def reach (warning : Warning) : Nat :=
  min (max warning.column warning.indentation) (Text.byteLength warning.line.toList)

private theorem reach_eq :
    min (max warning.column warning.indentation) (Text.byteLength warning.line.toList) =
      warning.reach :=
  rfl

private theorem indentation_le_reach : warning.indentation ≤ warning.reach := by
  have length := warning.byteLength_line
  unfold reach
  omega

def distance (warning : Warning) : Distance :=
  match Text.slice? warning.line.toList warning.indentation warning.reach with
  | some shown => .width shown
  | none => .bytes (max warning.column warning.indentation - warning.indentation)

theorem distance?_eq : warning.distance? = some warning.distance := by
  have leading : difference? (Text.byteLength warning.line.toList)
      (Text.byteLength (Text.trimStart warning.line.toList)) = some warning.indentation := by
    rw [byteLength_line, difference?_add]
  have rest : difference? (max warning.column warning.indentation) warning.indentation =
      some (max warning.column warning.indentation - warning.indentation) :=
    if_pos (Nat.le_max_right _ _)
  simp only [distance?, leading, Option.bind_eq_bind, Option.bind_some, reach_eq, rest, distance,
    if_pos warning.indentation_le_reach]
  cases Text.slice? warning.line.toList warning.indentation warning.reach <;> rfl

theorem markerPadding_eq :
    warning.markerPadding = markerOffset + warning.distance.columns := by
  have leading : Text.byteLength warning.line.toList -
      Text.byteLength (Text.trimStart warning.line.toList) = warning.indentation := by
    rw [byteLength_line, Nat.add_sub_cancel_left]
  simp only [markerPadding, leading, reach_eq, distance]
  cases Text.slice? warning.line.toList warning.indentation warning.reach <;> rfl

theorem slice?_reach_eq_none_iff :
    Text.slice? warning.line.toList warning.indentation warning.reach = none ↔
      warning.indentation < warning.column ∧ Text.IsInside warning.line.toList warning.column := by
  have inOrder := warning.indentation_le_reach
  constructor
  · intro noCut
    have noBoundary : ¬Text.IsBoundary warning.line.toList warning.reach := by
      intro atReach
      obtain ⟨shown, cut⟩ := Text.exists_slice? warning.isBoundary_indentation atReach inOrder
      rw [noCut] at cut
      cases cut
    -- The end of the line and of the indentation are boundaries, so what is left is the column itself.
    have notEnd : warning.reach ≠ Text.byteLength warning.line.toList := by
      intro atEnd
      exact noBoundary (atEnd ▸ Text.isBoundary_byteLength _)
    have notIndentation : warning.reach ≠ warning.indentation := by
      intro atIndentation
      exact noBoundary (atIndentation ▸ warning.isBoundary_indentation)
    have atColumn : warning.reach = warning.column := by
      unfold reach at notEnd notIndentation ⊢
      omega
    have past : warning.indentation < warning.column := by
      omega
    have within : warning.reach ≤ Text.byteLength warning.line.toList := Nat.min_le_right _ _
    refine ⟨past, ?_⟩
    rw [← atColumn]
    exact (Text.boundary_or_inside within).resolve_left noBoundary
  · rintro ⟨past, inside⟩
    have atColumn : warning.reach = warning.column := by
      have within := inside.lt_byteLength
      unfold reach
      omega
    cases cut : Text.slice? warning.line.toList warning.indentation warning.reach with
    | none => rfl
    | some shown =>
        have atBoundary := (Text.isBoundary_of_slice? cut).2
        rw [atColumn] at atBoundary
        exact absurd atBoundary inside.not_isBoundary

theorem prefix_of_distance_width {shown : List Char} (isWidth : warning.distance = .width shown) :
    shown <+: Text.trimStart warning.line.toList := by
  rw [distance] at isWidth
  split at isWidth
  · rename_i cut
    obtain rfl := Distance.width.inj isWidth
    exact warning.prefix_of_slice? cut
  · cases isWidth

private theorem eq_of_distance_bytes {count : Nat} (isBytes : warning.distance = .bytes count) :
    count = max warning.column warning.indentation - warning.indentation := by
  rw [distance] at isBytes
  split at isBytes
  · cases isBytes
  · exact (Distance.bytes.inj isBytes).symm

theorem distance_eq_bytes_iff :
    (∃ count, warning.distance = .bytes count) ↔
      warning.indentation < warning.column ∧ Text.IsInside warning.line.toList warning.column := by
  rw [← slice?_reach_eq_none_iff, distance]
  cases Text.slice? warning.line.toList warning.indentation warning.reach with
  | none => simp
  | some shown => simp

end InjectionLint.Warning

namespace InjectionLint

/-- For every line and column, no difference on the way to the padding is negative and nothing is cut out
that ends before it begins. The caret is set off by bytes exactly if the column is inside a character after
the indentation, and by the width of a part from which the shown line begins otherwise. So the padding is
bounded by the line, whatever the column. -/
theorem padding_bounded_by_line (warning : Warning) :
    ∃ distance, warning.distance? = some distance ∧
      warning.markerPadding = Warning.markerOffset + distance.columns ∧
      ((∃ count, distance = .bytes count) ↔
        warning.indentation < warning.column ∧
          Text.IsInside warning.line.toList warning.column) ∧
      (∀ count, distance = .bytes count →
        count + warning.indentation = warning.column ∧
          count < Text.byteLength warning.line.toList) ∧
      (∀ shown, distance = .width shown → shown <+: Text.trimStart warning.line.toList) ∧
      ∃ shown, shown <+: Text.trimStart warning.line.toList ∧
        warning.markerPadding ≤ Warning.markerOffset +
          max (Text.byteLength warning.line.toList) (Text.displayWidth shown) := by
  have inBytes : ∀ count, warning.distance = .bytes count →
      count + warning.indentation = warning.column ∧
        count < Text.byteLength warning.line.toList := by
    intro count isBytes
    obtain ⟨past, inside⟩ := warning.distance_eq_bytes_iff.mp ⟨count, isBytes⟩
    have isRest := warning.eq_of_distance_bytes isBytes
    have within := inside.lt_byteLength
    omega
  refine ⟨warning.distance, warning.distance?_eq, warning.markerPadding_eq,
    warning.distance_eq_bytes_iff, inBytes, fun shown => warning.prefix_of_distance_width, ?_⟩
  rw [warning.markerPadding_eq]
  cases isDistance : warning.distance with
  | width shown =>
      exact ⟨shown, warning.prefix_of_distance_width isDistance,
        Nat.add_le_add_left (Nat.le_max_right _ _) _⟩
  | bytes count =>
      have short := (inBytes count isDistance).2
      exact ⟨[], List.nil_prefix,
        Nat.add_le_add_left (Nat.le_trans (Nat.le_of_lt short) (Nat.le_max_left _ _)) _⟩

/-- The column is the second byte of a character that takes two. -/
example : (⟨.callArgument, "", ⟨⟨1, 0⟩, ⟨1, 0⟩⟩, 3, "  é = 1"⟩ : Warning).markerPadding = 5 := by
  decide +kernel

end InjectionLint
