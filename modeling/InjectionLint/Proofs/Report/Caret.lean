import InjectionLint.Proofs.Text.Cut
import InjectionLint.Report.Warning

/-!
Where the caret of a warning stands. A place in a source is found by counting line feeds, the line that
is shown by splitting at them; the first counts bytes, the caret columns. The two agree for every place
with a visible character.

Main statement: the caret of a warning on a visible character stands under that character
(`caret_stands_under_entry`).
-/

set_option autoImplicit false

namespace InjectionLint

/-! ### Places -/

namespace Position

def past (place : Position) (c : Char) : Position :=
  if c = '\n' then ⟨place.line + 1, 0⟩ else ⟨place.line, place.column + c.utf8Size⟩

private theorem advance_cons (place : Position) (c : Char) (count : Nat) (rest : List Char) :
    advance place (c.utf8Size + count) (c :: rest) = advance (place.past c) count rest := by
  obtain ⟨less, size, fits, remaining⟩ := Text.exists_succ_eq_utf8Size_add c count
  rw [size, advance, if_neg (Nat.not_lt.mpr fits), remaining, past]
  split <;> rfl

private theorem advance_byteLength (place : Position) (before after : List Char) :
    advance place (Text.byteLength before) (before ++ after) = before.foldl past place := by
  induction before generalizing place with
  | nil =>
      change advance place 0 after = place
      rw [advance]
  | cons c rest ih => rw [Text.byteLength, List.cons_append, advance_cons, ih, List.foldl_cons]

private theorem line_foldl_past (place : Position) (text : List Char) :
    (text.foldl past place).line = place.line + text.count '\n' := by
  induction text generalizing place with
  | nil => rfl
  | cons c rest ih =>
      rw [List.foldl_cons, ih, past, List.count_cons]
      by_cases ends : c = '\n'
      · simp only [ends, if_true, beq_self_eq_true]
        omega
      · simp [ends]

theorem column_foldl_past_of_line {line : List Char} (single : '\n' ∉ line) (place : Position) :
    (line.foldl past place).column = place.column + Text.byteLength line := by
  induction line generalizing place with
  | nil => rfl
  | cons c rest ih =>
      obtain ⟨notFeed, restSingle⟩ := not_or.mp (mt List.mem_cons.mpr single)
      rw [List.foldl_cons, ih restSingle, past, if_neg (Ne.symm notFeed), Text.byteLength]
      exact Nat.add_assoc ..

private theorem column_foldl_past (text : List Char) :
    (text.foldl past ⟨1, 0⟩).column = Text.byteLength (Text.lastLine text) := by
  have single := Text.not_mem_lastLine text
  rcases Text.lastLine_cases text with whole | ⟨upper, parts⟩
  · rw [whole] at single ⊢
    rw [column_foldl_past_of_line single, Nat.zero_add]
  · conv_lhs => rw [parts]
    rw [List.foldl_append, List.foldl_cons, column_foldl_past_of_line single, past, if_pos rfl,
      Nat.zero_add]

private theorem ofOffset_byteLength {source : String} {before after : List Char}
    (parts : source.toList = before ++ after) :
    ofOffset source (Text.byteLength before) =
      ⟨before.count '\n' + 1, Text.byteLength (Text.lastLine before)⟩ := by
  rw [ofOffset, parts, advance_byteLength]
  have line := line_foldl_past ⟨1, 0⟩ before
  have column := column_foldl_past before
  rw [← column, Nat.add_comm _ 1, ← line]

end Position

/-! ### The line and the caret -/

namespace Warning

/-- With a visible character at its column, a line is shown from its first visible character on, and the
caret stands as far to the right as what is shown before the column is wide. -/
theorem markerPadding_of_visible {warning : Warning} {row rest : List Char} {c : Char}
    (visible : Text.isBlank c = false) (shown : warning.line.toList = row ++ c :: rest)
    (atColumn : warning.column = Text.byteLength row) :
    warning.markerPadding = markerOffset + Text.displayWidth (Text.trimStart row) := by
  have trimmed : Text.trimStart (row ++ c :: rest) = Text.trimStart row ++ c :: rest :=
    Text.trimStart_append_cons_of_visible visible row rest
  have rowLength : Text.byteLength row =
      Text.byteLength (row.takeWhile Text.isBlank) + Text.byteLength (Text.trimStart row) := by
    rw [← Text.byteLength_append, Text.takeWhile_append_trimStart]
  have leading : Text.byteLength (row ++ c :: rest) -
      Text.byteLength (Text.trimStart row ++ c :: rest) =
        Text.byteLength (row.takeWhile Text.isBlank) := by
    rw [Text.byteLength_append, Text.byteLength_append, rowLength]
    omega
  have clamped : min (max (Text.byteLength row) (Text.byteLength (row.takeWhile Text.isBlank)))
      (Text.byteLength (row ++ c :: rest)) = Text.byteLength row := by
    rw [Text.byteLength_append]
    omega
  have cut : Text.slice? (row ++ c :: rest) (Text.byteLength (row.takeWhile Text.isBlank))
      (Text.byteLength row) = some (Text.trimStart row) := by
    have parts : row ++ c :: rest =
        row.takeWhile Text.isBlank ++ (Text.trimStart row ++ c :: rest) := by
      rw [← List.append_assoc, Text.takeWhile_append_trimStart]
    rw [parts, rowLength, Text.slice?_middle]
  simp only [markerPadding, shown, atColumn, trimmed, leading, clamped, cut]

end Warning

/-- A warning on the line of a visible character and with its column shows the trimmed line, in which
the character begins what follows `front`, and the caret stands right after the columns of `front`. The
line and the column are those that places have in the source, and the line is there to be shown. -/
theorem caret_stands_under_entry {source : String} {before after : List Char} {c : Char}
    (parts : source.toList = before ++ c :: after) (visible : Text.isBlank c = false)
    (origin : Origin) (message : String) {range : Range} {column : Nat}
    (onLine : range.start.line = before.count '\n' + 1)
    (atColumn : column = Text.byteLength (Text.lastLine before)) :
    Position.ofOffset source (Text.byteLength before) = ⟨range.start.line, column⟩ ∧
    (Text.splitAt '\n' source.toList)[range.start.line - 1]? =
      some (Text.lastLine before ++ Text.firstLine (c :: after)) ∧
    ∃ warning, Warning.ofSource? origin message range column (some source) = some warning ∧
      warning.line =
        String.ofList (Text.trimEnd (Text.lastLine before ++ Text.firstLine (c :: after))) ∧
      warning.line ≠ "" ∧
      ∃ front,
        warning.trimmedLine =
          String.ofList (front ++ Text.trimEnd (Text.firstLine (c :: after))) ∧
        warning.markerPadding = Warning.markerOffset + Text.displayWidth front := by
  have place := Position.ofOffset_byteLength parts
  have cutLine : (Text.splitAt '\n' source.toList)[range.start.line - 1]? =
      some (Text.lastLine before ++ Text.firstLine (c :: after)) := by
    rw [onLine, Nat.add_sub_cancel, parts, Text.line_through_cut]
  -- The character is no line feed, since that is a blank, and so it begins the rest of the line.
  have notFeed : c ≠ '\n' := by
    rintro rfl
    contradiction
  have rest : Text.firstLine (c :: after) = c :: Text.firstLine after :=
    Text.firstLine_cons notFeed after
  have stored : sourceLine source range.start.line =
      String.ofList (Text.trimEnd (Text.lastLine before ++ Text.firstLine (c :: after))) := by
    rw [sourceLine, cutLine, Option.getD_some]
  have shown : (sourceLine source range.start.line).toList =
      Text.lastLine before ++ c :: Text.trimEnd (Text.firstLine after) := by
    rw [stored, String.toList_ofList, rest, Text.trimEnd_append_cons_of_visible visible]
  refine ⟨?_, cutLine, _, rfl, stored, ?_, Text.trimStart (Text.lastLine before), ?_, ?_⟩
  · rw [place, onLine, atColumn]
  · change sourceLine source range.start.line ≠ ""
    intro empty
    rw [empty] at shown
    simp at shown
  · change String.ofList (Text.trim (sourceLine source range.start.line).toList) = _
    rw [shown, Text.trim, Text.trimStart_append_cons_of_visible visible,
      Text.trimEnd_append_cons_of_visible visible, Text.trimEnd_trimEnd, rest,
      Text.trimEnd_cons_of_visible visible]
  · exact Warning.markerPadding_of_visible visible shown atColumn

/-- The second line has a tab and wide text before the name, and a blank and a carriage return at its
end. The name is at byte 11 of the line, and the text before it fills nine columns. -/
theorem caret_under_name_after_wide_text :
    ∃ warning, Warning.ofSource? .concatenation "m" ⟨⟨2, 1⟩, ⟨2, 13⟩⟩ 11
        (some "f();\n\t\"é中\" + id; \r\ng();") = some warning ∧
      warning.line = "\t\"é中\" + id;" ∧
      ∃ front, warning.trimmedLine = String.ofList (front ++ ['i', 'd', ';']) ∧
        warning.markerPadding = 4 + Text.displayWidth front := by
  obtain ⟨_, _, warning, recorded, stored, _, front, trimmed, padding⟩ :=
    @caret_stands_under_entry "f();\n\t\"é中\" + id; \r\ng();" "f();\n\t\"é中\" + ".toList
      "d; \r\ng();".toList 'i' (by decide +kernel) (by decide) .concatenation "m" ⟨⟨2, 1⟩, ⟨2, 13⟩⟩ 11
      (by decide +kernel) (by decide +kernel)
  refine ⟨warning, recorded, stored.trans (by decide +kernel), front, ?_, padding⟩
  exact trimmed.trans (congrArg (fun rest => String.ofList (front ++ rest)) (by decide +kernel))

end InjectionLint
