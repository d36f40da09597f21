import InjectionLint.Proofs.Rule.InjectionPoint
import InjectionLint.Proofs.Text.Cut

/-!
What a report looks like. Each warning takes three lines, and colours only put sequences into them that
do not show. Both rest on what a scan puts into its warnings: messages are printable, and the lines are
lines of the source.

Main statement: the report of a scan has three lines for each warning, and colours change nothing else
(`report_shows_three_lines_each`).
-/

set_option autoImplicit false

namespace InjectionLint

/-! ### Colours -/

namespace Color

def escape : Char := '\x1b'

/-- A text without the sequences that turn a colour on or all of them off. -/
def erase : List Char → List Char
  | '\x1b' :: '[' :: '3' :: '3' :: 'm' :: rest => erase rest
  | '\x1b' :: '[' :: '3' :: '1' :: 'm' :: rest => erase rest
  | '\x1b' :: '[' :: '3' :: '6' :: 'm' :: rest => erase rest
  | '\x1b' :: '[' :: '0' :: 'm' :: rest => erase rest
  | c :: rest => c :: erase rest
  | [] => []

private theorem erase_opening (color : Color) (rest : List Char) :
    erase (color.opening ++ rest) = erase rest := by
  cases color <;> simp [opening, erase]

private theorem erase_reset (rest : List Char) : erase (reset ++ rest) = erase rest := by
  simp [reset, erase]

private theorem erase_cons {c : Char} (visible : c ≠ escape) (rest : List Char) :
    erase (c :: rest) = c :: erase rest := by
  rw [erase]
  all_goals
    intro tail begins
    exact absurd begins visible

theorem erase_append {text : List Char} (visible : escape ∉ text) (rest : List Char) :
    erase (text ++ rest) = text ++ erase rest := by
  induction text with
  | nil => rfl
  | cons c text ih =>
      obtain ⟨here, later⟩ := not_or.mp (mt List.mem_cons.mpr visible)
      rw [List.cons_append, erase_cons (Ne.symm here), ih later, List.cons_append]

private theorem reopen_of_visible {text : List Char} (visible : escape ∉ text)
    (opening : List Char) :
    reopen opening text = text := by
  induction text with
  | nil => rfl
  | cons c text ih =>
      obtain ⟨here, later⟩ := not_or.mp (mt List.mem_cons.mpr visible)
      rw [reopen, ih later]
      intro tail begins
      exact absurd begins.symm here

/-- A painted text shows as a plain one, whatever follows. -/
def ShowsAs (painted plain : String) : Prop :=
  ∀ rest, erase (painted.toList ++ rest) = plain.toList ++ erase rest

namespace ShowsAs

private theorem erase_eq {painted plain : String} (shows : ShowsAs painted plain) :
    erase painted.toList = plain.toList := by
  have alone := shows []
  rwa [List.append_nil, erase, List.append_nil] at alone

theorem self {text : String} (visible : escape ∉ text.toList) : ShowsAs text text :=
  erase_append visible

theorem paint {text : String} (visible : escape ∉ text.toList) (color : Color) :
    ShowsAs (Color.paint true color text) text := by
  intro rest
  rw [Color.paint, if_pos rfl, String.toList_ofList, reopen_of_visible visible, List.append_assoc,
    List.append_assoc, erase_opening, erase_append visible, erase_reset]

theorem append {left plainLeft right plainRight : String} (first : ShowsAs left plainLeft)
    (second : ShowsAs right plainRight) : ShowsAs (left ++ right) (plainLeft ++ plainRight) := by
  intro rest
  rw [String.toList_append, String.toList_append, List.append_assoc, first, second,
    List.append_assoc]

theorem intercalate {α : Type} {separator : String} (separates : ShowsAs separator separator)
    {items : List α} {painted plain : α → String}
    (each : ∀ item ∈ items, ShowsAs (painted item) (plain item)) :
    ShowsAs (separator.intercalate (items.map painted)) (separator.intercalate (items.map plain)) := by
  induction items with
  | nil => exact self (by simp)
  | cons item items ih =>
      have first := each item List.mem_cons_self
      have others := ih fun other member => each other (List.mem_cons_of_mem item member)
      cases items with
      | nil => simpa only [List.map_cons, List.map_nil, String.intercalate_singleton] using first
      | cons next items =>
          have filled : ∀ text : α → String, (next :: items).map text ≠ [] := by
            simp
          change ShowsAs (separator.intercalate (painted item :: (next :: items).map painted))
            (separator.intercalate (plain item :: (next :: items).map plain))
          rw [String.intercalate_cons_of_ne_nil (filled painted),
            String.intercalate_cons_of_ne_nil (filled plain)]
          exact (first.append separates).append others

end ShowsAs

end Color

/-! ### What a warning holds -/

theorem Origin.printable_of_mem_message {origin : Origin} {line : Nat} {c : Char}
    (member : c ∈ (origin.message line).toList) : 32 ≤ c.toNat := by
  have fixed : ∀ text ∈ ["Potential SQL injection detected on line ", " (", origin.tag, ")"],
      text.toList.all (32 ≤ ·.toNat) = true := by
    cases origin <;> decide +kernel
  have printable : ∀ text ∈ ["Potential SQL injection detected on line ", " (", origin.tag, ")"],
      c ∈ text.toList → 32 ≤ c.toNat := by
    intro text isFixed inText
    exact of_decide_eq_true (List.all_eq_true.mp (fixed text isFixed) c inText)
  have parts : origin.message line = "Potential SQL injection detected on line " ++ line.repr ++
      " (" ++ origin.tag ++ ")" := rfl
  simp only [parts, String.toList_append, List.mem_append, Nat.toList_repr] at member
  rcases member with (((opens | digit) | bracket) | tagged) | closes
  · exact printable _ (by simp) opens
  · have isDigit := Nat.isDigit_of_mem_toDigits (by decide) (by decide) digit
    have bounds : 48 ≤ c.toNat ∧ c.toNat ≤ 57 := by
      simpa [Char.isDigit, UInt32.le_iff_toNat_le] using isDigit
    omega
  · exact printable _ (by simp) bracket
  · exact printable _ (by simp) tagged
  · exact printable _ (by simp) closes

private theorem mem_sourceLine {source : String} {line : Nat} {c : Char}
    (member : c ∈ (sourceLine source line).toList) : c ∈ source.toList ∧ c ≠ '\n' := by
  rw [sourceLine, String.toList_ofList] at member
  have inLine := (Text.trimEnd_sublist _).subset member
  cases found : (Text.splitAt '\n' source.toList)[line - 1]? with
  | none =>
      rw [found] at inLine
      cases inLine
  | some text =>
      rw [found] at inLine
      exact Text.mem_of_mem_splitAt (List.mem_of_getElem? found) inLine

namespace Warning

structure Lacks (mark : Char) (warning : Warning) : Prop where
  message : mark ∉ warning.message.toList
  line : mark ∉ warning.line.toList

theorem ofRange_lacks {mark : Char} (control : mark.toNat < 32) {source : String}
    (absent : mark = '\n' ∨ mark ∉ source.toList) (origin : Origin) (range : Range) (column : Nat) :
    (ofRange origin range column source).Lacks mark := by
  constructor
  · intro member
    exact Nat.not_le.mpr control (Origin.printable_of_mem_message member)
  · intro member
    obtain ⟨inSource, notFeed⟩ := mem_sourceLine member
    rcases absent with isFeed | absent
    · exact notFeed isFeed
    · exact absent inSource

theorem Lacks.trimmedLine {mark : Char} {warning : Warning} (lacks : warning.Lacks mark) :
    mark ∉ warning.trimmedLine.toList := by
  rw [Warning.trimmedLine, String.toList_ofList]
  intro member
  exact lacks.line (Text.mem_of_mem_trim member)

private theorem not_mem_spaces {mark : Char} (different : mark ≠ ' ') (count : Nat) :
    mark ∉ (spaces count).toList := by
  rw [spaces, String.toList_ofList]
  intro member
  exact different (List.eq_of_mem_replicate member)

/-! ### The lines of a warning -/

def shownLines (path : String) (warning : Warning) : List String :=
  [path ++ ": " ++ warning.message ++ ":", spaces markerOffset ++ warning.trimmedLine,
    spaces warning.markerPadding ++ "^"]

private theorem renderPlain_eq_append (path : String) (warning : Warning) :
    warning.renderPlain path = path ++ ": " ++ warning.message ++ ":\n" ++ spaces markerOffset ++
      warning.trimmedLine ++ "\n" ++ (spaces warning.markerPadding ++ "^") := rfl

theorem renderPlain_eq_intercalate (path : String) (warning : Warning) :
    warning.renderPlain path = "\n".intercalate (warning.shownLines path) := by
  simp [renderPlain_eq_append, shownLines, String.append_assoc]

theorem render_false (path : String) (warning : Warning) :
    warning.render false path = warning.renderPlain path := by
  simp [render, renderPlain_eq_append, Color.paint, String.append_assoc]

theorem showsAs_renderPlain {path : String} {warning : Warning}
    (visiblePath : Color.escape ∉ path.toList) (lacks : warning.Lacks Color.escape) :
    Color.ShowsAs (warning.render true path) (warning.renderPlain path) := by
  have fixed : ∀ text ∈ [": ", ":", "\n", "^"], Color.escape ∉ text.toList := by
    decide
  have message : Color.escape ∉ (warning.message ++ ":").toList := by
    rw [String.toList_append]
    exact fun member => (List.mem_append.mp member).elim lacks.message (fixed ":" (by simp))
  have different : Color.escape ≠ ' ' := by
    decide
  have space : ∀ count, Color.ShowsAs (spaces count) (spaces count) := fun count =>
    .self (not_mem_spaces different count)
  have feed := Color.ShowsAs.self (fixed "\n" (by simp))
  have heading := ((Color.ShowsAs.paint visiblePath .yellow).append
    (.self (fixed ": " (by simp)))).append (.paint message .red)
  have shown := ((heading.append feed).append (space markerOffset)).append (.self lacks.trimmedLine)
  have caret := ((shown.append feed).append (space warning.markerPadding)).append
    (.paint (fixed "^" (by simp)) .cyan)
  rw [← render_false]
  exact caret

theorem not_mem_shownLines {path : String} {warning : Warning} (onePath : '\n' ∉ path.toList)
    (lacks : warning.Lacks '\n') : ∀ line ∈ warning.shownLines path, '\n' ∉ line.toList := by
  have different : '\n' ≠ ' ' := by
    decide
  have heading : '\n' ∉ (path ++ ": " ++ warning.message ++ ":").toList := by
    simp [String.toList_append, onePath, lacks.message]
  have shown : '\n' ∉ (spaces markerOffset ++ warning.trimmedLine).toList := by
    simp [String.toList_append, not_mem_spaces different, lacks.trimmedLine]
  have caret : '\n' ∉ (spaces warning.markerPadding ++ "^").toList := by
    simp [String.toList_append, not_mem_spaces different]
  intro line member
  simp only [shownLines, List.mem_cons, List.not_mem_nil, or_false] at member
  rcases member with rfl | rfl | rfl
  · exact heading
  · exact shown
  · exact caret

end Warning

/-! ### The lines of a report -/

namespace Report

theorem renderPlain_eq_intercalate (report : Report) :
    report.renderPlain = "\n".intercalate (report.warnings.flatMap (·.shownLines report.path)) := by
  rw [renderPlain]
  induction report.warnings with
  | nil => rfl
  | cons warning warnings ih =>
      rw [List.map_cons, List.flatMap_cons]
      cases warnings with
      | nil =>
          rw [List.map_nil, String.intercalate_singleton, List.flatMap_nil, List.append_nil,
            Warning.renderPlain_eq_intercalate]
      | cons next warnings =>
          have filled : ((next :: warnings).flatMap (·.shownLines report.path)) ≠ [] := by
            simp [Warning.shownLines]
          rw [String.intercalate_cons_of_ne_nil (by simp), ih,
            String.intercalate_append_of_ne_nil (by simp [Warning.shownLines]) filled,
            Warning.renderPlain_eq_intercalate]

theorem render_false (report : Report) : report.render false = report.renderPlain := by
  have each : report.warnings.map (·.render false report.path) =
      report.warnings.map (·.renderPlain report.path) :=
    List.map_congr_left fun warning _ => warning.render_false report.path
  rw [render, each, renderPlain]

private theorem splitAt_renderPlain {report : Report} (flagged : report.warnings ≠ [])
    (onePath : '\n' ∉ report.path.toList)
    (single : ∀ warning ∈ report.warnings, warning.Lacks '\n') :
    Text.splitAt '\n' report.renderPlain.toList =
      (report.warnings.flatMap (·.shownLines report.path)).map String.toList := by
  have filled : report.warnings.flatMap (·.shownLines report.path) ≠ [] := by
    obtain ⟨first, others, parts⟩ := List.exists_cons_of_ne_nil flagged
    simp [parts, Warning.shownLines]
  rw [Text.splitAt_eq_splitOn, renderPlain_eq_intercalate, String.toList_intercalate]
  apply List.splitOn_intercalate
  · intro text member
    obtain ⟨line, isLine, rfl⟩ := List.mem_map.mp member
    obtain ⟨warning, isWarning, inWarning⟩ := List.mem_flatMap.mp isLine
    exact Warning.not_mem_shownLines onePath (single warning isWarning) line inWarning
  · simpa using filled

private theorem length_shownLines (path : String) (warnings : List Warning) :
    (warnings.flatMap (·.shownLines path)).length = 3 * warnings.length := by
  induction warnings with
  | nil => rfl
  | cons warning warnings ih =>
      rw [List.flatMap_cons, List.length_append, ih, List.length_cons]
      change 3 + 3 * warnings.length = _
      omega

theorem getElem?_shownLines {path : String} {warnings : List Warning} {index : Nat}
    {warning : Warning} (found : warnings[index]? = some warning) {row : Nat} (within : row < 3) :
    (warnings.flatMap (·.shownLines path))[3 * index + row]? = (warning.shownLines path)[row]? := by
  induction warnings generalizing index with
  | nil => cases found
  | cons first warnings ih =>
      have three : (first.shownLines path).length = 3 := rfl
      rw [List.flatMap_cons]
      cases index with
      | zero =>
          obtain rfl := Option.some.inj found
          rw [Nat.mul_zero, Nat.zero_add, List.getElem?_append_left (by omega)]
      | succ index =>
          have later : 3 * (index + 1) + row - (first.shownLines path).length = 3 * index + row := by
            omega
          rw [List.getElem?_append_right (by omega), later]
          exact ih found

end Report

/-! ### The report of a scan -/

theorem exists_ofRange_of_scanned {parser : Parser} {source path : String} {variant : Variant}
    {report : Report} (scanned : (scanSource parser source path variant).value = .ok report) :
    report.path = path ∧ ∀ warning ∈ report.warnings, ∃ origin range column,
      warning = .ofRange origin range column source := by
  simp only [scanSource, parseSource, Logged.andThenOk, Logged.andThen, Logged.silent] at scanned
  split at scanned
  · rename_i parsed accepted
    split at accepted
    · cases accepted
    · cases accepted
      cases scanned
      refine ⟨rfl, ?_⟩
      intro warning member
      change warning ∈ Rule.detect source _ at member
      rw [Rule.detect_eq_flatMap_atAddress] at member
      obtain ⟨address, _, atAddress⟩ := List.mem_flatMap.mp member
      obtain ⟨_, _, _, _, shown⟩ := Rule.shows_of_mem_atAddress atAddress
      exact ⟨_, _, _, shown⟩
  · cases scanned

/-- A report with warnings has three lines for each: the path and the message, the trimmed source line
behind the offset, and the caret behind its padding. Without colours it is rendered plainly, and with
colours it is the same once the colour sequences are erased. -/
theorem report_shows_three_lines_each {parser : Parser} {source path : String} {variant : Variant}
    {report : Report} (scanned : (scanSource parser source path variant).value = .ok report)
    (flagged : 1 ≤ report.warnings.length) (visiblePath : Color.escape ∉ path.toList)
    (visibleSource : Color.escape ∉ source.toList) (onePath : '\n' ∉ path.toList) :
    (Text.splitAt '\n' report.renderPlain.toList).length = 3 * report.warnings.length ∧
    (∀ index warning, report.warnings[index]? = some warning →
      (Text.splitAt '\n' report.renderPlain.toList)[3 * index]? =
        some (path ++ ": " ++ warning.message ++ ":").toList ∧
      (Text.splitAt '\n' report.renderPlain.toList)[3 * index + 1]? =
        some (List.replicate Warning.markerOffset ' ' ++ warning.trimmedLine.toList) ∧
      (Text.splitAt '\n' report.renderPlain.toList)[3 * index + 2]? =
        some (List.replicate warning.markerPadding ' ' ++ ['^'])) ∧
    report.render false = report.renderPlain ∧
    Color.erase (report.render true).toList = report.renderPlain.toList := by
  obtain ⟨rfl, made⟩ := exists_ofRange_of_scanned scanned
  have single : ∀ warning ∈ report.warnings, warning.Lacks '\n' := by
    intro warning member
    obtain ⟨origin, range, column, rfl⟩ := made warning member
    exact Warning.ofRange_lacks (by decide) (.inl rfl) origin range column
  have visible : ∀ warning ∈ report.warnings, warning.Lacks Color.escape := by
    intro warning member
    obtain ⟨origin, range, column, rfl⟩ := made warning member
    exact Warning.ofRange_lacks (by decide) (.inr visibleSource) origin range column
  have lines := Report.splitAt_renderPlain (List.ne_nil_of_length_pos flagged) onePath single
  refine ⟨?_, ?_, report.render_false, ?_⟩
  · rw [lines, List.length_map, Report.length_shownLines]
  · intro index warning found
    have row := @Report.getElem?_shownLines report.path _ _ _ found
    rw [lines, List.getElem?_map, List.getElem?_map, List.getElem?_map]
    refine ⟨?_, ?_, ?_⟩
    · rw [← Nat.add_zero (3 * index), row (by decide)]
      rfl
    · rw [row (by decide)]
      simp [Warning.shownLines, Warning.spaces, String.toList_append]
    · rw [row (by decide)]
      simp [Warning.shownLines, Warning.spaces, String.toList_append]
  · apply Color.ShowsAs.erase_eq
    apply Color.ShowsAs.intercalate (Color.ShowsAs.self (by decide))
    intro warning member
    exact Warning.showsAs_renderPlain visiblePath (visible warning member)

def linedReport : Report :=
  ⟨"src/f.js", Rule.detect linedSource linedTree⟩

/-- A template and an addition are found, and both are shown. -/
theorem lined_report_has_six_lines :
    (scanSource (fun _ _ => linedTree) linedSource "src/f.js" .javascript).value = .ok linedReport ∧
    linedReport.warnings.length = 2 ∧
    (Text.splitAt '\n' linedReport.renderPlain.toList).length = 6 ∧
    (Text.splitAt '\n' linedReport.renderPlain.toList)[4]? = some "    \"select where\" + x;".toList ∧
    Color.erase (linedReport.render true).toList = linedReport.renderPlain.toList := by
  have scanned : (scanSource (fun _ _ => linedTree) linedSource "src/f.js" .javascript).value =
      .ok linedReport := rfl
  have two : linedReport.warnings.length = 2 := by
    decide +kernel
  obtain ⟨length, rows, _, erased⟩ := report_shows_three_lines_each scanned (by rw [two]; decide)
    (by decide) (by decide +kernel) (by decide)
  refine ⟨scanned, two, length.trans (congrArg (3 * ·) two), ?_, erased⟩
  have last := (rows 1 (.ofRange .concatenation (linedSum.range linedSource) 17 linedSource)
    (by decide +kernel)).2.1
  exact last.trans (by decide +kernel)

end InjectionLint
