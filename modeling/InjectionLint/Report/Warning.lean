import InjectionLint.Report.Style
import InjectionLint.Source.Position
import InjectionLint.Text.Width

/-!
Warnings and how they are shown: a line that names the file and the finding, the source line without
its indentation, and a caret under the place where a value enters the query.
-/

set_option autoImplicit false

namespace InjectionLint

inductive Origin where
  | concatenation
  | interpolation
  | callArgument
  | resolvedBinding
  deriving DecidableEq, Repr

namespace Origin

def tag : Origin → String
  | .concatenation => "concatenation"
  | .interpolation => "template interpolation"
  | .callArgument => "call argument"
  | .resolvedBinding => "call argument binding"

def message (origin : Origin) (line : Nat) : String :=
  s!"Potential SQL injection detected on line {line} ({origin.tag})"

end Origin

structure Warning where
  origin : Origin
  message : String
  range : Range
  /-- Bytes of the line before the place where the value enters. -/
  column : Nat
  line : String
  deriving DecidableEq, Repr

/-- A line of a source, counted from one, without the blanks at its end; empty if there is none. -/
def sourceLine (source : String) (line : Nat) : String :=
  String.ofList (Text.trimEnd ((Text.splitAt '\n' source.toList)[line - 1]?.getD []))

namespace Warning

def markerOffset : Nat := 4

/-- A warning on a range of a source. Without a source there is no line to show and no warning. -/
def ofSource? (origin : Origin) (message : String) (range : Range) (column : Nat)
    (source : Option String) : Option Warning :=
  source.map fun text => ⟨origin, message, range, column, sourceLine text range.start.line⟩

def ofRange (origin : Origin) (range : Range) (column : Nat) (source : String) : Warning :=
  ⟨origin, origin.message range.start.line, range, column, sourceLine source range.start.line⟩

def lineNumber (warning : Warning) : Nat :=
  warning.range.start.line

def trimmedLine (warning : Warning) : String :=
  String.ofList (Text.trim warning.line.toList)

/-- Columns before the caret: those of the trimmed line before the place where the value enters. A
place inside a character is as far as its bytes. -/
def markerPadding (warning : Warning) : Nat :=
  let line := warning.line.toList
  let leading := Text.byteLength line - Text.byteLength (Text.trimStart line)
  let column := max warning.column leading
  markerOffset +
    match Text.slice? line leading (min column (Text.byteLength line)) with
    | some before => Text.displayWidth before
    | none => column - leading

def spaces (count : Nat) : String :=
  String.ofList (List.replicate count ' ')

def marker (warning : Warning) : String :=
  spaces warning.markerPadding ++ "^"

def renderPlain (path : String) (warning : Warning) : String :=
  s!"{path}: {warning.message}:\n{spaces markerOffset}{warning.trimmedLine}\n{warning.marker}"

def render (colors : Bool) (path : String) (warning : Warning) : String :=
  Color.paint colors .yellow path ++ ": " ++ Color.paint colors .red (warning.message ++ ":") ++
    "\n" ++ spaces markerOffset ++ warning.trimmedLine ++
    "\n" ++ spaces warning.markerPadding ++ Color.paint colors .cyan "^"

end Warning

structure Report where
  path : String
  warnings : List Warning
  deriving DecidableEq, Repr

namespace Report

def isFlagged (report : Report) : Bool :=
  !report.warnings.isEmpty

def renderPlain (report : Report) : String :=
  "\n".intercalate (report.warnings.map (·.renderPlain report.path))

def render (colors : Bool) (report : Report) : String :=
  "\n".intercalate (report.warnings.map (·.render colors report.path))

end Report

end InjectionLint
