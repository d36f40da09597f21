import InjectionLint.CommandLine.Options

/-!
What the program says about itself.
-/

set_option autoImplicit false

namespace InjectionLint

namespace CommandLine

def programName : String := "sqlinspect"

def programVersion : String := "0.1.0"

def signature : String :=
  s!"{programName} {programVersion}"

structure HelpEntry where
  written : String
  purpose : String
  deriving DecidableEq, Repr

namespace HelpEntry

def render (column : Nat) (entry : HelpEntry) : String :=
  let gap := String.ofList (List.replicate (column - entry.written.length) ' ')
  s!"  {entry.written}{gap}{entry.purpose}\n"

def renderAll (entries : List HelpEntry) : String :=
  let widest := entries.foldl (fun widest entry => max widest entry.written.length) 0
  String.join (entries.map (render (widest + 2)))

end HelpEntry

def pathEntry : HelpEntry :=
  ⟨"[PATH]", "Directory (or single file) to scan [default: .]"⟩

/-- The options in order. That of the colours shows what the environment sets. -/
def optionEntries (environment : Environment) : List HelpEntry :=
  let color := (environment.lookup Reading.colorVariable).getD ""
  [⟨"-c, --config <CONFIG>",
      "Configuration file (defaults to .sqlinspect.toml in the scanned directory)"⟩,
    ⟨"    --ext <EXTENSIONS>", "File extensions to scan"⟩,
    ⟨"    --exclude <EXCLUDE>", "Glob patterns to skip, relative to the scanned directory"⟩,
    ⟨"    --color <COLOR>", s!"When to use terminal colors [env: {Reading.colorVariable}={color}] " ++
      "[default: auto] [possible values: auto, always, never]"⟩,
    ⟨"    --no-banner", "Do not print the banner line"⟩,
    ⟨"-v, --verbose...", "Increase log verbosity (-v info, -vv debug, -vvv trace)"⟩,
    ⟨"-h, --help", "Print help"⟩,
    ⟨"-V, --version", "Print version"⟩]

def helpText (environment : Environment) : String :=
  "Find SQL injection patterns in JavaScript and TypeScript sources\n\n" ++
    s!"Usage: {programName} [OPTIONS] [PATH]\n\n" ++
    "Arguments:\n" ++ HelpEntry.renderAll [pathEntry] ++ "\n" ++
    "Options:\n" ++ HelpEntry.renderAll (optionEntries environment)

end CommandLine

end InjectionLint
