import InjectionLint.CommandLine.Help
import InjectionLint.Config.Load
import InjectionLint.Scan.Project

/-!
A run of the program: options, settings, scan, and what is printed of it. The exit code is 0 for a
clean scan, 1 for one that flags a file or fails, and 2 for a command line that cannot be used.
-/

set_option autoImplicit false

namespace InjectionLint

namespace CommandLine

structure Output where
  exitCode : Nat
  stdout : String
  stderr : String
  deriving DecidableEq, Repr

structure Failure where
  step : String
  cause : ScanError
  deriving DecidableEq, Repr

def hanging (indent text : String) : String :=
  ("\n" ++ indent).intercalate ((Text.splitAt '\n' text.toList).map String.ofList)

namespace Failure

/-- The causes of a failure, each that of the one before it. -/
def causes (failure : Failure) : List String :=
  failure.cause.message :: failure.cause.cause?.toList

def renderNumbered (number : Nat) : List String → String
  | [] => ""
  | cause :: rest =>
    s!"    {number}: " ++ hanging "       " cause ++ "\n" ++ renderNumbered (number + 1) rest

def render (failure : Failure) : String :=
  s!"Error: {failure.step}\n\nCaused by:\n" ++
    match failure.causes with
    | [cause] => "    " ++ hanging "    " cause ++ "\n"
    | causes => renderNumbered 0 causes

end Failure

/-- The directory whose settings apply: the one that is scanned, or that of the file. -/
def configRoot (files : FileSystem) (path : String) : String :=
  if files.isDirectory path then path else (Path.parent? path).getD "."

def during {α : Type} (step : String) (result : Logged (Except ScanError α)) :
    Logged (Except Failure α) :=
  ⟨result.log, result.value.mapError (⟨step, ·⟩)⟩

/-- The settings that a scan goes by: those of the file in force, with what the command line puts in
their place. -/
def settings (files : FileSystem) (options : Options) : Logged (Except Failure ScanConfig) :=
  (during "Failed to load configuration"
      (ScanConfig.load files (configRoot files options.path) options.config)).andThenOk fun config =>
    during "Invalid command-line options"
      (.silent ((config.override options.overrides).validate.mapError .config))

def scan (parser : Parser) (files : FileSystem) (options : Options) :
    Logged (Except Failure Outcome) :=
  (settings files options).andThenOk fun config =>
    during s!"Failed to scan {options.path}" (scanProject parser files options.path config)

def logVariable : String := "RUST_LOG"

def logFilter (environment : Environment) (options : Options) : Log.Filter × List Log.FilterFault :=
  let usual := Log.Filter.ofThreshold (some options.logLevel)
  match environment.lookup logVariable with
  | some spec => usual.refine spec
  | none => (usual, [])

def complaint (fault : Log.FilterFault) : String :=
  s!"warning: {fault.message}, ignoring it\n"

def banner (options : Options) : String :=
  if options.noBanner then "" else s!"{signature} scanning {options.path}\n"

def runOptions (parser : Parser) (files : FileSystem) (environment : Environment)
    (options : Options) : Output :=
  let (filter, faults) := logFilter environment options
  let result := scan parser files options
  let shown := String.join (faults.map complaint) ++ banner options ++
    String.join ((result.log.filter filter.admits).map (·.render))
  match result.value with
  | .error failure => ⟨1, "", shown ++ failure.render⟩
  | .ok (.clean _) => ⟨0, "", shown⟩
  | .ok (.flagged report _) =>
    let color := (options.color.resolve environment).wantsColor environment
    ⟨1, report.render color ++ "\n", shown⟩

def Halt.complaint : Halt → String
  | .invalidValue => "a value is missing or not allowed"
  | .unknownArgument => "unexpected argument found"
  | .repeatedOption => "an option cannot be used multiple times"
  | .unwantedValue => "unexpected value for an option that takes none"
  | .help | .version => ""

def Halt.output (environment : Environment) : Halt → Output
  | .help => ⟨0, helpText environment, ""⟩
  | .version => ⟨0, signature ++ "\n", ""⟩
  | misuse => ⟨2, "", s!"error: {misuse.complaint}\n\nFor more information, try '--help'.\n"⟩

def run (parser : Parser) (files : FileSystem) (environment : Environment)
    (arguments : List String) : Output :=
  match Options.parse environment arguments with
  | .error halt => halt.output environment
  | .ok options => runOptions parser files environment options

end CommandLine

end InjectionLint
