import InjectionLint.CommandLine.Run
import InjectionLint.Snapshot

/-!
The command line program. Standard input holds a snapshot of the project to scan; arguments, variables
and the terminal are those of the process.
-/

set_option autoImplicit false

namespace InjectionLint

namespace CommandLine

def variableNames : List String :=
  ["CLICOLOR", "CLICOLOR_FORCE", "NO_COLOR", "TERM", Reading.colorVariable, logVariable]

end CommandLine

end InjectionLint

open InjectionLint in
def main (arguments : List String) : IO UInt32 := do
  let input ← IO.getStdin
  let output ← IO.getStdout
  let errors ← IO.getStderr
  let values ← CommandLine.variableNames.mapM fun name => return (name, ← IO.getEnv name)
  let environment : Environment :=
    ⟨fun name => (values.find? (·.1 = name)).bind (·.2), ← output.isTty⟩
  match Snapshot.parse? (← input.readToEnd) with
  | none =>
    errors.putStr "error: standard input holds no snapshot of a project\n"
    return 2
  | some snapshot =>
    let result := CommandLine.run snapshot.parser snapshot.files environment arguments
    output.putStr result.stdout
    errors.putStr result.stderr
    return UInt32.ofNat result.exitCode
