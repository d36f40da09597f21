import InjectionLint.Glob
import InjectionLint.Source.Position

/-!
What can stop a scan. Each cause is a value; its wording is in one function.
-/

set_option autoImplicit false

namespace InjectionLint

inductive FileFault where
  | notFound
  | notDirectory
  | isDirectory
  | tooManyLinks
  | nameTooLong
  | nulInPath
  | notText
  | other (text : String)
  deriving DecidableEq, Repr

def FileFault.message : FileFault → String
  | .notFound => "No such file or directory (os error 2)"
  | .notDirectory => "Not a directory (os error 20)"
  | .isDirectory => "Is a directory (os error 21)"
  | .tooManyLinks => "Too many levels of symbolic links (os error 40)"
  | .nameTooLong => "File name too long (os error 36)"
  | .nulInPath => "file name contained an unexpected NUL byte"
  | .notText => "stream did not contain valid UTF-8"
  | .other text => text

inductive ConfigFault where
  | noExtension
  | unsupportedExtension (extension : String)
  | invalidPattern (pattern : String) (fault : Glob.Fault)
  | unreadable (path : String) (fault : FileFault)
  | malformed
  | other (text : String)
  deriving DecidableEq, Repr

def ConfigFault.message : ConfigFault → String
  | .noExtension => "at least one file extension is required"
  | .unsupportedExtension extension => s!"unsupported file extension '{extension}'"
  | .invalidPattern pattern fault => s!"invalid ignore pattern '{pattern}': {fault.message}"
  | .unreadable path fault => s!"Failed to read config file {path}: {fault.message}"
  | .malformed => "Failed to parse .sqlinspect.toml"
  | .other text => text

inductive ScanError where
  | file (path : String) (fault : FileFault)
  | parse (path : String) (place : Position) (detail : String)
  | walk (path : String) (fault : FileFault)
  | config (fault : ConfigFault)
  deriving DecidableEq, Repr

namespace ScanError

def message : ScanError → String
  | .file path fault => s!"File system error for {path}: {fault.message}"
  | .parse path place detail => s!"Parse error in {path}:{place.render}: {detail}"
  | .walk path fault => s!"{path}: IO error for operation on {path}: {fault.message}"
  | .config fault => s!"Configuration error: {fault.message}"

def isParse : ScanError → Bool
  | .parse _ _ _ => true
  | _ => false

/-- The text of the error's own cause, where that is told apart from it. -/
def cause? : ScanError → Option String
  | .file _ fault => some fault.message
  | _ => none

end ScanError

end InjectionLint
