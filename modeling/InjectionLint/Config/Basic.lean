import InjectionLint.Error
import InjectionLint.Source.Variant

/-!
What to scan: the settings, what the command line puts in their place, and their validation.
-/

set_option autoImplicit false

namespace InjectionLint

structure ScanConfig where
  /-- Extensions of the files to scan, without a leading dot. -/
  extensions : List String
  excludeDirs : List String
  excludeFiles : List String
  /-- Globs; a file whose path from the root matches one is not scanned. -/
  ignored : List String
  followLinks : Bool
  deriving DecidableEq, Repr

/-- Settings from the command line. Those not given leave the configured ones in force. -/
structure Overrides where
  extensions : Option (List String)
  ignored : Option (List String)
  deriving DecidableEq, Repr

/-- An extension as settings may write it, in the form in which it is compared. -/
def normalizeExtension (extension : String) : String :=
  String.ofList (Text.asciiLower ((Text.trim extension.toList).dropWhile (· = '.')))

namespace ScanConfig

def default : ScanConfig where
  extensions := ["js"]
  excludeDirs := ["node_modules"]
  excludeFiles := []
  ignored := []
  followLinks := true

def override (config : ScanConfig) (overrides : Overrides) : ScanConfig :=
  { config with
    extensions := overrides.extensions.getD config.extensions
    ignored := overrides.ignored.getD config.ignored }

def badPattern? : List String → Option (String × Glob.Fault)
  | [] => none
  | pattern :: rest =>
    match Glob.parse pattern with
    | .ok _ => badPattern? rest
    | .error fault => some (pattern, fault)

def validate (config : ScanConfig) : Except ConfigFault ScanConfig :=
  let extensions := config.extensions.map normalizeExtension
  if extensions = [] then .error .noExtension
  else
    match extensions.find? fun extension => (Variant.ofExtension? extension).isNone with
    | some extension => .error (.unsupportedExtension extension)
    | none =>
      match badPattern? config.ignored with
      | some (pattern, fault) => .error (.invalidPattern pattern fault)
      | none => .ok { config with extensions := extensions }

end ScanConfig

end InjectionLint
