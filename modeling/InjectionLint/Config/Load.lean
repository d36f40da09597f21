import InjectionLint.Config.Document
import InjectionLint.Files.System
import InjectionLint.Log

/-!
The settings in force for a scan. A file named by the user has to be there and to be right. Otherwise
the file of the scanned directory is used; one that is missing, or of no use, leaves the defaults, and a
log record says why.
-/

set_option autoImplicit false

namespace InjectionLint

namespace ScanConfig

def fileName : String := ".sqlinspect.toml"

def note (level : Log.Level) (text : String) : Log.Record :=
  ⟨level, .configuration, text⟩

def loadExplicit (files : FileSystem) (path : String) : Logged (Except ScanError ScanConfig) :=
  match files.readText path with
  | .error fault => .silent (.error (.config (.unreadable path fault)))
  | .ok document =>
    match parse document with
    | .error fault => .silent (.error (.config fault))
    | .ok config => .after (note .debug s!"Loaded config from {path}") (.silent (.ok config))

def loadProject? (files : FileSystem) (path : String) : Logged (Option ScanConfig) :=
  match files.readText path with
  | .error .notFound => .silent none
  | .error fault =>
    .after (note .warn (ConfigFault.unreadable path fault).message) (.silent none)
  | .ok document =>
    match parse document with
    | .error fault =>
      .after (note .warn s!"{(ScanError.config fault).message}. Using defaults.") (.silent none)
    | .ok config => .after (note .debug s!"Loaded config from {path}") (.silent (some config))

def load (files : FileSystem) (root : String) (explicit : Option String) :
    Logged (Except ScanError ScanConfig) :=
  match explicit with
  | some path => loadExplicit files path
  | none =>
    (loadProject? files (Path.join root fileName)).andThen fun
      | some config => .silent (.ok config)
      | none => .after (note .debug s!"No usable {fileName} under {root}") (.silent (.ok default))

end ScanConfig

end InjectionLint
