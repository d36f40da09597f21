import InjectionLint.Files.Walk
import InjectionLint.Scan.Source

/-!
Scans of files. A scan of a project goes through the files of a walk and stops at the first one that is
flagged; whatever cannot be read or parsed before that stops it with an error.
-/

set_option autoImplicit false

namespace InjectionLint

def scanFile (parser : Parser) (files : FileSystem) (path : String) :
    Logged (Except ScanError Report) :=
  match files.readText path with
  | .error fault => .silent (.error (.file path fault))
  | .ok source =>
    .after ⟨.debug, .file, s!"Scanning {path}"⟩
      (scanSource parser source path (Path.variant path))

inductive Outcome where
  | clean (scanned : Nat)
  /-- The first file that is flagged; later ones were not read. -/
  | flagged (report : Report) (scanned : Nat)
  deriving DecidableEq, Repr

namespace Outcome

def isFlagged : Outcome → Bool
  | .clean _ => false
  | .flagged _ _ => true

def scanned : Outcome → Nat
  | .clean scanned | .flagged _ scanned => scanned

end Outcome

def scanItems (scan : String → Logged (Except ScanError Report)) (scanned : Nat) :
    List WalkItem → Logged (Except ScanError Outcome)
  | [] =>
    .after ⟨.info, .project, s!"Scanned {scanned} file(s), no issues found"⟩
      (.silent (.ok (.clean scanned)))
  | .note record :: rest => .after record (scanItems scan scanned rest)
  | .failed cause :: _ => .silent (.error cause)
  | .found path :: rest =>
    (scan path).andThenOk fun report =>
      if report.isFlagged then
        .after ⟨.info, .project,
            s!"{path} flagged with {report.warnings.length} warning(s) after {scanned + 1} file(s)"⟩
          (.silent (.ok (.flagged report (scanned + 1))))
      else scanItems scan (scanned + 1) rest

def scanProject (parser : Parser) (files : FileSystem) (root : String) (config : ScanConfig) :
    Logged (Except ScanError Outcome) :=
  scanItems (scanFile parser files) 0 (Walk.items files config root)

end InjectionLint
