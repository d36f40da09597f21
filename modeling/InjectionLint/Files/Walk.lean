import InjectionLint.Config.Basic
import InjectionLint.Files.System
import InjectionLint.Log

/-!
The walk over the files to scan. Entries come depth first, those of a directory in the order of their
names. Links to directories are entered if the settings say so, unless they lead back to a directory
that the walk is inside of. A file counts once, under the first path that the settings admit.
-/

set_option autoImplicit false

namespace InjectionLint

structure Candidate where
  path : String
  names : List String
  deriving DecidableEq, Repr

/-- What a walk meets. Directories that it enters are not events of their own. -/
inductive WalkEvent where
  | entry (candidate : Candidate)
  | loop (path ancestor : String)
  | failed (path : String) (fault : FileFault)
  deriving DecidableEq, Repr

inductive WalkItem where
  | found (path : String)
  | failed (cause : ScanError)
  | note (record : Log.Record)
  deriving DecidableEq, Repr

namespace Walk

structure Step where
  path : String
  location : Location
  deriving DecidableEq, Repr

inductive Turn where
  | descend (next : Step)
  | meet (event : WalkEvent)
  deriving DecidableEq, Repr

/-- What a walk makes of an entry of the directory that it is inside of. The steps to that directory
are `step` and `outer`, the innermost first, and `names` those below the root. -/
def turn (files : FileSystem) (follow : Bool) (names : List String) (step : Step)
    (outer : List Step) (name : String) : Turn :=
  let path := Path.join step.path name
  let entry : Turn := .meet (.entry ⟨path, names ++ [name]⟩)
  match files.get? (step.location ++ [name]) with
  | some .directory =>
    match files.stat path with
    | .error fault => .meet (.failed path fault)
    | .ok _ => .descend ⟨path, step.location ++ [name]⟩
  | some (.link _) =>
    if follow then
      match files.stat path with
      | .error fault => .meet (.failed path fault)
      | .ok (location, .directory) =>
        match (step :: outer).find? (·.location = location) with
        | some ancestor => .meet (.loop path ancestor.path)
        | none => .descend ⟨path, location⟩
      | .ok _ => entry
    else entry
  | _ => entry

/-- What a walk meets in a directory and below it. `fuel` bounds the depth. -/
def inside (files : FileSystem) (config : ScanConfig) : Nat → List String → Step → List Step →
    List WalkEvent
  | 0, _, _, _ => []
  | fuel + 1, names, step, outer =>
    (files.names step.location).flatMap fun name =>
      match turn files config.followLinks names step outer name with
      | .meet event => [event]
      | .descend next =>
        if name ∈ config.excludeDirs then []
        else inside files config fuel (names ++ [name]) next (step :: outer)

def directoryCount (files : FileSystem) : Nat :=
  (files.nodes.filter (·.2 = .directory)).length + 1

def deepest (files : FileSystem) : Nat :=
  files.nodes.foldl (fun depth node => max depth node.1.length) 0

/-- A depth that no walk passes: every link that is entered leads to a directory that the walk was not
inside of, and between two links the locations only get longer. -/
def depthBound (files : FileSystem) : Nat :=
  (directoryCount files + 1) * (deepest files + 1)

/-- The root of this name stands for standard input, which holds no files. -/
def isStandardInput (root : String) : Bool :=
  Path.dropIdleEnd (Path.pieces root) = ["-"]

/-- What a walk from a root meets. A root that is a link is followed in any case. -/
def events (files : FileSystem) (config : ScanConfig) (root : String) : List WalkEvent :=
  if isStandardInput root then []
  else
    match files.stat root with
    | .error fault => [.failed root fault]
    | .ok (location, .directory) =>
      inside files config (depthBound files) [] ⟨root, location⟩ []
    | .ok _ => [.entry ⟨root, []⟩]

/-- Whether a candidate is to be scanned by its names: the extension is one of those wanted, the file
name is not excluded, and no glob matches the path below the root. -/
def isAdmitted (config : ScanConfig) (candidate : Candidate) : Bool :=
  match Path.extension? candidate.path with
  | none => false
  | some extension =>
    String.ofList (Text.asciiLower extension.toList) ∈ config.extensions &&
      !((Path.fileName? candidate.path).any (· ∈ config.excludeFiles)) &&
      !config.ignored.any fun pattern => Glob.accepts pattern ("/".intercalate candidate.names)

def loopMessage (path ancestor : String) : String :=
  s!"File system loop found: {path} points to an ancestor {ancestor}"

def select (files : FileSystem) (config : ScanConfig) : List Location → List WalkEvent →
    List WalkItem
  | _, [] => []
  | seen, .loop path ancestor :: rest =>
    .note ⟨.debug, .walk, s!"Skipping symlink loop: {loopMessage path ancestor}"⟩ ::
      select files config seen rest
  | seen, .failed path fault :: rest => .failed (.walk path fault) :: select files config seen rest
  | seen, .entry candidate :: rest =>
    if files.isFile candidate.path && isAdmitted config candidate then
      match files.locate candidate.path with
      | .error fault => .failed (.file candidate.path fault) :: select files config seen rest
      | .ok location =>
        if location ∈ seen then
          .note ⟨.debug, .walk, s!"Already visited {candidate.path}"⟩ ::
            select files config seen rest
        else .found candidate.path :: select files config (location :: seen) rest
    else select files config seen rest

def items (files : FileSystem) (config : ScanConfig) (root : String) : List WalkItem :=
  select files config [] (events files config root)

def collect : List WalkItem → Logged (Except ScanError (List String))
  | [] => .silent (.ok [])
  | .note record :: rest => .after record (collect rest)
  | .failed cause :: _ => .silent (.error cause)
  | .found path :: rest => (collect rest).andThenOk fun paths => .silent (.ok (path :: paths))

def paths (files : FileSystem) (config : ScanConfig) (root : String) :
    Logged (Except ScanError (List String)) :=
  collect (items files config root)

end Walk

end InjectionLint
