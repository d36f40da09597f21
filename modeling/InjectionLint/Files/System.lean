import InjectionLint.Error
import InjectionLint.Files.Path

/-!
A file system with a working directory: directories, files and symbolic links at their locations. A
location is the list of names that lead from the top to a node without passing a link, so two paths reach
the same node exactly if they have the same location. Paths are looked up the way the system does it.
They count from the top if they begin with a slash, and from the working directory otherwise; links are
followed on the way, a limited number of them, and what stands before a slash has to be a directory.

Names are Unicode texts; those whose bytes are no UTF-8 are left out.
-/

set_option autoImplicit false

namespace InjectionLint

/-- Names from the top down to a node, none of them a link. -/
abbrev Location := List String

inductive FileNode where
  | directory
  | file (contents : List UInt8)
  | link (target : String)
  deriving DecidableEq, Repr

structure FileSystem where
  nodes : List (Location × FileNode)
  workingDirectory : Location
  distinct : (nodes.map Prod.fst).Nodup
  inPlace : workingDirectory = [] ∨ (workingDirectory, .directory) ∈ nodes

namespace FileSystem

def empty : FileSystem := ⟨[], [], List.nodup_nil, Or.inl rfl⟩

/-- The node at a location. The top itself is always there. -/
def get? (files : FileSystem) : Location → Option FileNode
  | [] => some .directory
  | location => (files.nodes.find? (·.1 = location)).map (·.2)

/-- Names in a directory, in the order of their bytes. -/
def names (files : FileSystem) (directory : Location) : List String :=
  let inside := files.nodes.filterMap fun (location, _) =>
    if location.dropLast = directory then location.getLast? else none
  inside.mergeSort fun first second => first ≤ second

private theorem find?_eq_of_mem {nodes : List (Location × FileNode)} {location : Location}
    {node : FileNode} (distinct : (nodes.map Prod.fst).Nodup) (member : (location, node) ∈ nodes) :
    nodes.find? (·.1 = location) = some (location, node) := by
  induction nodes with
  | nil => cases member
  | cons head rest ih =>
      obtain ⟨apart, distinctRest⟩ := List.nodup_cons.mp distinct
      rcases List.mem_cons.mp member with rfl | later
      · exact List.find?_cons_of_pos (decide_eq_true rfl)
      · have elsewhere : head.1 ≠ location := by
          intro same
          exact apart (same ▸ List.mem_map_of_mem later)
        rw [List.find?_cons_of_neg (by simpa using elsewhere), ih distinctRest later]

theorem get?_eq_some_iff {files : FileSystem} {location : Location} {node : FileNode}
    (below : location ≠ []) :
    files.get? location = some node ↔ (location, node) ∈ files.nodes := by
  unfold get?
  split
  · contradiction
  · rw [Option.map_eq_some_iff]
    constructor
    · rintro ⟨entry, first, rfl⟩
      have here : entry.1 = location := by
        simpa only [decide_eq_true_eq] using List.find?_some first
      rw [← here]
      exact List.mem_of_find?_eq_some first
    · intro member
      exact ⟨_, find?_eq_of_mem files.distinct member, rfl⟩

theorem get?_eq_directory_iff {files : FileSystem} {location : Location} :
    files.get? location = some .directory ↔
      location = [] ∨ (location, .directory) ∈ files.nodes := by
  by_cases top : location = []
  · rw [top]
    exact iff_of_true rfl (Or.inl rfl)
  · rw [get?_eq_some_iff top, or_iff_right top]

private theorem distinct_set (files : FileSystem) (location : Location) (node : FileNode) :
    ((files.nodes.filter (·.1 ≠ location) ++ [(location, node)]).map Prod.fst).Nodup := by
  rw [List.map_append, List.nodup_append]
  refine ⟨(List.filter_sublist.map Prod.fst).nodup files.distinct, by simp, ?_⟩
  intro first kept second added same
  obtain ⟨entry, inside, rfl⟩ := List.mem_map.mp kept
  have moved := of_decide_eq_true (List.mem_filter.mp inside).2
  rw [List.map_singleton, List.mem_singleton] at added
  exact moved (same.trans added)

private theorem inPlace_set (files : FileSystem) {location : Location} (node : FileNode)
    (free : files.get? location ≠ some .directory) :
    files.workingDirectory = [] ∨ (files.workingDirectory, .directory) ∈
      files.nodes.filter (·.1 ≠ location) ++ [(location, node)] := by
  refine files.inPlace.imp_right fun member => ?_
  have apart : files.workingDirectory ≠ location := by
    intro same
    exact free (get?_eq_directory_iff.mpr (same ▸ files.inPlace))
  exact List.mem_append_left _ (List.mem_filter.mpr ⟨member, decide_eq_true apart⟩)

/-- Put a node at a location, in the place of a file or a link. A directory stays. -/
def set (files : FileSystem) (location : Location) (node : FileNode) : FileSystem :=
  if taken : files.get? location = some .directory then files
  else
    ⟨files.nodes.filter (·.1 ≠ location) ++ [(location, node)], files.workingDirectory,
      files.distinct_set location node, files.inPlace_set node taken⟩

def linkLimit : Nat := 40

def nameLimit : Nat := 255

def pathLimit : Nat := 4095

/-- Where a path counts from that stands in a directory. -/
def origin (directory : Location) (path : String) : Location :=
  if Path.isAbsolute path then [] else directory

/-- Follow pieces of a path from a location. The directory above the top is the top. `onLink` goes on
with the pieces of a link's target and those that are left. -/
def descend (files : FileSystem) (onLink : Location → List String → Except FileFault Location) :
    Location → List String → Except FileFault Location
  | location, [] => .ok location
  | location, piece :: rest =>
    if files.get? location = some .directory then
      if Path.isIdle piece then descend files onLink location rest
      else if piece = ".." then descend files onLink location.dropLast rest
      else if nameLimit < piece.utf8ByteSize then .error .nameTooLong
      else
        match files.get? (location ++ [piece]) with
        | none => .error .notFound
        | some (.link target) => onLink (origin location target) (Path.pieces target ++ rest)
        | some _ => descend files onLink (location ++ [piece]) rest
    else .error .notDirectory

def follow (files : FileSystem) : Nat → Location → List String → Except FileFault Location
  | 0 => files.descend fun _ _ => .error .tooManyLinks
  | links + 1 => files.descend (follow files links)

/-- Make the directories that pieces of a path name from a location on, and say where they lead. -/
def addDirectories (files : FileSystem) (location : Location) : List String →
    FileSystem × Location
  | [] => (files, location)
  | piece :: rest =>
    match files.follow linkLimit location [piece] with
    | .ok below => addDirectories files below rest
    | .error _ =>
      addDirectories (files.set (location ++ [piece]) .directory) (location ++ [piece]) rest

def addDirectory (files : FileSystem) (path : String) : FileSystem :=
  (files.addDirectories (origin files.workingDirectory path) (Path.pieces path)).1

def enter (files : FileSystem) (path : String) : FileSystem :=
  let (made, location) :=
    files.addDirectories (origin files.workingDirectory path) (Path.pieces path)
  if isDirectory : made.get? location = some .directory then
    ⟨made.nodes, location, made.distinct, get?_eq_directory_iff.mp isDirectory⟩
  else made

def addNode (files : FileSystem) (path : String) (node : FileNode) : FileSystem :=
  let pieces := Path.pieces path
  let (files, location) :=
    files.addDirectories (origin files.workingDirectory path) pieces.dropLast
  files.set (location ++ pieces.getLast?.toList) node

def addFile (files : FileSystem) (path : String) (contents : List UInt8) : FileSystem :=
  files.addNode path (.file contents)

def addLink (files : FileSystem) (path target : String) : FileSystem :=
  files.addNode path (.link target)

def locate (files : FileSystem) (path : String) : Except FileFault Location :=
  if Char.ofNat 0 ∈ path.toList then .error .nulInPath
  else if path = "" then .error .notFound
  else if pathLimit < path.utf8ByteSize then .error .nameTooLong
  else files.follow linkLimit (origin files.workingDirectory path) (Path.pieces path)

def stat (files : FileSystem) (path : String) : Except FileFault (Location × FileNode) :=
  match files.locate path with
  | .error fault => .error fault
  | .ok location =>
    match files.get? location with
    | some node => .ok (location, node)
    | none => .error .notFound

def isDirectory (files : FileSystem) (path : String) : Bool :=
  match files.stat path with
  | .ok (_, .directory) => true
  | _ => false

def isFile (files : FileSystem) (path : String) : Bool :=
  match files.stat path with
  | .ok (_, .file _) => true
  | _ => false

def decode (contents : List UInt8) : Except FileFault String :=
  match String.fromUTF8? ⟨contents.toArray⟩ with
  | some text => .ok text
  | none => .error .notText

def readText (files : FileSystem) (path : String) : Except FileFault String :=
  match files.stat path with
  | .error fault => .error fault
  | .ok (_, .file contents) => decode contents
  | .ok (_, _) => .error .isDirectory

end FileSystem

end InjectionLint
