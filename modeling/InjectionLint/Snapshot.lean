import InjectionLint.Expression.Literal
import InjectionLint.Files.System
import InjectionLint.Parse

/-!
A project at rest: its files together with the syntax trees that a parser made of them. A snapshot is
written in lines whose fields stand between tabs.

    working    PATH
    directory  PATH
    file       PATH   CONTENTS
    tree       GRAMMAR
    node       DEPTH  KIND  START  STOP  FIELD  FLAGS
    link       PATH   TARGET

A working directory is made and entered, and relative paths below its line count from there; those above
the first such line count from `/project`. Contents are pairs of hexadecimal digits. The trees of a file stand below it, in pre-order; their flags
are `a` for a node without a name, `e` and `m` for unexpected and missing text, and `h` for damage in or
below the node.
-/

set_option autoImplicit false

namespace InjectionLint

structure SourceTree where
  grammar : Grammar
  source : String
  tree : Tree

structure Snapshot where
  files : FileSystem
  trees : List SourceTree

namespace Snapshot

/-- A program without any statement, for texts whose tree is not there. -/
def blankTree : Tree :=
  .node ⟨.program, 0, 0, none, true, none, false⟩ []

def parser (snapshot : Snapshot) : Parser := fun grammar source =>
  match snapshot.trees.find? fun entry => entry.grammar = grammar && entry.source = source with
  | some entry => entry.tree
  | none => blankTree

def faultOfFlags (flags : List Char) : Option Fault :=
  if 'm' ∈ flags then some .missing
  else if 'e' ∈ flags then some .unexpected
  else none

def label (kind : String) (start stop : Nat) (field : String) (flags : List Char) : Label :=
  ⟨.ofName kind, start, stop, Field.ofName? field, !('a' ∈ flags), faultOfFlags flags, 'h' ∈ flags⟩

def grammar? : String → Option Grammar
  | "javascript" => some .javascript
  | "typescript" => some .typescript
  | "tsx" => some .tsx
  | _ => none

def bytes? : List Char → Option (List UInt8)
  | [] => some []
  | high :: low :: rest => do
    let value ← Literal.hexFrom? 0 [high, low]
    pure (UInt8.ofNat value :: (← bytes? rest))
  | [_] => none

inductive Entry where
  | working (path : String)
  | directory (path : String)
  | file (path : String) (contents : List UInt8) (trees : List (Grammar × Tree))
  | link (path target : String)

/-- What has been read from the end of a snapshot: nodes whose tree and trees whose file is still to
come, and the entries below. -/
structure Tail where
  nodes : List (Nat × Label)
  trees : List (Grammar × Tree)
  entries : List Entry

def Tail.addLine (line : String) (tail : Tail) : Option Tail :=
  match (Text.splitAt '\t' line.toList).map String.ofList with
  | ["working", path] => some { tail with entries := .working path :: tail.entries }
  | ["directory", path] => some { tail with entries := .directory path :: tail.entries }
  | ["link", path, target] => some { tail with entries := .link path target :: tail.entries }
  | ["file", path, contents] => do
    let bytes ← bytes? contents.toList
    pure ⟨[], [], .file path bytes tail.trees :: tail.entries⟩
  | ["tree", name] => do
    let tree ← Tree.ofPreorder? tail.nodes
    pure { tail with nodes := [], trees := (← grammar? name, tree) :: tail.trees }
  | ["node", depth, kind, start, stop, field, flags] => do
    let label := label kind (← start.toNat?) (← stop.toNat?) field flags.toList
    pure { tail with nodes := (← depth.toNat?, label) :: tail.nodes }
  | _ => none

def entries? (lines : List String) : Option (List Entry) := do
  let tail ← lines.foldrM Tail.addLine ⟨[], [], []⟩
  if tail.nodes.isEmpty && tail.trees.isEmpty then some tail.entries else none

def addEntry (snapshot : Snapshot) : Entry → Snapshot
  | .working path => { snapshot with files := snapshot.files.enter path }
  | .directory path => { snapshot with files := snapshot.files.addDirectory path }
  | .link path target => { snapshot with files := snapshot.files.addLink path target }
  | .file path contents trees =>
    ⟨snapshot.files.addFile path contents,
      snapshot.trees ++
        match FileSystem.decode contents with
        | .ok source => trees.map fun (grammar, tree) => ⟨grammar, source, tree⟩
        | .error _ => []⟩

def ofEntries (entries : List Entry) : Snapshot :=
  entries.foldl addEntry ⟨FileSystem.empty.enter "/project", []⟩

def parse? (text : String) : Option Snapshot :=
  let lines := ((Text.splitAt '\n' text.toList).filter fun line => !line.isEmpty).map String.ofList
  (entries? lines).map ofEntries

end Snapshot

end InjectionLint
