import InjectionLint.Toml.Scalar
import InjectionLint.Toml.Table

/-!
The grammar of TOML 1.1 documents: lines that are empty, define a key, or name the table that the next
keys belong to. Arrays and inline tables may run over several lines, end with a comma and hold
comments; `nestingLimit` bounds how deep they stand in one another.
-/

set_option autoImplicit false

namespace InjectionLint

namespace Toml

/-- Arrays and inline tables inside one another beyond this depth are refused. -/
def nestingLimit : Nat := 80

def skipSpaces (text : List Char) : List Char :=
  text.dropWhile isSpace

def skipComment : List Char → List Char
  | '#' :: rest => rest.dropWhile isPrintable
  | text => text

def skipLines : Nat → List Char → List Char
  | 0, text => text
  | fuel + 1, text =>
    let rest := skipComment (skipSpaces text)
    match lineEnd? rest with
    | some next => skipLines fuel next
    | none => rest

def skipTrivia (text : List Char) : List Char :=
  skipLines text.length text

def endOfLine? (text : List Char) : Option (List Char) :=
  match skipComment (skipSpaces text) with
  | [] => some []
  | rest => lineEnd? rest

def char? (expected : Char) : List Char → Option (List Char)
  | c :: rest => if c = expected then some rest else none
  | [] => none

def isBareKey (c : Char) : Bool :=
  c.isAlphanum || c = '_' || c = '-'

def keyPart : Reader String := fun text =>
  match text.takeWhile isBareKey with
  | [] => (quotedLine text).map fun (key, rest) => (String.ofList key, rest)
  | word => some (String.ofList word, text.dropWhile isBareKey)

def keyParts : Nat → Reader (List String)
  | 0, _ => none
  | fuel + 1, text => do
    let (part, rest) ← keyPart text
    match skipSpaces rest with
    | '.' :: more =>
      let (parts, rest) ← keyParts fuel (skipSpaces more)
      pure (part :: parts, rest)
    | rest => pure ([part], rest)

def key : Reader (List String) := fun text =>
  keyParts text.length text

def arrayItems (item : Reader Value) : Nat → Reader (List Value)
  | 0, _ => none
  | fuel + 1, text =>
    match skipTrivia text with
    | ']' :: rest => some ([], rest)
    | text => do
      let (value, rest) ← item text
      match skipTrivia rest with
      | ',' :: rest =>
        let (values, rest) ← arrayItems item fuel rest
        pure (value :: values, rest)
      | ']' :: rest => pure ([value], rest)
      | _ => none

def assignment (item : Reader Value) : Reader (List String × Value) := fun text => do
  let (path, rest) ← key text
  let rest ← char? '=' rest
  let (value, rest) ← item (skipSpaces rest)
  pure ((path, value), rest)

def inlineEntries (item : Reader Value) : Nat → Entries → Reader Entries
  | 0, _, _ => none
  | fuel + 1, entries, text =>
    match skipTrivia text with
    | '}' :: rest => some (entries, rest)
    | text => do
      let ((path, value), rest) ← assignment item text
      let entries ← entries.insert? value path
      match skipTrivia rest with
      | ',' :: rest => inlineEntries item fuel entries rest
      | '}' :: rest => pure (entries, rest)
      | _ => none

/-- A value with arrays and inline tables at most `depth` deep. -/
def value : Nat → Reader Value
  | depth, '[' :: rest =>
    match depth with
    | 0 => none
    | depth + 1 => do
      let (items, rest) ← arrayItems (value depth) (rest.length + 1) rest
      pure (.array items, rest)
  | depth, '{' :: rest =>
    match depth with
    | 0 => none
    | depth + 1 => do
      let (entries, rest) ← inlineEntries (value depth) (rest.length + 1) [] rest
      pure (.table (entryValues entries), rest)
  | _, text =>
    match text with
    | '"' :: _ => (quoted text).map fun (content, rest) => (.string (String.ofList content), rest)
    | c :: _ =>
      if c = apostrophe then
        (quoted text).map fun (content, rest) => (.string (String.ofList content), rest)
      else bare text
    | [] => none

structure Draft where
  entries : Entries
  path : List String

namespace Draft

def assign? (draft : Draft) (path : List String) (value : Value) : Option Draft := do
  let entries ← draft.entries.update? (Entries.insert? value path) draft.path
  pure ⟨entries, draft.path⟩

def enter? (draft : Draft) (path : List String) : Option Draft := do
  let name ← path.getLast?
  let entries ← draft.entries.update? (Entries.define? name) path.dropLast
  pure ⟨entries, path⟩

def repeat? (draft : Draft) (path : List String) : Option Draft := do
  let name ← path.getLast?
  let entries ← draft.entries.update? (Entries.extend? name) path.dropLast
  pure ⟨entries, path⟩

end Draft

def statement (draft : Draft) : Reader Draft
  | '[' :: '[' :: rest => do
    let (path, rest) ← key (skipSpaces rest)
    let rest ← char? ']' rest
    let rest ← char? ']' rest
    pure (← draft.repeat? path, rest)
  | '[' :: rest => do
    let (path, rest) ← key (skipSpaces rest)
    let rest ← char? ']' rest
    pure (← draft.enter? path, rest)
  | text => do
    let ((path, value), rest) ← assignment (value nestingLimit) text
    pure (← draft.assign? path value, rest)

def statements : Nat → Draft → List Char → Option Draft
  | 0, _, _ => none
  | fuel + 1, draft, text =>
    match skipTrivia text with
    | [] => some draft
    | text => do
      let (draft, rest) ← statement draft text
      statements fuel draft (← endOfLine? rest)

/-- A byte order mark may come first. -/
def dropMark : List Char → List Char
  | c :: rest => if c.toNat = 0xFEFF then rest else c :: rest
  | [] => []

def parse? (document : String) : Option (List (String × Value)) :=
  let text := dropMark document.toList
  (statements (text.length + 1) ⟨[], []⟩ text).map fun draft => entryValues draft.entries

end Toml

end InjectionLint
