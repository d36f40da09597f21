import InjectionLint.CommandLine.Color
import InjectionLint.Config.Basic
import InjectionLint.Log.Filter

/-!
The options of the command line. Words are read from left to right. The value of an option is checked
only when the next option or path comes up, or at the end; a word that means nothing stops the reading
at once, before a value that is still unchecked.
-/

set_option autoImplicit false

namespace InjectionLint

namespace CommandLine

structure Options where
  path : String
  config : Option String
  extensions : Option (List String)
  ignored : Option (List String)
  color : ColorMode
  noBanner : Bool
  /-- How much to log; at most 255. -/
  verbosity : Nat
  deriving DecidableEq, Repr

namespace Options

def overrides (options : Options) : Overrides :=
  ⟨options.extensions, options.ignored⟩

def logLevel (options : Options) : Log.Level :=
  match options.verbosity with
  | 0 => .warn
  | 1 => .info
  | 2 => .debug
  | _ => .trace

end Options

inductive Halt where
  | invalidValue
  | unknownArgument
  | repeatedOption
  | unwantedValue
  | help
  | version
  deriving DecidableEq, Repr

inductive Word where
  | endOfOptions
  | long (name : List Char) (value : Option (List Char))
  | letters (letters : List Char)
  | plain (text : List Char)
  deriving DecidableEq, Repr

/-- A single hyphen is a plain word. -/
def Word.ofText : List Char → Word
  | ['-', '-'] => .endOfOptions
  | '-' :: '-' :: rest =>
    .long (rest.takeWhile (· ≠ '=')) (rest.dropWhile (· ≠ '=')).tail?
  | '-' :: letter :: rest => .letters (letter :: rest)
  | text => .plain text

inductive Slot where
  | path
  | config
  | extensions
  | ignored
  | color
  deriving DecidableEq, Repr

inductive Switch where
  | noBanner
  | verbose
  | help
  | version
  deriving DecidableEq, Repr

inductive Flag where
  | slot (slot : Slot)
  | switch (switch : Switch)
  deriving DecidableEq, Repr

namespace Flag

def ofName? (name : List Char) : Option Flag :=
  match String.ofList name with
  | "config" => some (.slot .config)
  | "ext" => some (.slot .extensions)
  | "exclude" => some (.slot .ignored)
  | "color" => some (.slot .color)
  | "no-banner" => some (.switch .noBanner)
  | "verbose" => some (.switch .verbose)
  | "help" => some (.switch .help)
  | "version" => some (.switch .version)
  | _ => none

def ofLetter? : Char → Option Flag
  | 'c' => some (.slot .config)
  | 'v' => some (.switch .verbose)
  | 'h' => some (.switch .help)
  | 'V' => some (.switch .version)
  | _ => none

end Flag

structure Reading where
  path : Option String
  config : Option String
  extensions : Option (List String)
  ignored : Option (List String)
  color : Option ColorMode
  noBanner : Bool
  verbosity : Nat
  /-- The slot that was named last and its value, unless that is still to come; not yet checked. -/
  pending : Option (Slot × Option (List Char))
  deriving DecidableEq, Repr

namespace Reading

def start : Reading :=
  ⟨none, none, none, none, none, false, 0, none⟩

def extend (present : Option (List String)) (value : List Char) : Option (List String) :=
  some (present.getD [] ++ (Text.splitAt ',' value).map String.ofList)

def newPath (present : Option String) (value : List Char) : Except Halt (Option String) :=
  if present.isSome then .error .repeatedOption
  else if value.isEmpty then .error .invalidValue
  else .ok (some (String.ofList value))

def fill (reading : Reading) (slot : Slot) (value : List Char) : Except Halt Reading :=
  match slot with
  | .path => do pure { reading with path := ← newPath reading.path value }
  | .config => do pure { reading with config := ← newPath reading.config value }
  | .extensions => .ok { reading with extensions := extend reading.extensions value }
  | .ignored => .ok { reading with ignored := extend reading.ignored value }
  | .color =>
    if reading.color.isSome then .error .repeatedOption
    else
      match ColorMode.ofName? (String.ofList value) with
      | some mode => .ok { reading with color := some mode }
      | none => .error .invalidValue

def settle (reading : Reading) : Except Halt Reading :=
  match reading.pending with
  | none => .ok reading
  | some (_, none) => .error .invalidValue
  | some (slot, some value) => fill { reading with pending := none } slot value

def await (reading : Reading) (slot : Slot) (value : Option (List Char)) : Except Halt Reading := do
  pure { ← reading.settle with pending := some (slot, value) }

def assign (reading : Reading) (slot : Slot) (value : List Char) : Except Halt Reading := do
  fill (← reading.settle) slot value

def turnOn (reading : Reading) (switch : Switch) : Except Halt Reading := do
  let reading ← reading.settle
  match switch with
  | .noBanner =>
    if reading.noBanner then .error .repeatedOption else .ok { reading with noBanner := true }
  | .verbose => .ok { reading with verbosity := min 255 (reading.verbosity + 1) }
  | .help => .error .help
  | .version => .error .version

/-- Read options of one letter. What follows the letter of a slot is its value. -/
def takeLetters (reading : Reading) : List Char → Except Halt Reading
  | [] => .ok reading
  | letter :: rest =>
    match Flag.ofLetter? letter with
    | none => .error .unknownArgument
    | some (.switch switch) => do takeLetters (← reading.turnOn switch) rest
    | some (.slot slot) =>
      match rest with
      | [] => reading.await slot none
      | '=' :: value => reading.assign slot value
      | value => reading.assign slot value

def takeLong (reading : Reading) (name : List Char) (value : Option (List Char)) :
    Except Halt Reading :=
  match Flag.ofName? name, value with
  | none, _ => .error .unknownArgument
  | some (.slot slot), none => reading.await slot none
  | some (.slot slot), some value => reading.assign slot value
  | some (.switch switch), none => reading.turnOn switch
  | some (.switch _), some _ => .error .unwantedValue

def hasPath (reading : Reading) : Bool :=
  reading.path.isSome || reading.pending.any (·.1 = .path)

def takePath (reading : Reading) (text : List Char) : Except Halt Reading :=
  if reading.hasPath then .error .unknownArgument else reading.await .path (some text)

/-- A plain word is the value of the option before it, if that lacks one, or else the path. -/
def takePlain (reading : Reading) (text : List Char) : Except Halt Reading :=
  match reading.pending with
  | some (slot, none) => .ok { reading with pending := some (slot, some text) }
  | _ => reading.takePath text

def takePaths : Reading → List (List Char) → Except Halt Reading
  | reading, [] => .ok reading
  | reading, text :: rest => do takePaths (← reading.takePath text) rest

def takeWords : Reading → List (List Char) → Except Halt Reading
  | reading, [] => .ok reading
  | reading, text :: rest =>
    match Word.ofText text with
    | .endOfOptions => takePaths reading rest
    | .long name value => do takeWords (← reading.takeLong name value) rest
    | .letters letters => do takeWords (← reading.takeLetters letters) rest
    | .plain text => do takeWords (← reading.takePlain text) rest

def colorVariable : String := "SQLINSPECT_COLOR"

def withEnvironment (reading : Reading) (environment : Environment) : Except Halt Reading :=
  match reading.color, environment.lookup colorVariable with
  | none, some value => reading.fill .color value.toList
  | _, _ => .ok reading

def toOptions (reading : Reading) : Options where
  path := reading.path.getD "."
  config := reading.config
  extensions := reading.extensions
  ignored := reading.ignored
  color := reading.color.getD .auto
  noBanner := reading.noBanner
  verbosity := reading.verbosity

end Reading

def Options.parse (environment : Environment) (arguments : List String) : Except Halt Options := do
  let reading ← Reading.start.takeWords (arguments.map String.toList)
  let reading ← reading.settle
  let reading ← reading.withEnvironment environment
  pure reading.toOptions

end CommandLine

end InjectionLint
