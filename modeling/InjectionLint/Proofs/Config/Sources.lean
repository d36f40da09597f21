import InjectionLint.Proofs.Config.Validation
import InjectionLint.Proofs.Files.Parent

/-!
Where the settings of a run come from: the command line, a file, and the defaults. A file named by the
user has to be right, and one of the scanned directory is used only if it is. Either is used as a whole
or not at all, and what a file that is used does not say keeps its default.

Main statement: `settings_follow_precedence`.
-/

set_option autoImplicit false

namespace InjectionLint

namespace Toml

private theorem mapM_string?_eq_some_iff {items : List Value} {texts : List String} :
    items.mapM Value.string? = some texts ↔ items = texts.map .string := by
  induction items generalizing texts with
  | nil => cases texts <;> simp
  | cons item rest ih =>
      cases item with
      | string text =>
          cases texts <;> simp [Value.string?, Option.bind_eq_some_iff, ih, and_comm]
      | _ => cases texts <;> simp [Value.string?]

theorem Value.strings?_eq_some_iff {value : Value} {texts : List String} :
    value.strings? = some texts ↔ value = .array (texts.map .string) := by
  cases value <;> simp [strings?, mapM_string?_eq_some_iff]

theorem Value.boolean?_eq_some_iff {value : Value} {answer : Bool} :
    value.boolean? = some answer ↔ value = .boolean answer := by
  cases value <;> simp [boolean?]

end Toml

namespace ScanConfig

open Toml (Value)

/-! ### What a document says -/

def valueOf? (config : ScanConfig) : String → Option Value
  | "extensions" => some (.array (config.extensions.map .string))
  | "exclude_dirs" => some (.array (config.excludeDirs.map .string))
  | "exclude_files" => some (.array (config.excludeFiles.map .string))
  | "ignore" => some (.array (config.ignored.map .string))
  | "follow_links" => some (.boolean config.followLinks)
  | _ => none

private theorem eq_of_valueOf? {first second : ScanConfig}
    (same : ∀ key, first.valueOf? key = second.valueOf? key) : first = second := by
  have texts : Function.Injective (List.map Value.string) :=
    List.map_injective_iff.mpr fun _ _ => Value.string.inj
  obtain ⟨_, _, _, _, _⟩ := first
  obtain ⟨_, _, _, _, _⟩ := second
  congr 1
  · exact texts (Value.array.inj (Option.some.inj (same "extensions")))
  · exact texts (Value.array.inj (Option.some.inj (same "exclude_dirs")))
  · exact texts (Value.array.inj (Option.some.inj (same "exclude_files")))
  · exact texts (Value.array.inj (Option.some.inj (same "ignore")))
  · exact Value.boolean.inj (Option.some.inj (same "follow_links"))

theorem valueOf?_setKey? {config result : ScanConfig} {key : String} {value : Value}
    (set : config.setKey? key value = some result) (other : String) :
    result.valueOf? other = if other = key then some value else config.valueOf? other := by
  unfold setKey? at set
  split at set
  case h_6 => cases set
  all_goals
    obtain ⟨content, isContent, rfl⟩ := Option.map_eq_some_iff.mp set
    simp only [Value.strings?_eq_some_iff, Value.boolean?_eq_some_iff] at isContent
    subst isContent
    split
    · rename_i here
      rw [here]
      rfl
    · rename_i elsewhere
      unfold valueOf?
      split <;> first | rfl | contradiction

private theorem exists_setKey? {other : ScanConfig} {key : String} {value : Value}
    (allowed : other.valueOf? key = some value) (config : ScanConfig) :
    ∃ result, config.setKey? key value = some result := by
  unfold valueOf? at allowed
  split at allowed
  case h_6 => cases allowed
  case h_5 =>
    cases allowed
    exact ⟨_, rfl⟩
  all_goals
    cases allowed
    simp only [setKey?, Value.strings?_eq_some_iff.mpr rfl, Option.map_some]
    exact ⟨_, rfl⟩

/-- Setting keys one after another, the last value of each key counts. -/
theorem setKeys?_eq_some_iff {config result : ScanConfig} {given : List (String × Value)} :
    config.setKeys? given = some result ↔
      (∀ entry ∈ given, ∃ other : ScanConfig, other.valueOf? entry.1 = some entry.2) ∧
        ∀ key, result.valueOf? key = (given.reverse.lookup key).or (config.valueOf? key) := by
  induction given generalizing config with
  | nil =>
      rw [setKeys?]
      constructor
      · intro same
        cases same
        exact ⟨nofun, fun key => rfl⟩
      · rintro ⟨_, same⟩
        exact congrArg some (eq_of_valueOf? same).symm
  | cons entry rest ih =>
      obtain ⟨name, value⟩ := entry
      have first : config.setKeys? ((name, value) :: rest) = some result ↔
          ∃ next, config.setKey? name value = some next ∧ next.setKeys? rest = some result := by
        rw [setKeys?]
        exact Option.bind_eq_some_iff
      -- The value set first counts for its own key, and there only if no later one does.
      have last : ∀ key, (((name, value) :: rest).reverse.lookup key).or (config.valueOf? key) =
          (rest.reverse.lookup key).or (if key = name then some value else config.valueOf? key) := by
        intro key
        rw [List.reverse_cons, List.lookup_append, Option.or_assoc]
        congr 1
        split
        · rename_i here
          rw [here, List.lookup_cons_self, Option.some_or]
        · rename_i elsewhere
          rw [List.lookup_cons, beq_false_of_ne elsewhere, List.lookup_nil, Option.none_or]
      rw [first, List.forall_mem_cons]
      constructor
      · rintro ⟨next, set, further⟩
        obtain ⟨allowed, chosen⟩ := ih.mp further
        have now := valueOf?_setKey? set
        refine ⟨⟨⟨next, by rw [now, if_pos rfl]⟩, allowed⟩, ?_⟩
        intro key
        rw [chosen, last, now]
      · rintro ⟨⟨⟨other, allowed⟩, allowedRest⟩, chosen⟩
        obtain ⟨next, set⟩ := exists_setKey? allowed config
        refine ⟨next, set, ih.mpr ⟨allowedRest, ?_⟩⟩
        intro key
        rw [chosen, last, valueOf?_setKey? set]

/-- The keys of settings that the table of a document gives, with their values. An array gives them in
their order. -/
def given? : List (String × Value) → Option (List (String × Value))
  | [] => some []
  | [("scan", .table entries)] => some entries
  | [("scan", .array items)] => some (keys.zip items)
  | _ => none

/-- The settings that a document describes: it gives no value that settings cannot have, and under each
key they hold the value given, the last one if there are several, or else the default. -/
def Describes (document : String) (written : ScanConfig) : Prop :=
  ∃ entries given, Toml.parse? document = some entries ∧ given? entries = some given ∧
    (∀ entry ∈ given, ∃ other : ScanConfig, other.valueOf? entry.1 = some entry.2) ∧
    ∀ key, written.valueOf? key = (given.reverse.lookup key).or (default.valueOf? key)

private theorem ofEntries?_eq_some_iff {entries : List (String × Value)} {written : ScanConfig} :
    ofEntries? entries = some written ↔
      ∃ given, given? entries = some given ∧ default.setKeys? given = some written := by
  unfold ofEntries? given?
  split
  · simp [setKeys?]
  · rename_i value
    cases value <;> simp [ofValue?]
  · rename_i notEmpty notScan
    split <;> simp_all

theorem parse_eq_ok_iff {document : String} {config : ScanConfig} :
    parse document = .ok config ↔
      ∃ written, Describes document written ∧ written.Acceptable ∧ config = written.normalized := by
  have described : ∀ written, (Toml.parse? document).bind ofEntries? = some written ↔
      Describes document written := by
    intro written
    simp only [Option.bind_eq_some_iff, ofEntries?_eq_some_iff, setKeys?_eq_some_iff, Describes,
      exists_and_left]
  unfold parse
  split
  · rename_i written found
    rw [validate_eq_ok_iff]
    constructor
    · rintro ⟨acceptable, rfl⟩
      exact ⟨written, (described written).mp found, acceptable, rfl⟩
    · rintro ⟨other, describes, accepted⟩
      rw [(described other).mpr describes] at found
      cases found
      exact accepted
  · rename_i nothing
    constructor
    · intro impossible
      cases impossible
    · rintro ⟨written, describes, _⟩
      rw [(described written).mpr describes] at nothing
      cases nothing

def Usable (files : FileSystem) (path : String) (written : ScanConfig) : Prop :=
  ∃ document, files.readText path = .ok document ∧ Describes document written ∧ written.Acceptable

theorem inFile?_eq_some_iff_usable {files : FileSystem} {path : String} {config : ScanConfig} :
    inFile? files path = some config ↔
      ∃ written, Usable files path written ∧ config = written.normalized := by
  simp only [inFile?_eq_some_iff, parse_eq_ok_iff, Usable]
  constructor
  · rintro ⟨document, read, written, describes, acceptable, final⟩
    exact ⟨written, ⟨document, read, describes, acceptable⟩, final⟩
  · rintro ⟨written, ⟨document, read, describes, acceptable⟩, final⟩
    exact ⟨document, read, written, describes, acceptable, final⟩

theorem inFile?_eq_none_iff {files : FileSystem} {path : String} :
    inFile? files path = none ↔ ∀ written, ¬Usable files path written := by
  rw [Option.eq_none_iff_forall_ne_some]
  constructor
  · intro nothing written usable
    exact nothing _ (inFile?_eq_some_iff_usable.mpr ⟨written, usable, rfl⟩)
  · intro unusable config found
    obtain ⟨written, usable, _⟩ := inFile?_eq_some_iff_usable.mp found
    exact unusable written usable

private theorem loadExplicit_of_unusable {files : FileSystem} {path : String}
    (unusable : ∀ written, ¬Usable files path written) :
    ∃ fault, loadExplicit files path = .silent (.error (.config fault)) := by
  have nothing := inFile?_eq_none_iff.mpr unusable
  unfold loadExplicit
  split
  · exact ⟨_, rfl⟩
  · rename_i document read
    split
    · exact ⟨_, rfl⟩
    · rename_i config parsed
      rw [inFile?_eq_some_iff.mpr ⟨document, read, parsed⟩] at nothing
      cases nothing

private theorem loadExplicit_congr {files others : FileSystem} {path : String}
    (same : others.readText path = files.readText path) :
    loadExplicit others path = loadExplicit files path := by
  unfold loadExplicit
  rw [same]

/-! ### What the command line puts in place -/

/-- The settings to scan with, from those that are written: the command line puts its values in their
place, and extensions are brought into the form in which they are compared. -/
def effective (written : ScanConfig) (overrides : Overrides) : ScanConfig where
  extensions := (overrides.extensions.getD written.extensions).map normalizeExtension
  excludeDirs := written.excludeDirs
  excludeFiles := written.excludeFiles
  ignored := overrides.ignored.getD written.ignored
  followLinks := written.followLinks

end ScanConfig

structure Overrides.Acceptable (overrides : Overrides) : Prop where
  nonempty : overrides.extensions ≠ some []
  known : ∀ extensions, overrides.extensions = some extensions → ∀ extension ∈ extensions,
    ∃ variant, Variant.ofExtension? (normalizeExtension extension) = some variant
  wellFormed : ∀ patterns, overrides.ignored = some patterns → ∀ pattern ∈ patterns,
    ∃ tokens, Glob.parse pattern = .ok tokens

theorem ScanConfig.acceptable_override_iff {written : ScanConfig} (acceptable : written.Acceptable)
    (overrides : Overrides) :
    (written.override overrides).Acceptable ↔ overrides.Acceptable := by
  obtain ⟨extensions, ignored⟩ := overrides
  obtain ⟨nonempty, known, wellFormed⟩ := acceptable
  constructor
  · rintro ⟨nonemptyMerged, knownMerged, wellFormedMerged⟩
    constructor
    · rintro ⟨⟩
      exact nonemptyMerged rfl
    · rintro given ⟨⟩
      exact knownMerged
    · rintro given ⟨⟩
      exact wellFormedMerged
  · rintro ⟨nonemptyGiven, knownGiven, wellFormedGiven⟩
    constructor
    · cases extensions with
      | none => exact nonempty
      | some given => exact fun empty => nonemptyGiven (congrArg some empty)
    · cases extensions with
      | none => exact known
      | some given => exact knownGiven given rfl
    · cases ignored with
      | none => exact wellFormed
      | some given => exact wellFormedGiven given rfl

namespace CommandLine

/-! ### The file in force -/

/-- The directory whose settings count for a path: the path itself if that leads to a directory, what
the path is in otherwise, and the working directory only for a path that is in nothing. -/
inductive ScannedDirectory (files : FileSystem) (path : String) : String → Prop where
  | itself {location : Location} (isDirectory : files.stat path = .ok (location, .directory)) :
      ScannedDirectory files path path
  | above {parent : String} (single : ∀ location, files.stat path ≠ .ok (location, .directory))
      (isParent : Path.IsParent parent path) : ScannedDirectory files path parent
  | working (single : ∀ location, files.stat path ≠ .ok (location, .directory))
      (nowhere : ∀ front, ¬Path.IsFront front path) : ScannedDirectory files path "."

/-- The settings in force before the command line has its say: those of the file that the user names,
else those of the file in the scanned directory, and the defaults if that one is of no use. -/
inductive InForce (files : FileSystem) (options : Options) : ScanConfig → Prop where
  | named {path : String} {written : ScanConfig} (named : options.config = some path)
      (usable : ScanConfig.Usable files path written) : InForce files options written
  | discovered {directory : String} {written : ScanConfig} (unnamed : options.config = none)
      (scanned : ScannedDirectory files options.path directory)
      (usable : ScanConfig.Usable files (Path.join directory ScanConfig.fileName) written) :
      InForce files options written
  | defaults {directory : String} (unnamed : options.config = none)
      (scanned : ScannedDirectory files options.path directory)
      (unusable : ∀ written,
        ¬ScanConfig.Usable files (Path.join directory ScanConfig.fileName) written) :
      InForce files options .default

private theorem isDirectory_iff {files : FileSystem} {path : String} :
    files.isDirectory path = true ↔ ∃ location, files.stat path = .ok (location, .directory) := by
  unfold FileSystem.isDirectory
  split
  · rename_i location found
    exact iff_of_true rfl ⟨location, found⟩
  · rename_i other
    refine iff_of_false Bool.false_ne_true ?_
    rintro ⟨location, found⟩
    exact other location found

theorem scannedDirectory_iff {files : FileSystem} {path directory : String} :
    ScannedDirectory files path directory ↔ configRoot files path = directory := by
  have single_iff : files.isDirectory path = false ↔
      ∀ location, files.stat path ≠ .ok (location, .directory) := by
    rw [← Bool.not_eq_true, isDirectory_iff, not_exists]
  unfold configRoot
  constructor
  · intro scanned
    cases scanned with
    | itself isDirectory => rw [if_pos (isDirectory_iff.mpr ⟨_, isDirectory⟩)]
    | above single isParent =>
        rw [single_iff.mpr single, Path.parent?_eq_some_iff.mpr isParent]
        rfl
    | working single nowhere =>
        rw [single_iff.mpr single, Path.parent?_eq_none_iff.mpr nowhere]
        rfl
  · rintro rfl
    by_cases isDirectory : files.isDirectory path = true
    · obtain ⟨location, found⟩ := isDirectory_iff.mp isDirectory
      rw [if_pos isDirectory]
      exact .itself found
    · have single := single_iff.mp (Bool.eq_false_iff.mpr isDirectory)
      rw [if_neg isDirectory]
      cases parent : Path.parent? path with
      | none => exact .working single (Path.parent?_eq_none_iff.mp parent)
      | some above => exact .above single (Path.parent?_eq_some_iff.mp parent)

variable {files : FileSystem} {options : Options} {written : ScanConfig}

theorem InForce.acceptable (inForce : InForce files options written) : written.Acceptable := by
  cases inForce with
  | named _ usable =>
      obtain ⟨_, _, _, acceptable⟩ := usable
      exact acceptable
  | discovered _ _ usable =>
      obtain ⟨_, _, _, acceptable⟩ := usable
      exact acceptable
  | defaults _ _ _ => exact (ScanConfig.validate_eq_ok_iff.mp ScanConfig.validate_default).1

theorem InForce.load_value (inForce : InForce files options written) :
    (ScanConfig.load files (configRoot files options.path) options.config).value =
      .ok written.normalized := by
  cases inForce with
  | named named usable =>
      rw [named]
      apply ScanConfig.loadExplicit_value_eq_ok_iff.mpr
      exact ScanConfig.inFile?_eq_some_iff_usable.mpr ⟨written, usable, rfl⟩
  | discovered unnamed scanned usable =>
      have found := ScanConfig.inFile?_eq_some_iff_usable.mpr ⟨written, usable, rfl⟩
      rw [unnamed, scannedDirectory_iff.mp scanned, ScanConfig.load_none_value, found]
      rfl
  | defaults unnamed scanned unusable =>
      have nothing := ScanConfig.inFile?_eq_none_iff.mpr unusable
      rw [unnamed, scannedDirectory_iff.mp scanned, ScanConfig.load_none_value, nothing]
      rfl

private theorem InForce.settings_value (inForce : InForce files options written) :
    (settings files options).value =
      (written.override options.overrides).validate.mapError
        (⟨"Invalid command-line options", .config ·⟩) := by
  have validated := ScanConfig.validate_eq_ok_iff.mpr ⟨inForce.acceptable, rfl⟩
  rw [settings_value_of_loaded inForce.load_value,
    ScanConfig.validate_override_of_validated validated]

theorem exists_inForce (files : FileSystem) (unnamed : options.config = none) :
    ∃ written, InForce files options written := by
  have scanned := scannedDirectory_iff.mpr (Eq.refl (configRoot files options.path))
  by_cases usable : ∃ written, ScanConfig.Usable files
      (Path.join (configRoot files options.path) ScanConfig.fileName) written
  · obtain ⟨written, usable⟩ := usable
    exact ⟨written, .discovered unnamed scanned usable⟩
  · exact ⟨.default, .defaults unnamed scanned (not_exists.mp usable)⟩

theorem settings_of_unusable {path : String} (named : options.config = some path)
    (unusable : ∀ written, ¬ScanConfig.Usable files path written) :
    ∃ fault, ∀ others : FileSystem, others.readText path = files.readText path →
      settings others options =
        .silent (.error ⟨"Failed to load configuration", .config fault⟩) := by
  obtain ⟨fault, failed⟩ := ScanConfig.loadExplicit_of_unusable unusable
  refine ⟨fault, ?_⟩
  intro others same
  have loads : ScanConfig.load others (configRoot others options.path) options.config =
      .silent (.error (.config fault)) := by
    rw [named, ← failed, ← ScanConfig.loadExplicit_congr same]
    rfl
  rw [settings, loads]
  rfl

theorem settings_eq_ok_iff {config : ScanConfig} :
    (settings files options).value = .ok config ↔
      ∃ written, InForce files options written ∧ options.overrides.Acceptable ∧
        config = written.effective options.overrides := by
  -- Settings in force are loaded in their final form, so the second validation decides as if it were
  -- the only one.
  have merged : ∀ written, InForce files options written →
      ((settings files options).value = .ok config ↔ options.overrides.Acceptable ∧
        config = written.effective options.overrides) := by
    intro written inForce
    rw [inForce.settings_value, ← ScanConfig.acceptable_override_iff inForce.acceptable]
    change _ ↔ _ ∧ config = (written.override options.overrides).normalized
    rw [← ScanConfig.validate_eq_ok_iff]
    cases (written.override options.overrides).validate with
    | error fault => simp [Except.mapError]
    | ok valid => simp [Except.mapError]
  constructor
  · intro found
    obtain ⟨written, inForce⟩ : ∃ written, InForce files options written := by
      cases named : options.config with
      | none => exact exists_inForce files named
      | some path =>
          by_contra nothing
          have unusable : ∀ written, ¬ScanConfig.Usable files path written := by
            intro written usable
            exact nothing ⟨written, .named named usable⟩
          obtain ⟨fault, failed⟩ := settings_of_unusable named unusable
          rw [failed files rfl] at found
          cases found
    exact ⟨written, inForce, (merged written inForce).mp found⟩
  · rintro ⟨written, inForce, accepted⟩
    exact (merged written inForce).mpr accepted

private theorem scan_value_of_settings {config : ScanConfig}
    (found : (settings files options).value = .ok config) (parser : Parser) :
    (scan parser files options).value =
      (scanProject parser files options.path config).value.mapError
        (⟨s!"Failed to scan {options.path}", ·⟩) := by
  simp only [scan, Logged.andThenOk, Logged.andThen, found, during]

private theorem runOptions_of_failure {parser : Parser} {failure : Failure}
    (failed : scan parser files options = .silent (.error failure)) (environment : Environment) :
    (runOptions parser files environment options).exitCode = 1 ∧
      (runOptions parser files environment options).stdout = "" := by
  simp only [runOptions, failed, Logged.silent, and_self]

end CommandLine

/-- A run scans with the extensions and patterns of the command line if it gives them, and with what the
file in force says otherwise, where a file leaves the default of each key that it does not give. The
file in force is the one that the user names, else that of the scanned directory, of which there is
exactly one, if it can be read and describes valid settings. If it does not, the run goes on as if it
were not there, and can only fail because of the command line. A file named by the user has to be right:
if not, the run fails, without a log record and in the same way whatever else the file system holds, so
that no other file has been read. -/
theorem settings_follow_precedence (files : FileSystem) (options : CommandLine.Options) :
    (∃! directory, CommandLine.ScannedDirectory files options.path directory) ∧
    (∀ config, (CommandLine.settings files options).value = .ok config ↔
      ∃ written, CommandLine.InForce files options written ∧ options.overrides.Acceptable ∧
        config = written.effective options.overrides) ∧
    (∀ parser config, (CommandLine.settings files options).value = .ok config →
      (CommandLine.scan parser files options).value =
        (scanProject parser files options.path config).value.mapError
          (⟨s!"Failed to scan {options.path}", ·⟩)) ∧
    (options.config = none →
      ((∃ config, (CommandLine.settings files options).value = .ok config) ↔
        options.overrides.Acceptable) ∧
      ∀ directory, CommandLine.ScannedDirectory files options.path directory →
        (∀ written,
          ¬ScanConfig.Usable files (Path.join directory ScanConfig.fileName) written) →
        options.overrides.Acceptable →
        (CommandLine.settings files options).value =
          .ok (ScanConfig.default.effective options.overrides)) ∧
    ∀ path, options.config = some path → (∀ written, ¬ScanConfig.Usable files path written) →
      ∃ fault, ∀ parser others environment, others.readText path = files.readText path →
        CommandLine.scan parser others options =
          .silent (.error ⟨"Failed to load configuration", .config fault⟩) ∧
        (CommandLine.runOptions parser others environment options).exitCode = 1 ∧
        (CommandLine.runOptions parser others environment options).stdout = "" := by
  refine ⟨?_, fun config => CommandLine.settings_eq_ok_iff, ?_, ?_, ?_⟩
  · refine ⟨_, CommandLine.scannedDirectory_iff.mpr rfl, ?_⟩
    intro directory scanned
    exact (CommandLine.scannedDirectory_iff.mp scanned).symm
  · intro parser config found
    exact CommandLine.scan_value_of_settings found parser
  · intro unnamed
    obtain ⟨written, inForce⟩ := CommandLine.exists_inForce files unnamed
    refine ⟨⟨?_, ?_⟩, ?_⟩
    · rintro ⟨config, found⟩
      obtain ⟨_, _, acceptable, _⟩ := CommandLine.settings_eq_ok_iff.mp found
      exact acceptable
    · intro acceptable
      exact ⟨_, CommandLine.settings_eq_ok_iff.mpr ⟨written, inForce, acceptable, rfl⟩⟩
    · intro directory scanned unusable acceptable
      exact CommandLine.settings_eq_ok_iff.mpr
        ⟨.default, .defaults unnamed scanned unusable, acceptable, rfl⟩
  · intro path named unusable
    obtain ⟨fault, failed⟩ := CommandLine.settings_of_unusable named unusable
    refine ⟨fault, ?_⟩
    intro parser others environment same
    have stopped : CommandLine.scan parser others options =
        .silent (.error ⟨"Failed to load configuration", .config fault⟩) := by
      rw [CommandLine.scan, failed others same]
      rfl
    exact ⟨stopped, CommandLine.runOptions_of_failure stopped environment⟩

def configuredFiles : FileSystem where
  nodes :=
    [(["work"], .directory),
      (["work", ".sqlinspect.toml"],
        .file "[scan]\nextensions = [\".TS\"]\nexclude_dirs = [\"vendor\"]\n".toUTF8.toList),
      (["work", "sub"], .directory),
      (["work", "sub", ".sqlinspect.toml"],
        .file "[scan]\nfollow_links = false\nextensions = []\n".toUTF8.toList),
      (["work", "lib"], .directory),
      (["work", "lib", ".sqlinspect.toml"],
        .file "[scan]\nexclude_files = [\"b.js\"]\n".toUTF8.toList),
      (["work", "lib", "a.js"], .file [])]
  workingDirectory := ["work"]
  distinct := by decide
  inPlace := by decide

def ignoringOptions : CommandLine.Options :=
  { plainOptions with ignored := some ["dist/**"] }

/-- The upper directory is scanned with its own settings and the pattern of the command line. Those of
the lower one are dropped altogether, and are fatal if they are asked for by name. A single file is
scanned with the settings beside it. -/
theorem partly_valid_settings_dropped_or_fatal :
    (∃ written, CommandLine.InForce configuredFiles ignoringOptions written ∧
      (⟨["ts"], ["vendor"], [], ["dist/**"], true⟩ : ScanConfig) =
        written.effective ignoringOptions.overrides) ∧
    (CommandLine.settings configuredFiles { ignoringOptions with path := "sub" }).value =
      .ok ⟨["js"], ["node_modules"], [], ["dist/**"], true⟩ ∧
    (∃ fault, ∀ parser environment,
      CommandLine.scan parser configuredFiles
          { ignoringOptions with config := some "sub/.sqlinspect.toml" } =
        .silent (.error ⟨"Failed to load configuration", .config fault⟩) ∧
      (CommandLine.runOptions parser configuredFiles environment
        { ignoringOptions with config := some "sub/.sqlinspect.toml" }).exitCode = 1) ∧
    (∃ written, CommandLine.InForce configuredFiles { ignoringOptions with path := "lib/a.js" }
        written ∧
      (⟨["js"], ["node_modules"], ["b.js"], ["dist/**"], true⟩ : ScanConfig) =
        written.effective ignoringOptions.overrides) ∧
    ∀ directory, CommandLine.ScannedDirectory configuredFiles "lib/a.js" directory ↔
      directory = "lib" := by
  have unusable : ∀ written,
      ¬ScanConfig.Usable configuredFiles "sub/.sqlinspect.toml" written :=
    ScanConfig.inFile?_eq_none_iff.mp (by decide +kernel)
  have acceptable : ignoringOptions.overrides.Acceptable := by
    refine ⟨nofun, nofun, ?_⟩
    rintro patterns ⟨⟩ pattern member
    cases List.mem_singleton.mp member
    exact ⟨_, rfl⟩
  have beside : CommandLine.ScannedDirectory configuredFiles "lib/a.js" "lib" :=
    CommandLine.scannedDirectory_iff.mpr (by decide +kernel)
  refine ⟨?_, ?_, ?_, ?_, ?_⟩
  · obtain ⟨_, merged, _⟩ := settings_follow_precedence configuredFiles ignoringOptions
    have found : (CommandLine.settings configuredFiles ignoringOptions).value =
        .ok ⟨["ts"], ["vendor"], [], ["dist/**"], true⟩ := by decide +kernel
    obtain ⟨written, inForce, _, same⟩ := (merged _).mp found
    exact ⟨written, inForce, same⟩
  · obtain ⟨_, _, _, goesOn, _⟩ :=
      settings_follow_precedence configuredFiles { ignoringOptions with path := "sub" }
    have scanned : CommandLine.ScannedDirectory configuredFiles "sub" "sub" :=
      CommandLine.scannedDirectory_iff.mpr (by decide +kernel)
    exact (goesOn rfl).2 "sub" scanned unusable acceptable
  · obtain ⟨_, _, _, _, fatal⟩ := settings_follow_precedence configuredFiles
      { ignoringOptions with config := some "sub/.sqlinspect.toml" }
    obtain ⟨fault, failed⟩ := fatal _ rfl unusable
    refine ⟨fault, ?_⟩
    intro parser environment
    obtain ⟨stopped, exit, _⟩ := failed parser configuredFiles environment rfl
    exact ⟨stopped, exit⟩
  · obtain ⟨_, merged, _⟩ :=
      settings_follow_precedence configuredFiles { ignoringOptions with path := "lib/a.js" }
    have found : (CommandLine.settings configuredFiles
        { ignoringOptions with path := "lib/a.js" }).value =
          .ok ⟨["js"], ["node_modules"], ["b.js"], ["dist/**"], true⟩ := by decide +kernel
    obtain ⟨written, inForce, _, same⟩ := (merged _).mp found
    exact ⟨written, inForce, same⟩
  · obtain ⟨⟨directory, _, only⟩, _⟩ :=
      settings_follow_precedence configuredFiles { ignoringOptions with path := "lib/a.js" }
    intro other
    constructor
    · intro scanned
      rw [only other scanned, only "lib" beside]
    · rintro rfl
      exact beside

end InjectionLint
