import InjectionLint.CommandLine.Run
import Mathlib.Data.List.Basic

/-!
Validation of settings. Settings are validated where they are read and once more after the command line
has put values in their place. Bringing an extension into the form in which it is compared may change
it again when it is done twice, but not an extension that validation lets through.

Main statement: `validation_commutes_with_override`.
-/

set_option autoImplicit false

namespace InjectionLint

/-! ### Extensions -/

private theorem Text.toLower_toLower (c : Char) : c.toLower.toLower = c.toLower := by
  by_cases capital : c.val ≥ 'A'.val ∧ c.val ≤ 'Z'.val
  · have small : c.toLower.val = c.val + 32 := congrArg Char.val (dif_pos capital)
    apply dif_neg
    intro again
    rw [small] at again
    grind
  · have same : c.toLower = c := dif_neg capital
    rw [same, same]

theorem Text.asciiLower_asciiLower (text : List Char) :
    asciiLower (asciiLower text) = asciiLower text := by
  rw [asciiLower, asciiLower, List.map_map]
  exact List.map_congr_left fun c _ => toLower_toLower c

namespace Variant

def extensions : List String :=
  ["js", "mjs", "cjs", "jsx", "ts", "mts", "cts", "tsx"]

private theorem mem_extensions_of_ofExtension? {extension : String} {variant : Variant}
    (known : ofExtension? extension = some variant) :
    String.ofList (Text.asciiLower extension.toList) ∈ extensions := by
  unfold ofExtension? at known
  split at known
  case h_9 => cases known
  all_goals
    rename_i spelling
    rw [spelling]
    decide

theorem ofExtension?_congr {first second : String}
    (same : Text.asciiLower first.toList = Text.asciiLower second.toList) :
    ofExtension? first = ofExtension? second := by
  unfold ofExtension?
  rw [same]

end Variant

private theorem asciiLower_normalizeExtension (extension : String) :
    String.ofList (Text.asciiLower (normalizeExtension extension).toList) =
      normalizeExtension extension := by
  rw [normalizeExtension, String.toList_ofList, Text.asciiLower_asciiLower]

/-- An extension that validation lets through is in its final form. -/
theorem normalizeExtension_of_known {extension : String} {variant : Variant}
    (known : Variant.ofExtension? (normalizeExtension extension) = some variant) :
    normalizeExtension (normalizeExtension extension) = normalizeExtension extension := by
  have final : ∀ listed ∈ Variant.extensions, normalizeExtension listed = listed := by decide
  apply final
  rw [← asciiLower_normalizeExtension]
  exact Variant.mem_extensions_of_ofExtension? known

-- The dot behind the blank is only in front once the first dot is gone.
example : normalizeExtension ". .js" = " .js" ∧ normalizeExtension " .js" = "js" := by decide

namespace ScanConfig

/-! ### What passes validation -/

structure Acceptable (config : ScanConfig) : Prop where
  nonempty : config.extensions ≠ []
  known : ∀ extension ∈ config.extensions,
    ∃ variant, Variant.ofExtension? (normalizeExtension extension) = some variant
  wellFormed : ∀ pattern ∈ config.ignored, ∃ tokens, Glob.parse pattern = .ok tokens

def normalized (config : ScanConfig) : ScanConfig :=
  { config with extensions := config.extensions.map normalizeExtension }

theorem badPattern?_eq_none_iff {patterns : List String} :
    badPattern? patterns = none ↔
      ∀ pattern ∈ patterns, ∃ tokens, Glob.parse pattern = .ok tokens := by
  induction patterns with
  | nil => simp [badPattern?]
  | cons pattern rest ih =>
      rw [List.forall_mem_cons, ← ih, badPattern?]
      cases Glob.parse pattern with
      | ok tokens => simp
      | error fault => simp

private theorem Acceptable.validate_eq {config : ScanConfig} (acceptable : config.Acceptable) :
    config.validate = .ok config.normalized := by
  have nonempty : config.extensions.map normalizeExtension ≠ [] := by
    intro empty
    exact acceptable.nonempty (List.map_eq_nil_iff.mp empty)
  have known : (config.extensions.map normalizeExtension).find?
      (fun extension => (Variant.ofExtension? extension).isNone) = none := by
    rw [List.find?_eq_none]
    intro extension listed
    obtain ⟨written, member, rfl⟩ := List.mem_map.mp listed
    obtain ⟨variant, known⟩ := acceptable.known written member
    rw [known]
    exact Bool.false_ne_true
  simp only [validate, if_neg nonempty, known, badPattern?_eq_none_iff.mpr acceptable.wellFormed,
    normalized]

theorem acceptable_of_validate {config valid : ScanConfig} (validated : config.validate = .ok valid) :
    config.Acceptable ∧ valid = config.normalized := by
  unfold validate at validated
  dsimp only at validated
  split at validated
  · cases validated
  · rename_i nonempty
    split at validated
    · cases validated
    · rename_i noUnknown
      split at validated
      · cases validated
      · rename_i noMalformed
        cases validated
        refine ⟨⟨?_, ?_, badPattern?_eq_none_iff.mp noMalformed⟩, rfl⟩
        · intro empty
          exact nonempty (List.map_eq_nil_iff.mpr empty)
        · intro extension member
          have isKnown := List.find?_eq_none.mp noUnknown _ (List.mem_map_of_mem member)
          rw [Option.isNone_iff_eq_none] at isKnown
          exact Option.ne_none_iff_exists'.mp isKnown

theorem validate_eq_ok_iff {config valid : ScanConfig} :
    config.validate = .ok valid ↔ config.Acceptable ∧ valid = config.normalized := by
  constructor
  · exact acceptable_of_validate
  · intro ⟨acceptable, final⟩
    rw [final, acceptable.validate_eq]

/-- Validation sees extensions only in their final form. -/
theorem validate_congr {first second : ScanConfig} (same : first.normalized = second.normalized) :
    first.validate = second.validate := by
  obtain ⟨firstExtensions, _, _, _, _⟩ := first
  obtain ⟨secondExtensions, _, _, _, _⟩ := second
  simp only [normalized, mk.injEq] at same
  obtain ⟨extensions, rfl, rfl, rfl, rfl⟩ := same
  simp only [validate, extensions]

theorem Acceptable.normalized_normalized {config : ScanConfig} (acceptable : config.Acceptable) :
    config.normalized.normalized = config.normalized := by
  have extensions : (config.extensions.map normalizeExtension).map normalizeExtension =
      config.extensions.map normalizeExtension := by
    rw [List.map_map]
    apply List.map_congr_left
    intro extension member
    obtain ⟨variant, known⟩ := acceptable.known extension member
    exact normalizeExtension_of_known known
  simp only [normalized, extensions]

private theorem validate_of_validated {config valid : ScanConfig}
    (validated : config.validate = .ok valid) :
    valid.validate = .ok valid := by
  obtain ⟨acceptable, rfl⟩ := validate_eq_ok_iff.mp validated
  rw [← validated]
  exact validate_congr acceptable.normalized_normalized

theorem validate_override_of_validated {config valid : ScanConfig}
    (validated : config.validate = .ok valid) (overrides : Overrides) :
    (valid.override overrides).validate = (config.override overrides).validate := by
  obtain ⟨acceptable, rfl⟩ := validate_eq_ok_iff.mp validated
  apply validate_congr
  have same := acceptable.normalized_normalized
  -- Extensions that the command line leaves alone have their final form already.
  cases given : overrides.extensions with
  | some extensions => simp only [override, normalized, given, Option.getD_some]
  | none =>
      simp only [normalized, mk.injEq, and_true] at same
      simp only [override, normalized, given, Option.getD_none, same]

/-! ### Settings as they are loaded -/

def inFile? (files : FileSystem) (path : String) : Option ScanConfig :=
  (files.readText path).toOption.bind fun document => (parse document).toOption

theorem inFile?_eq_some_iff {files : FileSystem} {path : String} {config : ScanConfig} :
    inFile? files path = some config ↔
      ∃ document, files.readText path = .ok document ∧ parse document = .ok config := by
  unfold inFile?
  cases files.readText path with
  | error fault => simp [Except.toOption]
  | ok document =>
      cases parsed : parse document with
      | error fault => simp [Except.toOption, parsed]
      | ok found => simp [Except.toOption, parsed]

theorem loadExplicit_value_eq_ok_iff {files : FileSystem} {path : String} {config : ScanConfig} :
    (loadExplicit files path).value = .ok config ↔ inFile? files path = some config := by
  rw [inFile?_eq_some_iff, loadExplicit]
  cases files.readText path with
  | error fault => simp [Logged.silent]
  | ok document =>
      cases parsed : parse document with
      | error fault => simp [Logged.silent, parsed]
      | ok found => simp [Logged.silent, Logged.after, parsed]

theorem loadProject?_value (files : FileSystem) (path : String) :
    (loadProject? files path).value = inFile? files path := by
  unfold loadProject? inFile?
  split
  · rename_i missing
    rw [missing]
    rfl
  · rename_i unreadable
    rw [unreadable]
    rfl
  · rename_i document read
    rw [read]
    split
    · rename_i fault refused
      change none = (parse document).toOption
      rw [refused]
      rfl
    · rename_i config accepted
      change some config = (parse document).toOption
      rw [accepted]
      rfl

theorem load_none_value (files : FileSystem) (root : String) :
    (load files root none).value = .ok ((inFile? files (Path.join root fileName)).getD default) := by
  rw [← loadProject?_value]
  simp only [load, Logged.andThen]
  cases (loadProject? files (Path.join root fileName)).value with
  | none => rfl
  | some config => rfl

theorem validate_default : default.validate = .ok default := by
  decide

theorem validate_of_inFile? {files : FileSystem} {path : String} {config : ScanConfig}
    (found : inFile? files path = some config) : config.validate = .ok config := by
  obtain ⟨document, _, parsed⟩ := inFile?_eq_some_iff.mp found
  unfold parse at parsed
  split at parsed
  · exact validate_of_validated parsed
  · cases parsed

theorem validate_of_load {files : FileSystem} {root : String} {explicit : Option String}
    {config : ScanConfig} (loaded : (load files root explicit).value = .ok config) :
    config.validate = .ok config := by
  cases explicit with
  | some path => exact validate_of_inFile? (loadExplicit_value_eq_ok_iff.mp loaded)
  | none =>
      rw [load_none_value] at loaded
      cases found : inFile? files (Path.join root fileName) with
      | some inForce =>
          rw [found] at loaded
          cases loaded
          exact validate_of_inFile? found
      | none =>
          rw [found] at loaded
          cases loaded
          exact validate_default

end ScanConfig

namespace CommandLine

variable {files : FileSystem} {options : Options}

private theorem settings_value_of_unloaded {cause : ScanError}
    (failed : (ScanConfig.load files (configRoot files options.path) options.config).value =
      .error cause) :
    (settings files options).value = .error ⟨"Failed to load configuration", cause⟩ := by
  simp only [settings, Logged.andThenOk, Logged.andThen, during, failed]
  rfl

theorem settings_value_of_loaded {config : ScanConfig}
    (loaded : (ScanConfig.load files (configRoot files options.path) options.config).value =
      .ok config) :
    (settings files options).value =
      (config.override options.overrides).validate.mapError
        (⟨"Invalid command-line options", .config ·⟩) := by
  simp only [settings, Logged.andThenOk, Logged.andThen, during, loaded]
  change ((config.override options.overrides).validate.mapError _).mapError _ = _
  cases (config.override options.overrides).validate with
  | error fault => rfl
  | ok valid => rfl

theorem validate_of_settings {config : ScanConfig}
    (found : (settings files options).value = .ok config) : config.validate = .ok config := by
  cases loaded : (ScanConfig.load files (configRoot files options.path) options.config).value with
  | error cause =>
      rw [settings_value_of_unloaded loaded] at found
      cases found
  | ok base =>
      rw [settings_value_of_loaded loaded] at found
      cases validated : (base.override options.overrides).validate with
      | error fault =>
          rw [validated] at found
          cases found
      | ok valid =>
          rw [validated] at found
          cases found
          exact ScanConfig.validate_of_validated validated

end CommandLine

/-- It makes no difference whether settings are validated before the command line puts values in their
place, provided that they are valid: the result is the same, and so is the error. Validation accepts
settings exactly if there are extensions, all of known dialects, and no malformed pattern; it then
changes the extensions one by one and nothing else. Doing it again changes nothing, in particular where
a run does it without values from the command line. -/
theorem validation_commutes_with_override (config : ScanConfig) :
    (∀ valid overrides, config.validate = .ok valid →
      (valid.override overrides).validate = (config.override overrides).validate) ∧
    (∀ valid, config.validate = .ok valid → valid.validate = .ok valid) ∧
    (∀ files options loaded, options.overrides = ⟨none, none⟩ →
      (ScanConfig.load files (CommandLine.configRoot files options.path) options.config).value =
        .ok loaded →
      (loaded.override options.overrides).validate = .ok loaded ∧
        (CommandLine.settings files options).value = .ok loaded) ∧
    ∀ valid, config.validate = .ok valid ↔
      config.Acceptable ∧
        valid = { config with extensions := config.extensions.map normalizeExtension } := by
  refine ⟨?_, ?_, ?_, ?_⟩
  · intro valid overrides validated
    exact ScanConfig.validate_override_of_validated validated overrides
  · intro valid validated
    exact ScanConfig.validate_of_validated validated
  · intro files options loaded nothing found
    have again : (loaded.override options.overrides).validate = .ok loaded := by
      rw [nothing]
      exact ScanConfig.validate_of_load found
    refine ⟨again, ?_⟩
    rw [CommandLine.settings_value_of_loaded found, again]
    rfl
  · intro valid
    exact ScanConfig.validate_eq_ok_iff

def dottedSettings : ScanConfig :=
  { ScanConfig.default with extensions := [" .JS", "tsx"], ignored := ["dist/**"] }

def plainSettings : ScanConfig :=
  { ScanConfig.default with extensions := ["js", "tsx"], ignored := ["dist/**"] }

def plainOptions : CommandLine.Options where
  path := "."
  config := none
  extensions := none
  ignored := none
  color := .auto
  noBanner := false
  verbosity := 0

/-- The dotted extension is validated first or after a malformed pattern has been put in, with the same
error; and a run in an empty directory validates the defaults a second time. -/
theorem dotted_settings_validated_twice :
    dottedSettings.validate = .ok plainSettings ∧
    (plainSettings.override ⟨none, some ["["]⟩).validate =
      (dottedSettings.override ⟨none, some ["["]⟩).validate ∧
    (dottedSettings.override ⟨none, some ["["]⟩).validate =
      .error (.invalidPattern "[" ⟨0, .bracket⟩) ∧
    plainSettings.validate = .ok plainSettings ∧
    (CommandLine.settings .empty plainOptions).value = .ok .default ∧
    dottedSettings.Acceptable := by
  have validated : dottedSettings.validate = .ok plainSettings := by decide
  have loaded : (ScanConfig.load .empty (CommandLine.configRoot .empty plainOptions.path)
      plainOptions.config).value = .ok .default := by decide +kernel
  obtain ⟨commutes, again, unchanged, accepts⟩ := validation_commutes_with_override dottedSettings
  exact ⟨validated, commutes _ _ validated, by decide, again _ validated,
    (unchanged _ _ _ rfl loaded).2, ((accepts _).mp validated).1⟩

end InjectionLint
