import InjectionLint.Proofs.Config.Validation
import InjectionLint.Proofs.Files.Ways

/-!
What the admission of a path by its names comes to. Valid settings admit only files whose extension
tells their dialect. Globs are matched against the names below the root, of which there are none when a
file is itself the root, so that a file named directly escapes the globs that keep it out of a scan of
its directory.

Main statements: `walked_files_tell_dialect` and `named_file_escapes_patterns`.
-/

set_option autoImplicit false

namespace InjectionLint

/-! ### Dialects -/

/-- The extension of a path is in a list, in small letters, and tells the dialect of the path in
whatever case its letters are written. -/
def Path.TellsDialect (path : String) (extensions : List String) : Prop :=
  ∃ extension variant, extension? path = some extension ∧
    String.ofList (Text.asciiLower extension.toList) ∈ extensions ∧
    (∀ spelling : String, Text.asciiLower spelling.toList = Text.asciiLower extension.toList →
      Variant.ofExtension? spelling = some variant) ∧
    Path.variant path = variant

private theorem ScanConfig.known_of_validated {config valid : ScanConfig}
    (validated : config.validate = .ok valid) {extension : String}
    (listed : extension ∈ valid.extensions) :
    ∃ variant, Variant.ofExtension? extension = some variant := by
  obtain ⟨acceptable, rfl⟩ := validate_eq_ok_iff.mp validated
  obtain ⟨written, member, rfl⟩ := List.mem_map.mp listed
  exact acceptable.known written member

namespace Walk

variable {files : FileSystem} {config : ScanConfig} {root : String}

private theorem admissible_of_mem_found {path : String} (member : path ∈ found files config root) :
    ∃ names, path = pathBelow root names ∧ Admissible config root names := by
  rw [found_eq_chosen] at member
  obtain ⟨candidate, isChosen, rfl⟩ := List.mem_map.mp member
  obtain ⟨_, _, _, admissible⟩ := chosen_leads isChosen
  exact ⟨candidate.names, path_of_mem_candidates (mem_candidates_of_chosen isChosen), admissible⟩

theorem tellsDialect_of_validated {written : ScanConfig} (validated : written.validate = .ok config)
    {path : String} (member : path ∈ found files config root) :
    Path.TellsDialect path config.extensions := by
  obtain ⟨names, rfl, admissible⟩ := admissible_of_mem_found member
  obtain ⟨extension, isExtension, wanted⟩ := admissible.extension
  obtain ⟨variant, known⟩ := ScanConfig.known_of_validated validated wanted
  have everyCase : ∀ spelling : String,
      Text.asciiLower spelling.toList = Text.asciiLower extension.toList →
        Variant.ofExtension? spelling = some variant := by
    intro spelling same
    rw [← known]
    apply Variant.ofExtension?_congr
    rw [same, String.toList_ofList, Text.asciiLower_asciiLower]
  refine ⟨extension, variant, isExtension, wanted, everyCase, ?_⟩
  simp only [Path.variant, isExtension, Option.bind_some, everyCase extension rfl, Option.getD_some]

end Walk

/-- Every file that a walk yields under valid settings has an extension of a known dialect, which is the
dialect that the file is read in. So it is for every file of a run, whatever its settings come from: no
file is taken for plain JavaScript for want of a telling extension. -/
theorem walked_files_tell_dialect (files : FileSystem) :
    (∀ (config valid : ScanConfig) (root : String), config.validate = .ok valid →
      ∀ path ∈ Walk.found files valid root, Path.TellsDialect path valid.extensions) ∧
    ∀ options config, (CommandLine.settings files options).value = .ok config →
      ∀ path ∈ Walk.found files config options.path,
        Path.TellsDialect path config.extensions := by
  constructor
  · intro config valid root validated path member
    exact Walk.tellsDialect_of_validated validated member
  · intro options config found path member
    exact Walk.tellsDialect_of_validated (CommandLine.validate_of_settings found) member

def capitalFiles : FileSystem where
  nodes := [(["A.TSX"], .file [])]
  workingDirectory := []
  distinct := by decide
  inPlace := Or.inl rfl

/-- The file is yielded and read in the dialect that its extension tells, under settings that are
written with a dot or given on the command line. -/
theorem capital_file_tells_dialect :
    "A.TSX" ∈ Walk.found capitalFiles plainSettings "A.TSX" ∧
    Path.TellsDialect "A.TSX" plainSettings.extensions ∧
    Path.TellsDialect "A.TSX" ["tsx"] ∧
    Path.variant "A.TSX" = .tsx := by
  obtain ⟨byWalk, byRun⟩ := walked_files_tell_dialect capitalFiles
  have yielded : "A.TSX" ∈ Walk.found capitalFiles plainSettings "A.TSX" := by decide +kernel
  have settled : (CommandLine.settings capitalFiles
      { plainOptions with path := "A.TSX", extensions := some [".Tsx"] }).value =
        .ok { ScanConfig.default with extensions := ["tsx"] } := by decide +kernel
  have scanned : "A.TSX" ∈ Walk.found capitalFiles
      { ScanConfig.default with extensions := ["tsx"] } "A.TSX" := by decide +kernel
  refine ⟨yielded, byWalk dottedSettings plainSettings "A.TSX" (by decide) _ yielded,
    byRun _ _ settled _ scanned, by decide⟩

/-! ### The root as a file -/

namespace Glob

def StarsOnly (pattern : String) : Prop :=
  ∃ tokens, parse pattern = .ok tokens ∧
    ∀ token ∈ tokens, token = .anyRun ∨ token = .anyComponents

private theorem matchFrom_nil_iff {tokens : List Token} :
    matchFrom tokens [] = .matched ↔ ∀ token ∈ tokens, token = .anyRun ∨ token = .anyComponents := by
  induction tokens with
  | nil => simp [matchFrom]
  | cons token rest ih =>
      rw [List.forall_mem_cons, ← ih]
      cases token with
      | anyRun => simp [matchFrom, afterRun]
      | anyComponents =>
          simp only [matchFrom, afterSeparators]
          cases matchFrom rest [] <;> simp
      | _ => simp [matchFrom]

private theorem accepts_empty_iff {pattern : String} :
    accepts pattern "" = true ↔ StarsOnly pattern := by
  unfold accepts StarsOnly
  cases parse pattern with
  | error fault => simp
  | ok tokens => simp [matchFrom_nil_iff]

end Glob

namespace Walk

variable {files : FileSystem} {config : ScanConfig}

def AdmitsNames (config : ScanConfig) (path : String) : Prop :=
  (∃ extension, Path.extension? path = some extension ∧
    String.ofList (Text.asciiLower extension.toList) ∈ config.extensions) ∧
  ∀ name, Path.fileName? path = some name → name ∉ config.excludeFiles

theorem admissible_iff_of_shallow {root : String} {names : List String}
    (shallow : names.dropLast = []) :
    Admissible config root names ↔
      AdmitsNames config (pathBelow root names) ∧
        ∀ pattern ∈ config.ignored, Glob.accepts pattern ("/".intercalate names) = false := by
  simp only [Glob.accepts_eq_false_iff]
  constructor
  · rintro ⟨_, extension, fileName, ignored⟩
    exact ⟨⟨extension, fileName⟩, ignored⟩
  · rintro ⟨⟨extension, fileName⟩, ignored⟩
    refine ⟨?_, extension, fileName, ignored⟩
    rw [shallow]
    exact nofun

private theorem extension?_of_isStandardInput {root : String}
    (isInput : isStandardInput root = true) :
    Path.extension? root = none := by
  have onlyName : Path.dropIdleEnd (Path.pieces root) = ["-"] := of_decide_eq_true isInput
  have named : Path.fileName? root = some "-" := by
    rw [Path.fileName?, onlyName]
    decide
  rw [Path.extension?, named]
  decide

theorem found_of_file {path : String} {file : Location} {contents : List UInt8}
    (isFile : files.stat path = .ok (file, .file contents)) :
    found files config path = if isAdmitted config ⟨path, []⟩ then [path] else [] := by
  rw [found_eq_chosen, chosen, candidates, events]
  split
  · -- Standard input is not walked, but then no settings admit its name either.
    rename_i isInput
    have refused : isAdmitted config ⟨path, []⟩ = false := by
      rw [isAdmitted, extension?_of_isStandardInput isInput]
    rw [refused]
    rfl
  · have key : fileAt? files config ⟨path, []⟩ =
        if isAdmitted config ⟨path, []⟩ then some file else none := by
      rw [fileAt?, isFile]
    rw [isFile]
    change (firsts (fileAt? files config) [] [⟨path, []⟩]).map (·.path) = _
    rw [firsts, key]
    cases isAdmitted config ⟨path, []⟩ with
    | false => rfl
    | true => rfl

private theorem found_of_file_iff {path : String} {file : Location} {contents : List UInt8}
    (isFile : files.stat path = .ok (file, .file contents)) :
    found files config path = [path] ↔ Admissible config path [] := by
  have byNames : Admissible config path [] ↔ isAdmitted config ⟨path, []⟩ = true := by
    rw [admissible_iff]
    exact and_iff_right nofun
  rw [byNames, found_of_file isFile]
  cases isAdmitted config ⟨path, []⟩ with
  | false => simp
  | true => simp

end Walk

/-- A file that is itself the root is yielded unless its extension or its name is against it, or a
pattern consists of stars only, since there is nothing else to match patterns against. Named through its
directory it is admitted unless a pattern matches its name. The two differ as soon as a pattern matches
the name and none consists of stars only, or the other way round. -/
theorem named_file_escapes_patterns (files : FileSystem) (config : ScanConfig)
    (directory name : String) (file : Location) (contents : List UInt8)
    (isFile : files.stat (Path.join directory name) = .ok (file, .file contents)) :
    let path := Path.join directory name
    (Walk.found files config path = [path] ↔
      Walk.AdmitsNames config path ∧ ∀ pattern ∈ config.ignored, ¬Glob.StarsOnly pattern) ∧
    (Walk.Admissible config directory [name] ↔
      Walk.AdmitsNames config path ∧
        ∀ pattern ∈ config.ignored, Glob.accepts pattern name = false) ∧
    ((Walk.found files config path = [path] ↔ Walk.Admissible config directory [name]) ↔
      (Walk.AdmitsNames config path →
        ((∃ pattern ∈ config.ignored, Glob.StarsOnly pattern) ↔
          ∃ pattern ∈ config.ignored, Glob.accepts pattern name = true))) := by
  intro path
  have direct : Walk.found files config path = [path] ↔
      Walk.AdmitsNames config path ∧ ∀ pattern ∈ config.ignored, ¬Glob.StarsOnly pattern := by
    rw [Walk.found_of_file_iff isFile, Walk.admissible_iff_of_shallow rfl, String.intercalate_nil]
    simp only [← Glob.accepts_empty_iff, Bool.not_eq_true, Walk.pathBelow, List.foldl_nil, path]
  have through : Walk.Admissible config directory [name] ↔
      Walk.AdmitsNames config path ∧
        ∀ pattern ∈ config.ignored, Glob.accepts pattern name = false := by
    rw [Walk.admissible_iff_of_shallow rfl, String.intercalate_singleton]
    simp only [Walk.pathBelow, List.foldl_cons, List.foldl_nil, path]
  refine ⟨direct, through, ?_⟩
  have noneOfStars : (∀ pattern ∈ config.ignored, ¬Glob.StarsOnly pattern) ↔
      ¬∃ pattern ∈ config.ignored, Glob.StarsOnly pattern := by
    simp only [not_exists, not_and]
  have noneMatches : (∀ pattern ∈ config.ignored, Glob.accepts pattern name = false) ↔
      ¬∃ pattern ∈ config.ignored, Glob.accepts pattern name = true := by
    simp only [not_exists, not_and, Bool.not_eq_true]
  rw [direct, through, noneOfStars, noneMatches, and_congr_right_iff, not_iff_not]

def scriptFiles : FileSystem where
  nodes := [(["src"], .directory), (["src", "a.js"], .file [])]
  workingDirectory := []
  distinct := by decide
  inPlace := Or.inl rfl

/-- A pattern for scripts keeps the script out of its directory's scan only; a star keeps it out of
either. -/
theorem named_script_escapes_pattern :
    Walk.found scriptFiles { ScanConfig.default with ignored := ["*.js"] } "src/a.js" =
      ["src/a.js"] ∧
    (Walk.found scriptFiles { ScanConfig.default with ignored := ["*"] } "src/a.js" = ["src/a.js"] ↔
      Walk.Admissible { ScanConfig.default with ignored := ["*"] } "src" ["a.js"]) := by
  have isFile : scriptFiles.stat (Path.join "src" "a.js") = .ok (["src", "a.js"], .file []) := by
    decide +kernel
  have notStars : ¬Glob.StarsOnly "*.js" := by
    rw [← Glob.accepts_empty_iff]
    decide +kernel
  have stars : Glob.StarsOnly "*" := ⟨[.anyRun], rfl, by decide⟩
  constructor
  · obtain ⟨direct, _⟩ := named_file_escapes_patterns scriptFiles
      { ScanConfig.default with ignored := ["*.js"] } "src" "a.js" _ _ isFile
    refine direct.mpr ⟨⟨⟨"js", by decide, by decide⟩, nofun⟩, ?_⟩
    intro pattern member
    rw [List.mem_singleton.mp member]
    exact notStars
  · obtain ⟨_, _, agree⟩ := named_file_escapes_patterns scriptFiles
      { ScanConfig.default with ignored := ["*"] } "src" "a.js" _ _ isFile
    refine agree.mpr fun _ => ⟨fun _ => ?_, fun _ => ?_⟩
    · exact ⟨"*", List.mem_singleton_self _, by decide +kernel⟩
    · exact ⟨"*", List.mem_singleton_self _, stars⟩

/-- Valid settings that ignore scripts: the script is yielded where it is named directly, although it is
not admissible in its directory. -/
theorem ignored_script_yielded_when_named :
    (∃ valid, ScanConfig.validate { ScanConfig.default with ignored := ["*.js"] } = .ok valid ∧
      ¬("src/a.js" ∈ Walk.found scriptFiles valid "src/a.js" ↔
        Walk.Admissible valid "src" ["a.js"])) ∧
    scriptFiles.stat "src" = .ok (["src"], .directory) ∧
    scriptFiles.stat "src/a.js" = .ok (["src", "a.js"], .file []) := by
  refine ⟨⟨{ ScanConfig.default with ignored := ["*.js"] }, by decide, ?_⟩, by decide +kernel,
    by decide +kernel⟩
  have yielded : "src/a.js" ∈ Walk.found scriptFiles
      { ScanConfig.default with ignored := ["*.js"] } "src/a.js" := by decide +kernel
  intro alike
  obtain ⟨_, _, _, ignored⟩ := alike.mp yielded
  exact ignored "*.js" (by decide) _ rfl (by decide +kernel)

end InjectionLint
