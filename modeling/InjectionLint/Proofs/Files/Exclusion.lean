import InjectionLint.Proofs.Files.Ways

/-!
Settings that exclude more. What a walk yields under them need not be among what it yields under the
wider ones: where the first way to a file is excluded, a later way takes its place. But it leads to a
file that is yielded under the wider settings too.

Main statement: `narrower_settings_find_less`.
-/

set_option autoImplicit false

namespace InjectionLint

/-- Settings that exclude whatever others do, and follow links only if these do. -/
structure ScanConfig.Narrows (narrow wide : ScanConfig) : Prop where
  excludeDirs : wide.excludeDirs ⊆ narrow.excludeDirs
  excludeFiles : wide.excludeFiles ⊆ narrow.excludeFiles
  ignored : wide.ignored ⊆ narrow.ignored
  extensions : narrow.extensions ⊆ wide.extensions
  followLinks : narrow.followLinks = true → wide.followLinks = true

namespace Walk

variable {files : FileSystem} {follow other : Bool} {root : String}

theorem Descends.mono (weaker : follow = true → other = true) {trail : List Step} {name : String}
    {next : Step} (descends : Descends files follow trail name next) :
    Descends files other trail name next := by
  cases descends with
  | directory isDirectory readable => exact .directory isDirectory readable
  | link follows isLink leads fresh => exact .link (weaker follows) isLink leads fresh

theorem Route.mono (weaker : follow = true → other = true) {trail last : List Step}
    {names : List String} (route : Route files follow trail names last) :
    Route files other trail names last := by
  induction route with
  | here trail => exact .here trail
  | on first _ ih => exact .on (first.mono weaker) ih

theorem Leads.mono (weaker : follow = true → other = true) {names : List String} {file : Location}
    (leads : Leads files follow root names file) : Leads files other root names file := by
  cases leads with
  | root walked isFile => exact .root walked isFile
  | below walked entered route listed notDirectory isFile =>
      exact .below walked entered (route.mono weaker) listed notDirectory isFile

theorem Admissible.mono {narrow wide : ScanConfig} (narrows : narrow.Narrows wide)
    {names : List String} (admissible : Admissible narrow root names) :
    Admissible wide root names := by
  obtain ⟨extension, known, wanted⟩ := admissible.extension
  constructor
  · intro directory onWay excluded
    exact admissible.directories directory onWay (narrows.excludeDirs excluded)
  · exact ⟨extension, known, narrows.extensions wanted⟩
  · intro name named excluded
    exact admissible.fileName name named (narrows.excludeFiles excluded)
  · intro pattern member
    exact admissible.ignored pattern (narrows.ignored member)

end Walk

/-- Every file that is yielded under narrower settings is yielded under the wider ones, though perhaps
under another path. -/
theorem narrower_settings_find_less (files : FileSystem) (root : String)
    (narrow wide : ScanConfig) (narrows : narrow.Narrows wide) :
    ∀ path ∈ Walk.found files narrow root, ∃ file, files.locate path = .ok file ∧
      ∃ other ∈ Walk.found files wide root, files.locate other = .ok file := by
  intro path member
  obtain ⟨file, located⟩ := Walk.locate_of_mem_found member
  obtain ⟨names, leads, admissible⟩ := Walk.exists_found_iff.mp ⟨path, member, located⟩
  refine ⟨file, located, ?_⟩
  exact Walk.exists_found_iff.mpr
    ⟨names, leads.mono narrows.followLinks, admissible.mono narrows⟩

def aliasedFiles : FileSystem where
  nodes :=
    [(["work"], .directory), (["work", "a.js"], .link "/work/b/real.js"),
      (["work", "b"], .directory), (["work", "b", "real.js"], .file [])]
  workingDirectory := ["work"]
  distinct := by decide
  inPlace := by decide

def withoutAlias : ScanConfig :=
  { ScanConfig.default with excludeFiles := ["a.js"], followLinks := false }

theorem events_aliasedFiles (config : ScanConfig) (entered : "b" ∉ config.excludeDirs) :
    Walk.events aliasedFiles config "." =
      [.entry ⟨"./a.js", ["a.js"]⟩, .entry ⟨"./b/real.js", ["b", "real.js"]⟩] := by
  have outerNames : aliasedFiles.names ["work"] = ["a.js", "b"] :=
    List.mergeSort_of_pairwise (by decide +kernel)
  have innerNames : aliasedFiles.names ["work", "b"] = ["real.js"] :=
    List.mergeSort_of_pairwise (by decide +kernel)
  have root : aliasedFiles.stat "." = .ok (["work"], .directory) := by decide +kernel
  have link : ∀ follow, Walk.turn aliasedFiles follow [] ⟨".", ["work"]⟩ [] "a.js" =
      .meet (.entry ⟨"./a.js", ["a.js"]⟩) := by decide +kernel
  have directory : ∀ follow, Walk.turn aliasedFiles follow [] ⟨".", ["work"]⟩ [] "b" =
      .descend ⟨"./b", ["work", "b"]⟩ := by decide +kernel
  have file : ∀ follow,
      Walk.turn aliasedFiles follow ["b"] ⟨"./b", ["work", "b"]⟩ [⟨".", ["work"]⟩] "real.js" =
        .meet (.entry ⟨"./b/real.js", ["b", "real.js"]⟩) := by decide +kernel
  have walked : Walk.isStandardInput "." = false := by decide +kernel
  simp only [Walk.events, walked, root, Walk.inside_eq, outerNames, List.flatMap_cons,
    List.flatMap_nil, Walk.meets, link, directory, if_neg entered, List.nil_append, innerNames, file]
  rfl

/-- With the link left out the file is found under its own name, and without that under the link's. -/
theorem alias_left_out :
    Walk.found aliasedFiles .default "." = ["./a.js"] ∧
    Walk.found aliasedFiles withoutAlias "." = ["./b/real.js"] ∧
    withoutAlias.Narrows .default ∧
    ∃ file, aliasedFiles.locate "./b/real.js" = .ok file ∧
      ∃ other ∈ Walk.found aliasedFiles .default ".", aliasedFiles.locate other = .ok file := by
  have narrows : withoutAlias.Narrows .default :=
    ⟨by decide, by decide, by decide, by decide, by decide⟩
  have before : Walk.found aliasedFiles .default "." = ["./a.js"] := by
    rw [Walk.found, Walk.stream, Walk.items, events_aliasedFiles _ (by decide)]
    decide +kernel
  have after : Walk.found aliasedFiles withoutAlias "." = ["./b/real.js"] := by
    rw [Walk.found, Walk.stream, Walk.items, events_aliasedFiles _ (by decide)]
    decide +kernel
  refine ⟨before, after, narrows, ?_⟩
  apply narrower_settings_find_less aliasedFiles "." withoutAlias .default narrows
  rw [after]
  exact List.mem_singleton_self _

end InjectionLint
