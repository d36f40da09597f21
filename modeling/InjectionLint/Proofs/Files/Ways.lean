import InjectionLint.Proofs.Files.Descent
import Mathlib.Data.List.Nodup

/-!
The ways of a walk to a file. Several names, files and directories with links among them, may lead to one
file; the walk takes them in the order of dictionaries, drops those that the settings do not admit, and
yields the file under the first that is left.

Main statement: `walk_yields_first_admissible`.
-/

set_option autoImplicit false

namespace InjectionLint

/-! ### The names in a directory -/

namespace FileSystem

variable {files : FileSystem}

theorem mem_names_of_get? {directory : Location} {name : String} {node : FileNode}
    (found : files.get? (directory ++ [name]) = some node) : name ∈ files.names directory := by
  unfold names
  rw [List.mem_mergeSort, List.mem_filterMap]
  refine ⟨_, (get?_eq_some_iff (by simp)).mp found, ?_⟩
  simp

theorem isFile_iff {path : String} :
    files.isFile path = true ↔
      ∃ location contents, files.stat path = .ok (location, .file contents) := by
  unfold isFile
  constructor
  · intro accepted
    split at accepted
    · rename_i location contents found
      exact ⟨location, contents, found⟩
    · cases accepted
  · rintro ⟨location, contents, found⟩
    rw [found]

private theorem mergeSort_pairwise_lt {texts : List String} (distinct : texts.Nodup) :
    (texts.mergeSort fun first second => first ≤ second).Pairwise (· < ·) := by
  have sorted : (texts.mergeSort fun first second => first ≤ second).Pairwise
      fun first second => decide (first ≤ second) = true := by
    apply List.pairwise_mergeSort
    · intro first second third below above
      exact decide_eq_true (String.le_trans (of_decide_eq_true below) (of_decide_eq_true above))
    · intro first second
      rw [Bool.or_eq_true, decide_eq_true_eq, decide_eq_true_eq]
      exact String.le_total first second
  refine (sorted.and ((List.mergeSort_perm texts _).nodup_iff.mpr distinct)).imp ?_
  rintro first second ⟨ordered, unequal⟩
  apply String.not_le.mp
  intro reversed
  exact unequal (String.le_antisymm (of_decide_eq_true ordered) reversed)

theorem names_pairwise_lt (files : FileSystem) (directory : Location) :
    (files.names directory).Pairwise (· < ·) := by
  -- A name and the directory that it is in make up the location.
  have whole : ∀ (location : Location) (name : String),
      (if location.dropLast = directory then location.getLast? else none) = some name →
        location = directory ++ [name] := by
    intro location name found
    split at found
    · rename_i inDirectory
      obtain ⟨upper, rfl⟩ := List.getLast?_eq_some_iff.mp found
      rw [← inDirectory, List.dropLast_concat]
    · cases found
  apply mergeSort_pairwise_lt
  rw [List.Nodup, List.pairwise_filterMap]
  refine (List.pairwise_map.mp files.distinct).imp ?_
  intro left right apart first fromLeft second fromRight same
  subst same
  exact apart ((whole _ _ fromLeft).trans (whole _ _ fromRight).symm)

end FileSystem

theorem Glob.accepts_eq_false_iff {pattern path : String} :
    accepts pattern path = false ↔
      ∀ tokens, parse pattern = .ok tokens → matchFrom tokens path.toList ≠ .matched := by
  unfold accepts
  cases parse pattern with
  | error fault => simp
  | ok tokens =>
      rw [decide_eq_false_iff_not]
      constructor
      · intro unmatched _ same
        cases same
        exact unmatched
      · intro unmatched
        exact unmatched tokens rfl

namespace Walk

/-! ### Ways, and what the settings ask of them -/

def pathBelow (root : String) (names : List String) : String :=
  names.foldl Path.join root

private theorem pathBelow_concat (root : String) (names : List String) (name : String) :
    pathBelow root (names ++ [name]) = Path.join (pathBelow root names) name := by
  rw [pathBelow, List.foldl_concat, pathBelow]

/-- The directories on the way down along some names, whether these are excluded or not. -/
inductive Route (files : FileSystem) (follow : Bool) :
    List Step → List String → List Step → Prop where
  | here (trail : List Step) : Route files follow trail [] trail
  | on {trail last : List Step} {name : String} {next : Step} {rest : List String}
      (first : Descends files follow trail name next)
      (further : Route files follow (next :: trail) rest last) :
      Route files follow trail (name :: rest) last

/-- Names below a root that lead to the regular file at a location on a way that a walk can take. The
root that stands for standard input is not walked. -/
inductive Leads (files : FileSystem) (follow : Bool) (root : String) :
    List String → Location → Prop where
  | root {file : Location} {contents : List UInt8}
      (walked : isStandardInput root = false)
      (isFile : files.stat root = .ok (file, .file contents)) :
      Leads files follow root [] file
  | below {location file : Location} {names : List String} {step : Step} {outer : List Step}
      {name : String} {contents : List UInt8}
      (walked : isStandardInput root = false)
      (entered : files.stat root = .ok (location, .directory))
      (route : Route files follow [⟨root, location⟩] names (step :: outer))
      (listed : name ∈ files.names step.location)
      (notDirectory : files.get? (step.location ++ [name]) ≠ some .directory)
      (isFile : files.stat (pathBelow root (names ++ [name])) = .ok (file, .file contents)) :
      Leads files follow root (names ++ [name]) file

structure Admissible (config : ScanConfig) (root : String) (names : List String) : Prop where
  directories : ∀ directory ∈ names.dropLast, directory ∉ config.excludeDirs
  extension : ∃ extension, Path.extension? (pathBelow root names) = some extension ∧
    String.ofList (Text.asciiLower extension.toList) ∈ config.extensions
  fileName : ∀ name, Path.fileName? (pathBelow root names) = some name →
    name ∉ config.excludeFiles
  ignored : ∀ pattern ∈ config.ignored, ∀ tokens, Glob.parse pattern = .ok tokens →
    Glob.matchFrom tokens ("/".intercalate names).toList ≠ .matched

def found (files : FileSystem) (config : ScanConfig) (root : String) : List String :=
  (stream files config root).filterMap Except.toOption

variable {files : FileSystem} {config : ScanConfig} {follow : Bool} {root : String}

theorem admissible_iff {names : List String} :
    Admissible config root names ↔
      (∀ directory ∈ names.dropLast, directory ∉ config.excludeDirs) ∧
        isAdmitted config ⟨pathBelow root names, names⟩ = true := by
  have byName : isAdmitted config ⟨pathBelow root names, names⟩ = true ↔
      (∃ extension, Path.extension? (pathBelow root names) = some extension ∧
        String.ofList (Text.asciiLower extension.toList) ∈ config.extensions) ∧
      (∀ name, Path.fileName? (pathBelow root names) = some name → name ∉ config.excludeFiles) ∧
      ∀ pattern ∈ config.ignored, ∀ tokens, Glob.parse pattern = .ok tokens →
        Glob.matchFrom tokens ("/".intercalate names).toList ≠ .matched := by
    unfold isAdmitted
    simp only [← Glob.accepts_eq_false_iff]
    cases Path.extension? (pathBelow root names) with
    | none => simp
    | some extension =>
        cases Path.fileName? (pathBelow root names) <;> simp [and_assoc]
  constructor
  · rintro ⟨directories, extension, fileName, ignored⟩
    exact ⟨directories, byName.mpr ⟨extension, fileName, ignored⟩⟩
  · rintro ⟨directories, admitted⟩
    obtain ⟨extension, fileName, ignored⟩ := byName.mp admitted
    exact ⟨directories, extension, fileName, ignored⟩

/-! ### What a walk meets along a way -/

private theorem Descends.mem_names {step next : Step} {outer : List Step} {name : String}
    (descends : Descends files follow (step :: outer) name next) :
    name ∈ files.names step.location := by
  cases descends with
  | directory isDirectory _ => exact FileSystem.mem_names_of_get? isDirectory
  | link _ isLink _ _ => exact FileSystem.mem_names_of_get? isLink

theorem Descends.path_eq {trail outer : List Step} {name : String} {step next : Step}
    (shape : trail = step :: outer) (descends : Descends files follow trail name next) :
    next.path = Path.join step.path name := by
  cases descends <;> cases shape <;> rfl

theorem Route.path_eq {step last : Step} {outer lastOuter : List Step} {names : List String}
    (route : Route files follow (step :: outer) names (last :: lastOuter)) :
    last.path = pathBelow step.path names := by
  generalize start : step :: outer = trail, finish : last :: lastOuter = ending at route
  induction route generalizing step outer with
  | here trail =>
      cases start.trans finish.symm
      rfl
  | on first further ih =>
      rw [ih (congrArg _ start) finish, first.path_eq start.symm]
      rfl

private theorem turn_of_file {names : List String} {step : Step} {outer : List Step} {name : String}
    {file : Location} {contents : List UInt8}
    (notDirectory : files.get? (step.location ++ [name]) ≠ some .directory)
    (isFile : files.stat (Path.join step.path name) = .ok (file, .file contents)) :
    turn files follow names step outer name =
      .meet (.entry ⟨Path.join step.path name, names ++ [name]⟩) := by
  unfold turn
  split
  · contradiction
  · simp only [isFile, ite_self]
  · rfl

private theorem of_turn_entry {names : List String} {step : Step} {outer : List Step}
    {name : String}
    {candidate : Candidate}
    (turned : turn files follow names step outer name = .meet (.entry candidate)) :
    candidate = ⟨Path.join step.path name, names ++ [name]⟩ ∧
      files.get? (step.location ++ [name]) ≠ some .directory := by
  unfold turn at turned
  dsimp only at turned
  split at turned
  · split at turned <;> cases turned
  · rename_i isLink
    rw [isLink]
    split at turned
    · split at turned
      · cases turned
      · split at turned <;> cases turned
      · cases turned
        exact ⟨rfl, nofun⟩
    · cases turned
      exact ⟨rfl, nofun⟩
  · rename_i notDirectory _
    cases turned
    exact ⟨rfl, notDirectory⟩

/-- The entries that a walk meets from a directory on are those at the end of a route along which no
name is excluded. -/
theorem entry_mem_inside_iff {candidate : Candidate} {names : List String} {step : Step}
    {outer : List Step} :
    .entry candidate ∈ inside files config (depthBound files) names step outer ↔
      ∃ more last lastOuter name,
        Route files config.followLinks (step :: outer) more (last :: lastOuter) ∧
        (∀ directory ∈ more, directory ∉ config.excludeDirs) ∧
        name ∈ files.names last.location ∧
        turn files config.followLinks (names ++ more) last lastOuter name =
          .meet (.entry candidate) := by
  induction step, outer using descent_induction files config.followLinks generalizing names with
  | level step outer deeper =>
      rw [inside_eq, List.mem_flatMap]
      constructor
      · rintro ⟨name, listed, met⟩
        cases turned : turn files config.followLinks names step outer name with
        | meet event =>
            rw [meets_of_meet turned] at met
            obtain rfl := List.mem_singleton.mp met
            refine ⟨[], step, outer, name, .here _, nofun, listed, ?_⟩
            rw [List.append_nil, turned]
        | descend next =>
            have descends := turn_eq_descend_iff.mp turned
            rw [meets_of_descends descends] at met
            split at met
            · cases met
            · rename_i included
              obtain ⟨more, last, lastOuter, final, route, allowed, inLast, ended⟩ :=
                (deeper name next descends).mp met
              refine ⟨name :: more, last, lastOuter, final, .on descends route, ?_, inLast, ?_⟩
              · exact List.forall_mem_cons.mpr ⟨included, allowed⟩
              · rw [← ended, List.append_assoc, List.singleton_append]
      · rintro ⟨more, last, lastOuter, final, route, allowed, inLast, ended⟩
        cases route with
        | here _ =>
            refine ⟨final, inLast, ?_⟩
            rw [List.append_nil] at ended
            rw [meets_of_meet ended]
            exact List.mem_singleton_self _
        | @on _ _ name next rest first further =>
            obtain ⟨included, allowedBelow⟩ := List.forall_mem_cons.mp allowed
            refine ⟨name, first.mem_names, ?_⟩
            rw [meets_of_descends first, if_neg included]
            refine (deeper name next first).mpr
              ⟨rest, last, lastOuter, final, further, allowedBelow, inLast, ?_⟩
            rw [← ended, List.append_assoc, List.singleton_append]

end Walk

def WalkEvent.candidate? : WalkEvent → Option Candidate
  | .entry candidate => some candidate
  | _ => none

theorem WalkEvent.mem_candidates_iff {events : List WalkEvent} {candidate : Candidate} :
    candidate ∈ events.filterMap candidate? ↔ .entry candidate ∈ events := by
  rw [List.mem_filterMap]
  constructor
  · rintro ⟨event, member, isEntry⟩
    cases event <;> cases isEntry
    exact member
  · intro member
    exact ⟨.entry candidate, member, rfl⟩

namespace Walk

variable {files : FileSystem} {config : ScanConfig} {root : String}

/-! ### The order of a walk -/

theorem names_of_mem_meets {names : List String} {step : Step} {outer : List Step} {name : String}
    {candidate : Candidate} (member : .entry candidate ∈ meets files config names step outer name) :
    ∃ rest, candidate.names = names ++ name :: rest := by
  cases turned : turn files config.followLinks names step outer name with
  | meet event =>
      rw [meets_of_meet turned] at member
      obtain rfl := List.mem_singleton.mp member
      exact ⟨[], by rw [(of_turn_entry turned).1]⟩
  | descend next =>
      rw [meets_of_descends (turn_eq_descend_iff.mp turned)] at member
      split at member
      · cases member
      · obtain ⟨more, last, lastOuter, final, _, _, _, ended⟩ := entry_mem_inside_iff.mp member
        refine ⟨more ++ [final], ?_⟩
        rw [(of_turn_entry ended).1, List.append_assoc, List.append_assoc, List.singleton_append]

theorem candidates_inside_pairwise (names : List String) (step : Step) (outer : List Step) :
    ((inside files config (depthBound files) names step outer).filterMap
      WalkEvent.candidate?).Pairwise fun first second => first.names < second.names := by
  induction step, outer using descent_induction files config.followLinks generalizing names with
  | level step outer deeper =>
      rw [inside_eq, List.filterMap_flatMap, List.pairwise_flatMap]
      constructor
      · intro name _
        cases turned : turn files config.followLinks names step outer name with
        | meet event =>
            rw [meets_of_meet turned]
            exact List.pairwise_filterMap.mpr (List.pairwise_singleton _ event)
        | descend next =>
            have descends := turn_eq_descend_iff.mp turned
            rw [meets_of_descends descends]
            split
            · exact List.Pairwise.nil
            · exact deeper name next descends (names ++ [name])
      · refine (files.names_pairwise_lt step.location).imp ?_
        intro first second before left inFirst right inSecond
        obtain ⟨restLeft, shapeLeft⟩ :=
          names_of_mem_meets (WalkEvent.mem_candidates_iff.mp inFirst)
        obtain ⟨restRight, shapeRight⟩ :=
          names_of_mem_meets (WalkEvent.mem_candidates_iff.mp inSecond)
        rw [shapeLeft, shapeRight]
        exact List.append_left_lt (List.cons_lt_cons_iff.mpr (Or.inl before))

def candidates (files : FileSystem) (config : ScanConfig) (root : String) : List Candidate :=
  (events files config root).filterMap WalkEvent.candidate?

theorem candidates_pairwise (files : FileSystem) (config : ScanConfig) (root : String) :
    (candidates files config root).Pairwise fun first second => first.names < second.names := by
  unfold candidates events
  split
  · exact List.Pairwise.nil
  · split
    · exact List.Pairwise.nil
    · exact candidates_inside_pairwise [] _ []
    · exact List.pairwise_singleton _ _

/-! ### The first of each file -/

def firsts {α κ : Type} [DecidableEq κ] (key : α → Option κ) : List κ → List α → List α
  | _, [] => []
  | seen, item :: rest =>
    match key item with
    | none => firsts key seen rest
    | some k => if k ∈ seen then firsts key seen rest else item :: firsts key (k :: seen) rest

section Firsts

variable {α κ : Type} [DecidableEq κ] {key : α → Option κ}

theorem firsts_sublist (seen : List κ) (items : List α) :
    (firsts key seen items).Sublist items := by
  induction items generalizing seen with
  | nil => exact List.Sublist.refl []
  | cons item rest ih =>
      unfold firsts
      split
      · exact (ih seen).cons item
      · split
        · exact (ih seen).cons item
        · exact (ih _).cons_cons item

theorem key_of_mem_firsts {seen : List κ} {items : List α} {item : α}
    (member : item ∈ firsts key seen items) : ∃ k, key item = some k ∧ k ∉ seen := by
  induction items generalizing seen with
  | nil => cases member
  | cons head rest ih =>
      unfold firsts at member
      split at member
      · exact ih member
      · rename_i k keyed
        split at member
        · exact ih member
        · rename_i unseen
          rcases List.mem_cons.mp member with rfl | later
          · exact ⟨k, keyed, unseen⟩
          · obtain ⟨other, otherKeyed, fresh⟩ := ih later
            exact ⟨other, otherKeyed, fun inSeen => fresh (List.mem_cons_of_mem k inSeen)⟩

theorem firsts_keys_nodup (seen : List κ) (items : List α) :
    ((firsts key seen items).map key).Nodup := by
  induction items generalizing seen with
  | nil => exact List.nodup_nil
  | cons head rest ih =>
      unfold firsts
      split
      · exact ih seen
      · rename_i k keyed
        split
        · exact ih seen
        · refine List.nodup_cons.mpr ⟨?_, ih _⟩
          intro member
          obtain ⟨later, inLater, same⟩ := List.mem_map.mp member
          obtain ⟨other, otherKeyed, fresh⟩ := key_of_mem_firsts inLater
          rw [keyed, otherKeyed] at same
          exact fresh (Option.some.inj same ▸ List.mem_cons_self)

/-- Every key not seen before is that of a first item, and if the items are in order then no other item
of that key comes before it. -/
theorem exists_first {R : α → α → Prop} {seen : List κ} {items : List α}
    (ordered : items.Pairwise R) {item : α} {k : κ} (member : item ∈ items)
    (keyed : key item = some k) (unseen : k ∉ seen) :
    ∃ first ∈ firsts key seen items, key first = some k ∧ (first = item ∨ R first item) := by
  induction items generalizing seen with
  | nil => cases member
  | cons head rest ih =>
      obtain ⟨before, orderedRest⟩ := List.pairwise_cons.mp ordered
      unfold firsts
      rcases List.mem_cons.mp member with rfl | later
      · simp only [keyed, if_neg unseen]
        exact ⟨item, List.mem_cons_self, keyed, Or.inl rfl⟩
      · cases headKey : key head with
        | none => exact ih orderedRest later unseen
        | some other =>
            dsimp only
            split
            · exact ih orderedRest later unseen
            · by_cases same : other = k
              · subst same
                exact ⟨head, List.mem_cons_self, headKey, Or.inr (before item later)⟩
              · have stillUnseen : k ∉ other :: seen := by
                  intro inSeen
                  rcases List.mem_cons.mp inSeen with rfl | earlier
                  · exact same rfl
                  · exact unseen earlier
                obtain ⟨first, chosen, firstKey, order⟩ := ih orderedRest later stillUnseen
                exact ⟨first, List.mem_cons_of_mem head chosen, firstKey, order⟩

end Firsts

def fileAt? (files : FileSystem) (config : ScanConfig) (candidate : Candidate) : Option Location :=
  if isAdmitted config candidate then
    match files.stat candidate.path with
    | .ok (location, .file _) => some location
    | _ => none
  else none

theorem fileAt?_eq_some_iff {candidate : Candidate} {file : Location} :
    fileAt? files config candidate = some file ↔
      isAdmitted config candidate = true ∧
        ∃ contents, files.stat candidate.path = .ok (file, .file contents) := by
  unfold fileAt?
  split
  · rename_i admitted
    split
    · rename_i found
      rw [found]
      simp [admitted]
    · rename_i notFile
      constructor
      · intro impossible
        cases impossible
      · rintro ⟨_, contents, isFile⟩
        exact absurd isFile (notFile file contents)
  · rename_i refused
    simp [refused]

theorem found_select (seen : List Location) (events : List WalkEvent) :
    ((select files config seen events).filterMap WalkItem.yield?).filterMap Except.toOption =
      (firsts (fileAt? files config) seen (events.filterMap WalkEvent.candidate?)).map (·.path) := by
  induction events generalizing seen with
  | nil => rfl
  | cons event rest ih =>
      cases event with
      | loop path ancestor => exact ih seen
      | failed path fault => exact ih seen
      | entry candidate =>
          have first : (WalkEvent.entry candidate :: rest).filterMap WalkEvent.candidate? =
              candidate :: rest.filterMap WalkEvent.candidate? := rfl
          rw [first, select, firsts]
          cases key : fileAt? files config candidate with
          | none =>
              have refused :
                  ¬(files.isFile candidate.path && isAdmitted config candidate) = true := by
                rw [Bool.and_eq_true, FileSystem.isFile_iff]
                rintro ⟨⟨location, contents, isFile⟩, admitted⟩
                rw [fileAt?_eq_some_iff.mpr ⟨admitted, contents, isFile⟩] at key
                cases key
              rw [if_neg refused]
              exact ih seen
          | some file =>
              obtain ⟨admitted, contents, isFile⟩ := fileAt?_eq_some_iff.mp key
              have kept : (files.isFile candidate.path && isAdmitted config candidate) = true := by
                rw [Bool.and_eq_true, FileSystem.isFile_iff]
                exact ⟨⟨file, contents, isFile⟩, admitted⟩
              rw [if_pos kept, (FileSystem.stat_eq_ok_iff.mp isFile).1]
              dsimp only
              split
              · exact ih seen
              · rw [List.map_cons, ← ih]
                rfl

/-! ### Candidates are ways -/

theorem path_of_mem_candidates {candidate : Candidate}
    (member : candidate ∈ candidates files config root) :
    candidate.path = pathBelow root candidate.names := by
  have met := WalkEvent.mem_candidates_iff.mp member
  unfold events at met
  split at met
  · cases met
  · split at met
    · cases List.mem_singleton.mp met
    · obtain ⟨more, last, lastOuter, name, route, _, _, turned⟩ :=
        entry_mem_inside_iff.mp met
      rw [(of_turn_entry turned).1, List.nil_append, route.path_eq, pathBelow_concat]
    · cases List.mem_singleton.mp met
      rfl

theorem candidate_iff_leads {names : List String} {file : Location} :
    (⟨pathBelow root names, names⟩ ∈ candidates files config root ∧
        fileAt? files config ⟨pathBelow root names, names⟩ = some file) ↔
      Leads files config.followLinks root names file ∧ Admissible config root names := by
  rw [fileAt?_eq_some_iff, admissible_iff, candidates, WalkEvent.mem_candidates_iff]
  constructor
  · rintro ⟨met, admitted, contents, isFile⟩
    unfold events at met
    split at met
    · cases met
    · rename_i walked
      rw [Bool.not_eq_true] at walked
      split at met
      · cases List.mem_singleton.mp met
      · rename_i location entered
        obtain ⟨more, last, lastOuter, name, route, allowed, listed, turned⟩ :=
          entry_mem_inside_iff.mp met
        obtain ⟨same, notDirectory⟩ := of_turn_entry turned
        rw [List.nil_append] at same
        obtain rfl : names = more ++ [name] := congrArg Candidate.names same
        refine ⟨.below walked entered route listed notDirectory isFile, ?_, admitted⟩
        rw [List.dropLast_concat]
        exact allowed
      · obtain rfl : names = [] :=
          congrArg Candidate.names (WalkEvent.entry.inj (List.mem_singleton.mp met))
        exact ⟨.root walked isFile, nofun, admitted⟩
  · rintro ⟨leads, allowed, admitted⟩
    cases leads with
    | root walked isFile =>
        refine ⟨?_, admitted, _, isFile⟩
        simp only [events, walked, isFile]
        exact List.mem_singleton_self _
    | @below location _ more last lastOuter name contents walked entered route listed notDirectory
        isFile =>
        refine ⟨?_, admitted, contents, isFile⟩
        have samePath : Path.join last.path name = pathBelow root (more ++ [name]) := by
          rw [route.path_eq, pathBelow_concat]
        rw [List.dropLast_concat] at allowed
        simp only [events, walked, entered]
        refine entry_mem_inside_iff.mpr
          ⟨more, last, lastOuter, name, route, allowed, listed, ?_⟩
        rw [turn_of_file notDirectory (samePath ▸ isFile), samePath, List.nil_append]

/-! ### What a walk yields -/

def chosen (files : FileSystem) (config : ScanConfig) (root : String) : List Candidate :=
  firsts (fileAt? files config) [] (candidates files config root)

theorem found_eq_chosen (files : FileSystem) (config : ScanConfig) (root : String) :
    found files config root = (chosen files config root).map (·.path) :=
  found_select [] (events files config root)

theorem mem_candidates_of_chosen {candidate : Candidate}
    (member : candidate ∈ chosen files config root) : candidate ∈ candidates files config root :=
  (firsts_sublist [] _).subset member

theorem locate_eq_of_fileAt? {candidate : Candidate} {file : Location}
    (keyed : fileAt? files config candidate = some file) :
    files.locate candidate.path = .ok file := by
  obtain ⟨_, contents, isFile⟩ := fileAt?_eq_some_iff.mp keyed
  exact (FileSystem.stat_eq_ok_iff.mp isFile).1

theorem chosen_leads {candidate : Candidate} (member : candidate ∈ chosen files config root) :
    ∃ file, fileAt? files config candidate = some file ∧
      Leads files config.followLinks root candidate.names file ∧
      Admissible config root candidate.names := by
  obtain ⟨file, keyed, _⟩ := key_of_mem_firsts member
  have isCandidate := mem_candidates_of_chosen member
  obtain ⟨path, names⟩ := candidate
  obtain rfl : path = pathBelow root names := path_of_mem_candidates isCandidate
  exact ⟨file, keyed, candidate_iff_leads.mp ⟨isCandidate, keyed⟩⟩

theorem exists_chosen {names : List String} {file : Location}
    (leads : Leads files config.followLinks root names file)
    (admissible : Admissible config root names) :
    ∃ first ∈ chosen files config root, fileAt? files config first = some file ∧
      (first.names = names ∨ first.names < names) := by
  obtain ⟨member, keyed⟩ := candidate_iff_leads.mpr ⟨leads, admissible⟩
  obtain ⟨first, isFirst, firstKeyed, order⟩ :=
    exists_first (candidates_pairwise files config root) member keyed List.not_mem_nil
  refine ⟨first, isFirst, firstKeyed, ?_⟩
  rcases order with rfl | before
  · exact Or.inl rfl
  · exact Or.inr before

theorem exists_found_iff {file : Location} :
    (∃ path ∈ found files config root, files.locate path = .ok file) ↔
      ∃ names, Leads files config.followLinks root names file ∧ Admissible config root names := by
  rw [found_eq_chosen]
  constructor
  · rintro ⟨path, member, located⟩
    obtain ⟨candidate, isChosen, rfl⟩ := List.mem_map.mp member
    obtain ⟨reached, keyed, leads, admissible⟩ := chosen_leads isChosen
    rw [locate_eq_of_fileAt? keyed] at located
    cases located
    exact ⟨candidate.names, leads, admissible⟩
  · rintro ⟨names, leads, admissible⟩
    obtain ⟨first, isChosen, keyed, _⟩ := exists_chosen leads admissible
    exact ⟨first.path, List.mem_map_of_mem isChosen, locate_eq_of_fileAt? keyed⟩

theorem locate_of_mem_found {path : String} (member : path ∈ found files config root) :
    ∃ file, files.locate path = .ok file := by
  rw [found_eq_chosen] at member
  obtain ⟨candidate, isChosen, rfl⟩ := List.mem_map.mp member
  obtain ⟨file, keyed, _⟩ := chosen_leads isChosen
  exact ⟨file, locate_eq_of_fileAt? keyed⟩

private theorem found_locate_nodup (files : FileSystem) (config : ScanConfig) (root : String) :
    ((found files config root).map files.locate).Nodup := by
  rw [found_eq_chosen, List.map_map, List.Nodup, List.pairwise_map]
  refine (List.pairwise_map.mp (firsts_keys_nodup [] _)).imp_of_mem ?_
  intro first second inFirst inSecond apart same
  obtain ⟨file, keyed, _⟩ := chosen_leads inFirst
  obtain ⟨other, otherKeyed, _⟩ := chosen_leads inSecond
  rw [Function.comp_apply, Function.comp_apply, locate_eq_of_fileAt? keyed,
    locate_eq_of_fileAt? otherKeyed] at same
  cases same
  exact apart (keyed.trans otherKeyed.symm)

private theorem chosen_first {candidate : Candidate} (member : candidate ∈ chosen files config root)
    {file : Location} (keyed : fileAt? files config candidate = some file) {other : List String}
    (leads : Leads files config.followLinks root other file)
    (admissible : Admissible config root other) :
    candidate.names = other ∨ candidate.names < other := by
  obtain ⟨first, isChosen, firstKeyed, order⟩ := exists_chosen leads admissible
  have same : candidate = first :=
    List.inj_on_of_nodup_map (firsts_keys_nodup [] _) member isChosen (keyed.trans firstKeyed.symm)
  rw [same]
  exact order

end Walk

/-- A walk yields every file once, and exactly the files to which an admissible way leads. Each is
yielded under the first of these ways, and the ways are taken in the order of dictionaries, which is the
order of a walk that goes through the entries of each directory by their names. -/
theorem walk_yields_first_admissible (files : FileSystem) (config : ScanConfig) (root : String) :
    ((Walk.found files config root).map files.locate).Nodup ∧
    (∀ file, (∃ path ∈ Walk.found files config root, files.locate path = .ok file) ↔
      ∃ names, Walk.Leads files config.followLinks root names file ∧
        Walk.Admissible config root names) ∧
    ∃ ways : List (List String),
      Walk.found files config root = ways.map (Walk.pathBelow root) ∧
      ways.Pairwise (· < ·) ∧
      ∀ names ∈ ways, ∃ file, Walk.Leads files config.followLinks root names file ∧
        Walk.Admissible config root names ∧
        ∀ other, Walk.Leads files config.followLinks root other file →
          Walk.Admissible config root other → names = other ∨ names < other := by
  refine ⟨Walk.found_locate_nodup files config root, fun file => Walk.exists_found_iff,
    (Walk.chosen files config root).map (·.names), ?_, ?_, ?_⟩
  · rw [Walk.found_eq_chosen, List.map_map]
    apply List.map_congr_left
    intro candidate member
    exact Walk.path_of_mem_candidates (Walk.mem_candidates_of_chosen member)
  · rw [List.pairwise_map]
    exact (Walk.candidates_pairwise files config root).sublist (Walk.firsts_sublist [] _)
  · intro names member
    obtain ⟨candidate, isChosen, rfl⟩ := List.mem_map.mp member
    obtain ⟨file, keyed, leads, admissible⟩ := Walk.chosen_leads isChosen
    exact ⟨file, leads, admissible, fun other => Walk.chosen_first isChosen keyed⟩

end InjectionLint
