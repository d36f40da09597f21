import InjectionLint.Proofs.Scan.Stream
import Mathlib.Data.List.Basic
import Mathlib.Logic.Function.Iterate

/-!
How deep a walk can get. A link is entered only if it leads to a directory that the walk is not inside
of, but a directory below it may well be one that the walk is inside of already. So it is not the number
of directories entered that is bounded at once: each step either enters a directory for the first time on
the way, or goes one name further down among the nodes of the file system.

Main statements: there is no endless way down (`wellFounded_deeper`), the bound on the depth of a walk is
never reached (`inside_eq`), and a walk that goes on entry by entry comes to its end (`walk_ends`).
-/

set_option autoImplicit false

namespace InjectionLint

/-! ### Locations that are taken -/

namespace FileSystem

variable {files : FileSystem} {location : Location} {node : FileNode}

def directories (files : FileSystem) : List Location :=
  [] :: (files.nodes.filter (·.2 = .directory)).map Prod.fst

private theorem length_directories (files : FileSystem) :
    files.directories.length = Walk.directoryCount files := by
  rw [directories, Walk.directoryCount, List.length_cons, List.length_map]

private theorem mem_directories_of_get? (found : files.get? location = some .directory) :
    location ∈ files.directories := by
  rcases get?_eq_directory_iff.mp found with top | member
  · exact top ▸ List.mem_cons_self
  · apply List.mem_cons_of_mem
    exact List.mem_map.mpr ⟨_, List.mem_filter.mpr ⟨member, decide_eq_true rfl⟩, rfl⟩

theorem length_le_deepest (member : (location, node) ∈ files.nodes) :
    location.length ≤ Walk.deepest files := by
  have grows : ∀ (nodes : List (Location × FileNode)) (depth : Nat),
      depth ≤ nodes.foldl (fun depth node => max depth node.1.length) depth ∧
        ∀ entry ∈ nodes,
          entry.1.length ≤ nodes.foldl (fun depth node => max depth node.1.length) depth := by
    intro nodes
    induction nodes with
    | nil =>
        intro depth
        exact ⟨Nat.le_refl depth, nofun⟩
    | cons head tail ih =>
        intro depth
        obtain ⟨above, inTail⟩ := ih (max depth head.1.length)
        rw [List.foldl_cons]
        constructor
        · omega
        · intro entry inside
          rcases List.mem_cons.mp inside with rfl | later
          · omega
          · exact inTail entry later
  exact (grows files.nodes 0).2 _ member

theorem stat_eq_ok_iff {path : String} :
    files.stat path = .ok (location, node) ↔
      files.locate path = .ok location ∧ files.get? location = some node := by
  unfold stat
  cases files.locate path with
  | error fault =>
      constructor
      · intro failed
        cases failed
      · rintro ⟨failed, _⟩
        cases failed
  | ok reached =>
      constructor
      · intro found
        dsimp only at found
        split at found
        · rename_i here
          cases found
          exact ⟨rfl, here⟩
        · cases found
      · rintro ⟨same, here⟩
        cases same
        simp only [here]

end FileSystem

namespace Walk

/-! ### One step down -/

/-- An entry of the directory at the head of a trail that a walk can go into. Of the links it takes
those that lead to a directory which is not on the trail. -/
inductive Descends (files : FileSystem) (follow : Bool) : List Step → String → Step → Prop where
  | directory {step : Step} {outer : List Step} {name : String} {found : Location × FileNode}
      (isDirectory : files.get? (step.location ++ [name]) = some .directory)
      (readable : files.stat (Path.join step.path name) = .ok found) :
      Descends files follow (step :: outer) name
        ⟨Path.join step.path name, step.location ++ [name]⟩
  | link {step : Step} {outer : List Step} {name target : String} {location : Location}
      (follows : follow = true)
      (isLink : files.get? (step.location ++ [name]) = some (.link target))
      (leads : files.stat (Path.join step.path name) = .ok (location, .directory))
      (fresh : ∀ above ∈ step :: outer, above.location ≠ location) :
      Descends files follow (step :: outer) name ⟨Path.join step.path name, location⟩

variable {files : FileSystem} {config : ScanConfig} {follow : Bool}

theorem turn_eq_descend_iff {names : List String} {step next : Step} {outer : List Step}
    {name : String} :
    turn files follow names step outer name = .descend next ↔
      Descends files follow (step :: outer) name next := by
  constructor
  · intro turned
    unfold turn at turned
    dsimp only at turned
    split at turned
    · rename_i isDirectory
      split at turned
      · cases turned
      · rename_i readable
        cases turned
        exact .directory isDirectory readable
    · rename_i isLink
      split at turned
      · rename_i follows
        split at turned
        · cases turned
        · rename_i leads
          split at turned
          · cases turned
          · rename_i fresh
            cases turned
            refine .link follows isLink leads ?_
            intro above member same
            exact List.find?_eq_none.mp fresh above member (decide_eq_true same)
        · cases turned
      · cases turned
    · cases turned
  · intro descends
    cases descends with
    | directory isDirectory readable =>
        unfold turn
        simp only [isDirectory, readable]
    | @link _ _ _ _ location follows isLink leads fresh =>
        have notAbove : (step :: outer).find? (·.location = location) = none := by
          apply List.find?_eq_none.mpr
          intro above member
          exact fun same => fresh above member (of_decide_eq_true same)
        unfold turn
        simp only [isLink, if_pos follows, leads, notAbove]

/-! ### The rank of a trail -/

def unentered (files : FileSystem) (trail : List Step) : List Location :=
  files.directories.filter fun location => trail.all (·.location ≠ location)

def remaining (files : FileSystem) : List Step → Nat
  | [] => 0
  | step :: _ => deepest files - step.location.length

/-- Directories not entered come first, names to add second. -/
def rank (files : FileSystem) (trail : List Step) : Nat :=
  (unentered files trail).length * (deepest files + 1) + remaining files trail

private theorem remaining_le_deepest (files : FileSystem) (trail : List Step) :
    remaining files trail ≤ deepest files := by
  cases trail with
  | nil => exact Nat.zero_le _
  | cons step outer => exact Nat.sub_le _ _

theorem unentered_cons_sublist (files : FileSystem) (step : Step) (outer : List Step) :
    (unentered files (step :: outer)).Sublist (unentered files outer) := by
  apply List.monotone_filter_right
  intro location missed
  rw [List.all_cons, Bool.and_eq_true] at missed
  exact missed.2

theorem length_unentered_lt (path : String) {location : Location} {outer : List Step}
    (isDirectory : files.get? location = some .directory)
    (fresh : ∀ above ∈ outer, above.location ≠ location) :
    (unentered files (⟨path, location⟩ :: outer)).length < (unentered files outer).length := by
  have before : location ∈ unentered files outer := by
    apply List.mem_filter.mpr
    refine ⟨FileSystem.mem_directories_of_get? isDirectory, ?_⟩
    exact List.all_eq_true.mpr fun above member => decide_eq_true (fresh above member)
  have after : location ∉ unentered files (⟨path, location⟩ :: outer) := by
    intro member
    have missed := (List.mem_filter.mp member).2
    rw [List.all_cons, Bool.and_eq_true] at missed
    exact of_decide_eq_true missed.1 rfl
  have shorter := unentered_cons_sublist files ⟨path, location⟩ outer
  rcases Nat.lt_or_ge (unentered files (⟨path, location⟩ :: outer)).length
      (unentered files outer).length with less | same
  · exact less
  · rw [shorter.eq_of_length_le same] at after
    exact absurd before after

theorem rank_lt_of_descends {trail : List Step} {name : String} {next : Step}
    (descends : Descends files follow trail name next) :
    rank files (next :: trail) < rank files trail := by
  unfold rank
  cases descends with
  | @directory step outer _ _ isDirectory _ =>
      have within :=
        FileSystem.length_le_deepest ((FileSystem.get?_eq_some_iff (by simp)).mp isDirectory)
      rw [List.length_append, List.length_singleton] at within
      have fewer := (unentered_cons_sublist files
        ⟨Path.join step.path name, step.location ++ [name]⟩ (step :: outer)).length_le
      have scaled := Nat.mul_le_mul_right (deepest files + 1) fewer
      simp only [remaining, List.length_append, List.length_singleton]
      omega
  | @link step outer _ _ location _ _ leads fresh =>
      have isDirectory := (FileSystem.stat_eq_ok_iff.mp leads).2
      have fewer := length_unentered_lt (Path.join step.path name) isDirectory fresh
      have scaled := Nat.mul_le_mul_right (deepest files + 1) fewer
      rw [Nat.succ_mul] at scaled
      have bounded := remaining_le_deepest files
        (⟨Path.join step.path name, location⟩ :: step :: outer)
      omega

private theorem rank_lt_depthBound (files : FileSystem) (trail : List Step) :
    rank files trail < depthBound files := by
  have fewer : (unentered files trail).length ≤ directoryCount files := by
    rw [← FileSystem.length_directories]
    exact List.length_filter_le _ _
  have scaled := Nat.mul_le_mul_right (deepest files + 1) fewer
  have bounded := remaining_le_deepest files trail
  rw [depthBound, Nat.succ_mul, rank]
  omega

def Deeper (files : FileSystem) (follow : Bool) (longer trail : List Step) : Prop :=
  ∃ name next, Descends files follow trail name next ∧ longer = next :: trail

theorem wellFounded_deeper (files : FileSystem) (follow : Bool) :
    WellFounded (Deeper files follow) := by
  have lowers : Subrelation (Deeper files follow) (InvImage (· < ·) (rank files)) := by
    rintro longer trail ⟨name, next, descends, rfl⟩
    exact rank_lt_of_descends descends
  exact lowers.wf (InvImage.wf (rank files) Nat.lt_wfRel.wf)

/-- What holds of a directory whenever it holds of those that a walk can go into from there holds of
every directory on a way down. -/
theorem descent_induction {motive : Step → List Step → Prop} (files : FileSystem) (follow : Bool)
    (level : ∀ step outer, (∀ name next, Descends files follow (step :: outer) name next →
      motive next (step :: outer)) → motive step outer)
    (step : Step) (outer : List Step) : motive step outer := by
  have onTrail : ∀ trail step outer, trail = step :: outer → motive step outer := by
    intro trail
    induction trail using (wellFounded_deeper files follow).induction with
    | h trail deeper =>
        rintro step outer rfl
        apply level
        intro name next descends
        exact deeper _ ⟨name, next, descends, rfl⟩ next (step :: outer) rfl
  exact onTrail _ step outer rfl

/-! ### The walk without its bound -/

theorem inside_eq_of_rank_lt {fuel more : Nat} {names : List String} {step : Step}
    {outer : List Step} (enough : rank files (step :: outer) < fuel)
    (alsoEnough : rank files (step :: outer) < more) :
    inside files config fuel names step outer = inside files config more names step outer := by
  induction fuel generalizing more names step outer with
  | zero => omega
  | succ fuel ih =>
      cases more with
      | zero => omega
      | succ more =>
          unfold inside
          apply List.flatMap_congr
          intro name _
          cases turned : turn files config.followLinks names step outer name with
          | meet event => rfl
          | descend next =>
              have lower := rank_lt_of_descends (turn_eq_descend_iff.mp turned)
              have sameBelow : inside files config fuel (names ++ [name]) next (step :: outer) =
                  inside files config more (names ++ [name]) next (step :: outer) :=
                ih (by omega) (by omega)
              dsimp only
              rw [sameBelow]

def meets (files : FileSystem) (config : ScanConfig) (names : List String) (step : Step)
    (outer : List Step) (name : String) : List WalkEvent :=
  match turn files config.followLinks names step outer name with
  | .meet event => [event]
  | .descend next =>
    if name ∈ config.excludeDirs then []
    else inside files config (depthBound files) (names ++ [name]) next (step :: outer)

theorem meets_of_meet {names : List String} {step : Step} {outer : List Step} {name : String}
    {event : WalkEvent}
    (turned : turn files config.followLinks names step outer name = .meet event) :
    meets files config names step outer name = [event] := by
  rw [meets, turned]

theorem meets_of_descends {names : List String} {step next : Step} {outer : List Step}
    {name : String} (descends : Descends files config.followLinks (step :: outer) name next) :
    meets files config names step outer name =
      if name ∈ config.excludeDirs then []
      else inside files config (depthBound files) (names ++ [name]) next (step :: outer) := by
  rw [meets, turn_eq_descend_iff.mpr descends]

/-- The bound on the depth leaves no trace: it is the same bound again one level further down. -/
theorem inside_eq (names : List String) (step : Step) (outer : List Step) :
    inside files config (depthBound files) names step outer =
      (files.names step.location).flatMap (meets files config names step outer) := by
  have enough := rank_lt_depthBound files (step :: outer)
  rw [inside_eq_of_rank_lt enough (Nat.lt_succ_of_lt enough), inside]
  rfl

/-! ### The walk, entry by entry -/

structure Level where
  names : List String
  step : Step
  rest : List String

end Walk

/-- A walk on its way: what it has met, and the directories that it is inside of, the innermost first.
It has ended when it is inside of none. -/
structure Walker where
  met : List WalkEvent
  levels : List Walk.Level

namespace Walker

def start (files : FileSystem) (root : String) : Walker :=
  if Walk.isStandardInput root then ⟨[], []⟩
  else
    match files.stat root with
    | .error fault => ⟨[.failed root fault], []⟩
    | .ok (location, .directory) => ⟨[], [⟨[], ⟨root, location⟩, files.names location⟩]⟩
    | .ok _ => ⟨[.entry ⟨root, []⟩], []⟩

def move (files : FileSystem) (config : ScanConfig) : Walker → Walker
  | ⟨met, []⟩ => ⟨met, []⟩
  | ⟨met, ⟨_, _, []⟩ :: outer⟩ => ⟨met, outer⟩
  | ⟨met, ⟨names, step, name :: rest⟩ :: outer⟩ =>
    match Walk.turn files config.followLinks names step (outer.map (·.step)) name with
    | .meet event => ⟨met ++ [event], ⟨names, step, rest⟩ :: outer⟩
    | .descend next =>
      if name ∈ config.excludeDirs then ⟨met, ⟨names, step, rest⟩ :: outer⟩
      else
        ⟨met, ⟨names ++ [name], next, files.names next.location⟩ ::
          ⟨names, step, rest⟩ :: outer⟩

/-- From wherever a directory is being read inside of some others, it is read to its end and left. -/
def Leaves (files : FileSystem) (config : ScanConfig) (step : Walk.Step) (trail : List Walk.Step) :
    Prop :=
  ∀ (met : List WalkEvent) (names rest : List String) (outer : List Walk.Level),
    trail = outer.map (·.step) →
      ∃ moves, (move files config)^[moves] ⟨met, ⟨names, step, rest⟩ :: outer⟩ =
        ⟨met ++ rest.flatMap (Walk.meets files config names step trail), outer⟩

variable {files : FileSystem} {config : ScanConfig}

theorem passes_entry {step : Walk.Step} {outer : List Walk.Level}
    (deeper : ∀ name next,
      Walk.Descends files config.followLinks (step :: outer.map (·.step)) name next →
        Leaves files config next (step :: outer.map (·.step)))
    (met : List WalkEvent) (names : List String) (name : String) (rest : List String) :
    ∃ moves, (move files config)^[moves] ⟨met, ⟨names, step, name :: rest⟩ :: outer⟩ =
      ⟨met ++ Walk.meets files config names step (outer.map (·.step)) name,
        ⟨names, step, rest⟩ :: outer⟩ := by
  cases turned : Walk.turn files config.followLinks names step (outer.map (·.step)) name with
  | meet event =>
      refine ⟨1, ?_⟩
      rw [Walk.meets_of_meet turned, Function.iterate_one, move, turned]
  | descend next =>
      have descends := Walk.turn_eq_descend_iff.mp turned
      rw [Walk.meets_of_descends descends]
      by_cases excluded : name ∈ config.excludeDirs
      · refine ⟨1, ?_⟩
        rw [Function.iterate_one, move, turned]
        simp only [if_pos excluded, List.append_nil]
      · obtain ⟨moves, left⟩ := deeper name next descends met (names ++ [name])
          (files.names next.location) (⟨names, step, rest⟩ :: outer) rfl
        refine ⟨moves + 1, ?_⟩
        rw [Function.iterate_succ_apply, move, turned]
        simp only [if_neg excluded, left, Walk.inside_eq]

theorem leaves_level (files : FileSystem) (config : ScanConfig) (step : Walk.Step)
    (trail : List Walk.Step) : Leaves files config step trail := by
  -- The induction is on the way down, and for each directory on the entries to come.
  induction step, trail using Walk.descent_induction files config.followLinks with
  | level step trail deeper =>
      rintro met names rest outer rfl
      induction rest generalizing met with
      | nil =>
          refine ⟨1, ?_⟩
          rw [List.flatMap_nil, List.append_nil, Function.iterate_one, move]
      | cons name rest ih =>
          obtain ⟨moves, passed⟩ := passes_entry deeper met names name rest
          obtain ⟨further, ended⟩ := ih (met ++ Walk.meets files config names step
            (outer.map (·.step)) name)
          refine ⟨further + moves, ?_⟩
          rw [Function.iterate_add_apply, passed, ended, List.flatMap_cons, List.append_assoc]

theorem comes_to_end (files : FileSystem) (config : ScanConfig) (root : String) :
    ∃ moves, (move files config)^[moves] (start files root) =
      ⟨Walk.events files config root, []⟩ := by
  unfold start Walk.events
  by_cases nothing : Walk.isStandardInput root
  · rw [if_pos nothing, if_pos nothing]
    exact ⟨0, rfl⟩
  · rw [if_neg nothing, if_neg nothing]
    match files.stat root with
    | .error fault => exact ⟨0, rfl⟩
    | .ok (location, .directory) =>
        obtain ⟨moves, left⟩ := leaves_level files config ⟨root, location⟩ [] [] []
          (files.names location) [] rfl
        refine ⟨moves, ?_⟩
        dsimp only
        rw [left, Walk.inside_eq, List.nil_append]
    | .ok (_, .file _) => exact ⟨0, rfl⟩
    | .ok (_, .link _) => exact ⟨0, rfl⟩

end Walker

/-! ### Loops -/

def WalkEvent.isLoop : WalkEvent → Bool
  | .loop _ _ => true
  | _ => false

theorem Walk.yields_without_loops (files : FileSystem) (config : ScanConfig)
    (seen : List Location) (events : List WalkEvent) :
    (select files config seen events).filterMap WalkItem.yield? =
      (select files config seen (events.filter (!·.isLoop))).filterMap WalkItem.yield? := by
  induction events generalizing seen with
  | nil => rfl
  | cons event rest ih =>
      cases event with
      | loop path ancestor => exact ih seen
      | failed path fault =>
          rw [List.filter_cons_of_pos rfl, select, select, List.filterMap_cons, ih seen]
          rfl
      | entry candidate =>
          rw [List.filter_cons_of_pos rfl, select, select]
          split
          · split
            · rw [List.filterMap_cons, ih seen]
              rfl
            · split
              · rw [List.filterMap_cons, ih seen]
                rfl
              · rename_i location _ _
                rw [List.filterMap_cons, ih (location :: seen)]
                rfl
          · exact ih seen

/-- Every walk ends. There is no endless way down, in whatever order entries are taken and whatever
names are excluded; a walk that goes on entry by entry is done after finitely many moves, and has then
met what `Walk.events` lists; and what it yields is what it would yield if it had met no loops. -/
theorem walk_ends (files : FileSystem) (config : ScanConfig) (root : String) :
    (∀ follow, WellFounded (Walk.Deeper files follow)) ∧
    (∃ moves, (Walker.move files config)^[moves] (Walker.start files root) =
      ⟨Walk.events files config root, []⟩) ∧
    Walk.stream files config root =
      (Walk.select files config [] ((Walk.events files config root).filter (!·.isLoop))).filterMap
        WalkItem.yield? :=
  ⟨Walk.wellFounded_deeper files, Walker.comes_to_end files config root,
    Walk.yields_without_loops files config [] (Walk.events files config root)⟩

def loopingFiles : FileSystem where
  nodes :=
    [(["work"], .directory), (["work", "src"], .directory), (["work", "src", "loop"], .link "/work")]
  workingDirectory := ["work"]
  distinct := by decide
  inPlace := by decide

example : Walk.turn loopingFiles true ["src"] ⟨"./src", ["work", "src"]⟩ [⟨".", ["work"]⟩] "loop" =
    .meet (.loop "./src/loop" ".") := by
  decide +kernel

end InjectionLint
