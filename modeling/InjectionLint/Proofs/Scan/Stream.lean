import InjectionLint.Scan.Project

/-!
The outcome of a project scan, told by the stream of its walk. A stream is what a walk hands to its
caller, item by item: a path or an error. An item passes if it is a path whose file scans without a
warning; the first item that does not pass decides the outcome, and no later one has a part in it.
-/

set_option autoImplicit false

namespace InjectionLint

/-- What the caller of a walk is handed. A note is only logged. -/
def WalkItem.yield? : WalkItem → Option (Except ScanError String)
  | .found path => some (.ok path)
  | .failed cause => some (.error cause)
  | .note _ => none

def Walk.stream (files : FileSystem) (config : ScanConfig) (root : String) :
    List (Except ScanError String) :=
  (Walk.items files config root).filterMap WalkItem.yield?

namespace Scan

def Passes (scan : String → Except ScanError Report) (item : Except ScanError String) : Prop :=
  ∃ path report, item = .ok path ∧ scan path = .ok report ∧ report.warnings = []

def Flags (scan : String → Except ScanError Report) (item : Except ScanError String)
    (report : Report) : Prop :=
  ∃ path, item = .ok path ∧ scan path = .ok report ∧ report.warnings ≠ []

def FailsWith (scan : String → Except ScanError Report) (item : Except ScanError String)
    (cause : ScanError) : Prop :=
  item = .error cause ∨ ∃ path, item = .ok path ∧ scan path = .error cause

def settle (scan : String → Except ScanError Report) (scanned : Nat) :
    List (Except ScanError String) → Except ScanError Outcome
  | [] => .ok (.clean scanned)
  | .error cause :: _ => .error cause
  | .ok path :: rest =>
    match scan path with
    | .error cause => .error cause
    | .ok report =>
      if report.isFlagged then .ok (.flagged report (scanned + 1))
      else settle scan (scanned + 1) rest

variable {scan other : String → Except ScanError Report} {item : Except ScanError String}

/-! ### One item -/

private theorem isFlagged_iff (report : Report) :
    report.isFlagged = true ↔ report.warnings ≠ [] := by
  unfold Report.isFlagged
  cases report.warnings with
  | nil => simp
  | cons warning rest => simp

theorem item_cases (scan : String → Except ScanError Report) (item : Except ScanError String) :
    Passes scan item ∨ (∃ report, Flags scan item report) ∨ ∃ cause, FailsWith scan item cause := by
  cases item with
  | error cause => exact Or.inr (Or.inr ⟨cause, Or.inl rfl⟩)
  | ok path =>
      cases scanned : scan path with
      | error cause => exact Or.inr (Or.inr ⟨cause, Or.inr ⟨path, rfl, scanned⟩⟩)
      | ok report =>
          by_cases quiet : report.warnings = []
          · exact Or.inl ⟨path, report, rfl, scanned, quiet⟩
          · exact Or.inr (Or.inl ⟨report, path, rfl, scanned, quiet⟩)

private theorem settle_of_passes (passes : Passes scan item) (scanned : Nat)
    (rest : List (Except ScanError String)) :
    settle scan scanned (item :: rest) = settle scan (scanned + 1) rest := by
  obtain ⟨path, report, rfl, found, quiet⟩ := passes
  have unflagged : ¬report.isFlagged = true := by
    intro flagged
    exact (isFlagged_iff report).mp flagged quiet
  simp only [settle, found, if_neg unflagged]

private theorem settle_of_flags {report : Report} (flags : Flags scan item report) (scanned : Nat)
    (rest : List (Except ScanError String)) :
    settle scan scanned (item :: rest) = .ok (.flagged report (scanned + 1)) := by
  obtain ⟨path, rfl, found, loud⟩ := flags
  simp only [settle, found, if_pos ((isFlagged_iff report).mpr loud)]

private theorem settle_of_fails {cause : ScanError} (fails : FailsWith scan item cause)
    (scanned : Nat)
    (rest : List (Except ScanError String)) :
    settle scan scanned (item :: rest) = .error cause := by
  rcases fails with rfl | ⟨path, rfl, failed⟩
  · rfl
  · simp only [settle, failed]

/-! ### A whole stream -/

theorem settle_append_of_passes {before : List (Except ScanError String)}
    (pass : ∀ earlier ∈ before, Passes scan earlier) (scanned : Nat)
    (rest : List (Except ScanError String)) :
    settle scan scanned (before ++ rest) = settle scan (scanned + before.length) rest := by
  induction before generalizing scanned with
  | nil => rfl
  | cons head tail ih =>
      have headPasses := pass head List.mem_cons_self
      have tailPasses : ∀ earlier ∈ tail, Passes scan earlier := by
        intro earlier member
        exact pass earlier (List.mem_cons_of_mem head member)
      rw [List.cons_append, settle_of_passes headPasses, ih tailPasses, List.length_cons]
      congr 1
      omega

theorem settle_of_all_pass {stream : List (Except ScanError String)}
    (allPass : ∀ item ∈ stream, Passes scan item) :
    settle scan 0 stream = .ok (.clean stream.length) := by
  have settled := settle_append_of_passes allPass 0 []
  rw [List.append_nil, Nat.zero_add] at settled
  exact settled

theorem settle_of_first_flags {before later : List (Except ScanError String)} {report : Report}
    (pass : ∀ earlier ∈ before, Passes scan earlier) (flags : Flags scan item report) :
    settle scan 0 (before ++ item :: later) = .ok (.flagged report (before.length + 1)) := by
  rw [settle_append_of_passes pass, settle_of_flags flags, Nat.zero_add]

theorem settle_of_first_fails {before later : List (Except ScanError String)} {cause : ScanError}
    (pass : ∀ earlier ∈ before, Passes scan earlier) (fails : FailsWith scan item cause) :
    settle scan 0 (before ++ item :: later) = .error cause := by
  rw [settle_append_of_passes pass, settle_of_fails fails]

theorem stream_cases (scan : String → Except ScanError Report)
    (stream : List (Except ScanError String)) :
    (∀ item ∈ stream, Passes scan item) ∨
      ∃ before item later, stream = before ++ item :: later ∧
        (∀ earlier ∈ before, Passes scan earlier) ∧
        ((∃ report, Flags scan item report) ∨ ∃ cause, FailsWith scan item cause) := by
  induction stream with
  | nil =>
      refine Or.inl ?_
      intro item member
      cases member
  | cons head tail ih =>
      rcases item_cases scan head with headPasses | stops
      · rcases ih with allPass | ⟨before, item, later, split, pass, stops⟩
        · exact Or.inl (List.forall_mem_cons.mpr ⟨headPasses, allPass⟩)
        · refine Or.inr ⟨head :: before, item, later, ?_, ?_, stops⟩
          · rw [split, List.cons_append]
          · exact List.forall_mem_cons.mpr ⟨headPasses, pass⟩
      · refine Or.inr ⟨[], head, tail, rfl, ?_, stops⟩
        intro earlier member
        cases member

theorem settle_eq_flagged_iff (stream : List (Except ScanError String)) (report : Report)
    (scanned : Nat) :
    settle scan 0 stream = .ok (.flagged report scanned) ↔
      ∃ before item later, stream = before ++ item :: later ∧ scanned = before.length + 1 ∧
        (∀ earlier ∈ before, Passes scan earlier) ∧ Flags scan item report := by
  constructor
  · intro settled
    rcases stream_cases scan stream with
      allPass | ⟨before, item, later, rfl, pass, ⟨first, flags⟩ | ⟨cause, fails⟩⟩
    · rw [settle_of_all_pass allPass] at settled
      cases settled
    · rw [settle_of_first_flags pass flags] at settled
      cases settled
      exact ⟨before, item, later, rfl, rfl, pass, flags⟩
    · rw [settle_of_first_fails pass fails] at settled
      cases settled
  · rintro ⟨before, item, later, rfl, rfl, pass, flags⟩
    exact settle_of_first_flags pass flags

theorem settle_eq_error_iff (stream : List (Except ScanError String)) (cause : ScanError) :
    settle scan 0 stream = .error cause ↔
      ∃ before item later, stream = before ++ item :: later ∧
        (∀ earlier ∈ before, Passes scan earlier) ∧ FailsWith scan item cause := by
  constructor
  · intro settled
    rcases stream_cases scan stream with
      allPass | ⟨before, item, later, rfl, pass, ⟨report, flags⟩ | ⟨first, fails⟩⟩
    · rw [settle_of_all_pass allPass] at settled
      cases settled
    · rw [settle_of_first_flags pass flags] at settled
      cases settled
    · have same : first = cause := by
        rw [settle_of_first_fails pass fails] at settled
        exact Except.error.inj settled
      subst same
      exact ⟨before, item, later, rfl, pass, fails⟩
  · rintro ⟨before, item, later, rfl, pass, fails⟩
    exact settle_of_first_fails pass fails

theorem settle_eq_clean_iff (stream : List (Except ScanError String)) (scanned : Nat) :
    settle scan 0 stream = .ok (.clean scanned) ↔
      stream.length = scanned ∧ ∀ item ∈ stream, Passes scan item := by
  constructor
  · intro settled
    rcases stream_cases scan stream with
      allPass | ⟨before, item, later, rfl, pass, ⟨report, flags⟩ | ⟨cause, fails⟩⟩
    · rw [settle_of_all_pass allPass] at settled
      cases settled
      exact ⟨rfl, allPass⟩
    · rw [settle_of_first_flags pass flags] at settled
      cases settled
    · rw [settle_of_first_fails pass fails] at settled
      cases settled
  · rintro ⟨rfl, allPass⟩
    exact settle_of_all_pass allPass

/-! ### Two scans of one stream -/

theorem Passes.transfer (agree : ∀ path, item = .ok path → scan path = other path)
    (passes : Passes scan item) : Passes other item := by
  obtain ⟨path, report, isPath, found, quiet⟩ := passes
  rw [agree path isPath] at found
  exact ⟨path, report, isPath, found, quiet⟩

theorem Flags.transfer {report : Report}
    (agree : ∀ path, item = .ok path → scan path = other path)
    (flags : Flags scan item report) : Flags other item report := by
  obtain ⟨path, isPath, found, loud⟩ := flags
  rw [agree path isPath] at found
  exact ⟨path, isPath, found, loud⟩

theorem FailsWith.transfer {cause : ScanError}
    (agree : ∀ path, item = .ok path → scan path = other path)
    (fails : FailsWith scan item cause) : FailsWith other item cause := by
  rcases fails with ofWalk | ⟨path, isPath, failed⟩
  · exact Or.inl ofWalk
  · rw [agree path isPath] at failed
    exact Or.inr ⟨path, isPath, failed⟩

/-- Two ways to scan files that agree up to the first item that does not pass have the same outcome,
whatever comes later. -/
theorem settle_eq_of_agree_to_stop {before later otherLater : List (Except ScanError String)}
    (pass : ∀ earlier ∈ before, Passes scan earlier) (stops : ¬Passes scan item)
    (agree : ∀ path, .ok path ∈ before ++ [item] → scan path = other path) :
    settle other 0 (before ++ item :: otherLater) = settle scan 0 (before ++ item :: later) := by
  have agreeBefore : ∀ earlier ∈ before, ∀ path, earlier = .ok path → scan path = other path := by
    intro earlier member path isPath
    exact agree path (List.mem_append_left [item] (isPath ▸ member))
  have agreeItem : ∀ path, item = .ok path → scan path = other path := by
    intro path isPath
    exact agree path (List.mem_append_right before (isPath ▸ List.mem_singleton_self item))
  have passOther : ∀ earlier ∈ before, Passes other earlier := by
    intro earlier member
    exact (pass earlier member).transfer (agreeBefore earlier member)
  rcases item_cases scan item with passes | ⟨report, flags⟩ | ⟨cause, fails⟩
  · exact absurd passes stops
  · rw [settle_of_first_flags pass flags,
      settle_of_first_flags passOther (flags.transfer agreeItem)]
  · rw [settle_of_first_fails pass fails,
      settle_of_first_fails passOther (fails.transfer agreeItem)]

/-! ### Project scans -/

theorem scanItems_value (scanLogged : String → Logged (Except ScanError Report)) (scanned : Nat)
    (items : List WalkItem) :
    (scanItems scanLogged scanned items).value =
      settle (fun path => (scanLogged path).value) scanned
        (items.filterMap WalkItem.yield?) := by
  induction items generalizing scanned with
  | nil => rfl
  | cons head tail ih =>
      cases head with
      | note record => exact ih scanned
      | failed cause => rfl
      | found path =>
          change ((scanLogged path).andThenOk _).value = settle _ scanned (.ok path :: _)
          simp only [Logged.andThenOk, Logged.andThen, settle]
          cases (scanLogged path).value with
          | error cause => rfl
          | ok report =>
              by_cases flagged : report.isFlagged = true
              · simp only [if_pos flagged]
                rfl
              · simp only [if_neg flagged]
                exact ih (scanned + 1)

theorem scanProject_value (parser : Parser) (files : FileSystem) (root : String)
    (config : ScanConfig) :
    (scanProject parser files root config).value =
      settle (fun path => (scanFile parser files path).value) 0
        (Walk.stream files config root) :=
  scanItems_value (scanFile parser files) 0 (Walk.items files config root)

private theorem scanFile_eq_of_readText (parser : Parser) {files others : FileSystem}
    {path : String}
    (same : files.readText path = others.readText path) :
    scanFile parser files path = scanFile parser others path := by
  unfold scanFile
  rw [same]

end Scan

/-- A project scan ends at the first item of the walk's stream that is not a path with a clean file.
It is flagged with that file's report, counting the files up to it, or fails with that item's error; if
there is no such item the project is clean. A file system whose stream and contents are the same up to
that item has the same outcome. -/
theorem scanProject_stops_at_first (parser : Parser) (files : FileSystem) (root : String)
    (config : ScanConfig) :
    let scan := fun path => (scanFile parser files path).value
    let stream := Walk.stream files config root
    let outcome := (scanProject parser files root config).value
    (∀ report scanned, outcome = .ok (.flagged report scanned) ↔
      ∃ before item later, stream = before ++ item :: later ∧ scanned = before.length + 1 ∧
        (∀ earlier ∈ before, Scan.Passes scan earlier) ∧ Scan.Flags scan item report) ∧
    (∀ cause, outcome = .error cause ↔
      ∃ before item later, stream = before ++ item :: later ∧
        (∀ earlier ∈ before, Scan.Passes scan earlier) ∧ Scan.FailsWith scan item cause) ∧
    (∀ scanned, outcome = .ok (.clean scanned) ↔
      stream.length = scanned ∧ ∀ item ∈ stream, Scan.Passes scan item) ∧
    ∀ others before item later otherLater, stream = before ++ item :: later →
      Walk.stream others config root = before ++ item :: otherLater →
      (∀ earlier ∈ before, Scan.Passes scan earlier) → ¬Scan.Passes scan item →
      (∀ path, .ok path ∈ before ++ [item] → files.readText path = others.readText path) →
      (scanProject parser others root config).value = outcome := by
  intro scan stream outcome
  have settled : outcome = Scan.settle scan 0 stream :=
    Scan.scanProject_value parser files root config
  rw [settled]
  refine ⟨Scan.settle_eq_flagged_iff stream, Scan.settle_eq_error_iff stream,
    Scan.settle_eq_clean_iff stream, ?_⟩
  intro others before item later otherLater split otherSplit pass stops sameContents
  rw [Scan.scanProject_value, otherSplit, split]
  apply Scan.settle_eq_of_agree_to_stop pass stops
  intro path member
  exact congrArg Logged.value (Scan.scanFile_eq_of_readText parser (sameContents path member))

end InjectionLint
