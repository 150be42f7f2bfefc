import GuardedInstall.Proofs.Run.Gate
import GuardedInstall.Proofs.Run.StateFiles

/-!
# What the exit status tells

Each exit code of the program has a cause in what the run did and found, and no two of
them can have come about in one run. The exit code of a stage's own process, where it is
preserved, takes the place of the program's code for that stage and of no other.
-/

namespace GuardedInstall.Pipeline

open GuardedInstall.Lockfile (Dependency)
open GuardedInstall.Sandbox (Stage)
open GuardedInstall.File (System)

/-! ## Causes -/

/-- The process of a stage ran and did not exit with zero. -/
def Failed (acts : List Act) (stage : Stage) : Prop :=
  ∃ process, process? acts stage = some process ∧ process.ending ≠ .exited 0

/-- The lockfile that a dry run left was read and refused. -/
def Refused (root : File.Path) (acts : List Act) : Prop :=
  ∃ dry refusal, process? acts .dryRun = some dry ∧ dry.ending = .exited 0 ∧
    Lockfile.parse dry.left (root.child lockfile) "yarn" = .error (.refused refusal)

/-- An analysis that the run asked for was answered in a certain way. -/
def Answered (analyzer : Analysis.Analyzer) (acts : List Act)
    (kind : Except Analysis.Failure Analysis.Evaluation → Prop) : Prop :=
  ∃ dependencies ∈ consultations acts, kind (analyzer dependencies).2

/-- Of the project that a run is in, if it is in one. -/
def InProject (directory : File.Path) (files : System) (holds : File.Path → Prop) : Prop :=
  ∃ root, files.findRoot manifest directory System.searchDepth = .ok (some root) ∧ holds root

/-- What an exit code says about a guarded run. -/
def Cause (analyzer : Analysis.Analyzer) (directory : File.Path) (files : System)
    (acts : List Act) : ExitCode → Prop
  | .ok => Succeeded acts .dryRun ∧ Succeeded acts .cache ∧ Succeeded acts .build ∧
      InProject directory files fun root =>
        ∃ dry dependencies, Gate analyzer root acts dry dependencies
  | .dryRunFailed => Failed acts .dryRun ∨ InProject directory files (Refused · acts)
  | .cacheFailed => Failed acts .cache
  | .buildFailed => Failed acts .build
  | .analysisError => Answered analyzer acts fun answer =>
      ∃ error, answer = .error (.reported error)
  | .rootNotFound => files.findRoot manifest directory System.searchDepth = .ok none
  | .usage => InProject directory files fun root => ∃ name ∈ stateFiles, ∃ error,
      File.Snapshot.capture files (root.child name) = .error error
  | .incomplete => Answered analyzer acts fun answer => ∃ evaluation, answer = .ok evaluation ∧
      evaluation.isFailure = false ∧ 0 < evaluation.incompleteCount
  | .policyFailure => Answered analyzer acts fun answer => ∃ evaluation,
      answer = .ok evaluation ∧ evaluation.isFailure = true

section

variable {setup : Setup} {analyzer : Analysis.Analyzer} {root : File.Path}
  {arguments : List String} {directory : File.Path} {snapshots : List File.Snapshot}
  {found left : System} {dry cache : Process} {dependencies : List Dependency}
  {acts more : List Act} {outcome : Outcome}

theorem inProject_iff {holds : File.Path → Prop}
    (searched : found.findRoot manifest directory System.searchDepth = .ok (some root)) :
    InProject directory found holds ↔ holds root := by
  simp [InProject, searched]

/-- Where the state files were recorded, there is none that could not be. -/
theorem captured_iff_false (captured : captureState found root = .ok snapshots) :
    (∃ name ∈ stateFiles, ∃ error,
      File.Snapshot.capture found (root.child name) = .error error) ↔ False := by
  rw [← exists_captureState_eq_error_iff, captured]
  simp

theorem Cleared.not_answered {files : System}
    (cleared : Cleared analyzer files dependencies acts) (quiet : consultations more = [])
    {kind : Except Analysis.Failure Analysis.Evaluation → Prop}
    (objects : ∀ evaluation, verdict? evaluation = none → ¬ kind (.ok evaluation)) :
    ¬ Answered analyzer (.ran dry :: (acts ++ more)) kind := by
  rintro ⟨others, asked, answered⟩
  simp only [consultations_ran, consultations_append, quiet, List.append_nil] at asked
  cases cleared with
  | empty => cases asked
  | analysed nonempty answer passes =>
      rw [consultations_consulted, consultations_nil, List.mem_singleton] at asked
      rw [asked, answer] at answered
      exact objects _ passes answered

/-- The exit codes of runs that have passed the gate. -/
def behindGate : List ExitCode := [.ok, .cacheFailed, .buildFailed]

/-- Behind the gate, nothing but the download or the build can be the cause of a
failure. -/
theorem Admitted.not_cause
    (searched : found.findRoot manifest directory System.searchDepth = .ok (some root))
    (captured : captureState found root = .ok snapshots)
    (admitted : Admitted setup analyzer root arguments snapshots found dry dependencies acts)
    (quiet : consultations more = []) {code : ExitCode}
    (other : code ∉ behindGate) :
    ¬ Cause analyzer directory found (.ran dry :: (acts ++ more)) code := by
  cases code with
  | ok => simp [behindGate] at other
  | cacheFailed => simp [behindGate] at other
  | buildFailed => simp [behindGate] at other
  | rootNotFound => simp [Cause, searched]
  | usage => simp [Cause, inProject_iff searched, captured_iff_false captured]
  | dryRunFailed =>
      rw [Cause, inProject_iff searched]
      rintro (⟨process, ⟨⟩, failed⟩ | ⟨process, refusal, ⟨⟩, -, refused⟩)
      · exact failed admitted.resolved.clean
      · rw [admitted.resolved.parsed] at refused
        cases refused
  | analysisError =>
      rw [Cause]
      apply admitted.cleared.not_answered quiet
      rintro evaluation passes ⟨error, ⟨⟩⟩
  | incomplete =>
      rw [Cause]
      apply admitted.cleared.not_answered quiet
      rintro evaluation passes ⟨_, ⟨⟩, -, incomplete⟩
      exact (verdict?_eq_none_iff.mp passes).2 incomplete
  | policyFailure =>
      rw [Cause]
      apply admitted.cleared.not_answered quiet
      rintro evaluation passes ⟨_, ⟨⟩, failure⟩
      rw [(verdict?_eq_none_iff.mp passes).1] at failure
      cases failure

/-- Behind the gate, three exit codes are left to be told apart. -/
theorem Admitted.code_eq_iff
    (searched : found.findRoot manifest directory System.searchDepth = .ok (some root))
    (captured : captureState found root = .ok snapshots)
    (admitted : Admitted setup analyzer root arguments snapshots found dry dependencies acts)
    (quiet : consultations more = []) {own : ExitCode} (ownMem : own ∈ behindGate)
    (behind : ∀ code ∈ behindGate,
      own = code ↔ Cause analyzer directory found (.ran dry :: (acts ++ more)) code)
    (code : ExitCode) :
    own = code ↔ Cause analyzer directory found (.ran dry :: (acts ++ more)) code := by
  by_cases member : code ∈ behindGate
  · exact behind code member
  · apply iff_of_false
    · rintro rfl
      exact member ownMem
    · exact admitted.not_cause searched captured quiet member

/-- The exit code of a run in a project is the one whose cause came about. -/
theorem Passage.code_eq_iff
    (searched : found.findRoot manifest directory System.searchDepth = .ok (some root))
    (captured : captureState found root = .ok snapshots)
    (passage : Passage setup analyzer root arguments snapshots found acts left (.ok outcome))
    (code : ExitCode) : outcome.code = code ↔ Cause analyzer directory found acts code := by
  have recorded := captured_iff_false captured
  cases passage with
  | dryRunFailed stage ended failed =>
      have lost := ending_ne_of_not_succeeded ended failed
      cases code <;>
        simp [Cause, inProject_iff searched, searched, recorded, Failed, Answered, process?,
          Succeeded, Outcome.safeFailure, lost]
  | lockfileRefused stage clean refused =>
      cases code <;>
        simp [Cause, inProject_iff searched, searched, recorded, Failed, Answered, Refused,
          process?, Succeeded, Outcome.safeFailure, clean, refused]
  | analysisFailed resolved nonempty answer =>
      cases code <;>
        simp [Cause, inProject_iff searched, searched, recorded, Failed, Answered, Refused,
          process?, Succeeded, resolved.clean, resolved.parsed, answer]
  | held resolved nonempty answer held =>
      rcases verdict?_eq_some_iff.mp held with ⟨failure, rfl⟩ | ⟨success, incomplete, rfl⟩
      · cases code <;>
          simp [Cause, inProject_iff searched, searched, recorded, Failed, Answered, Refused,
            process?, Succeeded, resolved.clean, resolved.parsed, answer, failure]
      · cases code <;>
          simp [Cause, inProject_iff searched, searched, recorded, Failed, Answered, Refused,
            process?, Succeeded, resolved.clean, resolved.parsed, answer, success, incomplete]
  | @cacheFailed dry cache dependencies analysis result admitted stage ended failed =>
      have lost := ending_ne_of_not_succeeded ended failed
      have ran : processes (.ran dry :: (analysis ++ [.ran cache])) = [dry, cache] := by
        simp [admitted.cleared.processes_eq]
      apply admitted.code_eq_iff searched captured rfl (by simp [behindGate, Outcome.safeFailure])
      simp [behindGate, Cause, inProject_iff searched, Failed, Succeeded, process?, ran, lost,
        Outcome.safeFailure]
  | @buildFailed dry cache build dependencies analysis result downloaded stage ended failed =>
      have lost := ending_ne_of_not_succeeded ended failed
      have ran : processes (.ran dry :: (analysis ++ [.ran cache, .ran build])) =
          [dry, cache, build] := by
        simp [downloaded.admitted.cleared.processes_eq]
      apply downloaded.admitted.code_eq_iff searched captured rfl
        (by simp [behindGate, Outcome.riskFailure])
      simp [behindGate, Cause, inProject_iff searched, Failed, Succeeded, process?, ran,
        downloaded.clean, lost, Outcome.riskFailure]
  | @installed dry cache build dependencies analysis downloaded stage built =>
      have gate : Gate analyzer root (.ran dry :: (analysis ++ [.ran cache, .ran build])) dry
          dependencies := downloaded.admitted.gate rfl
      have ran : processes (.ran dry :: (analysis ++ [.ran cache, .ran build])) =
          [dry, cache, build] := by
        simp [downloaded.admitted.cleared.processes_eq]
      have opened : ∃ first listed, Gate analyzer root
          (.ran dry :: (analysis ++ [.ran cache, .ran build])) first listed :=
        ⟨dry, dependencies, gate⟩
      apply downloaded.admitted.code_eq_iff searched captured rfl
        (by simp [behindGate, Outcome.success])
      simpa [behindGate, Cause, inProject_iff searched, Failed, Succeeded, process?, ran,
        gate.clean, downloaded.clean, built, Outcome.success] using opened

/-- The exit code of a run is the one whose cause came about. -/
theorem Guarded.code_eq_iff
    (guarded : Guarded setup analyzer arguments directory found acts left (.ok outcome))
    (code : ExitCode) : outcome.code = code ↔ Cause analyzer directory found acts code := by
  cases guarded with
  | rootMissing searched =>
      cases code <;>
        simp [Cause, InProject, Failed, Answered, Succeeded, process?, searched]
  | captureFailed searched refused =>
      have unrecorded := exists_captureState_eq_error_iff.mp ⟨_, refused⟩
      cases code <;>
        simp [Cause, inProject_iff searched, Failed, Refused, Answered, Succeeded, process?,
          searched]
      exact unrecorded
  | passed searched captured passage =>
      exact passage.code_eq_iff searched captured code

/-! ## Preserved exit codes -/

/-- What a stage's own exit code may stand for. -/
theorem filter_exitCode_eq_some_iff {ending : Child.Ending} {result : StageResult}
    (ended : Sandbox.resultOf ending = .ok result) (status : Int) :
    result.exitCode.filter (· ≠ 0) = some status ↔
      ∃ code : Nat, ending = .exited code ∧ code ≠ 0 ∧ status = code := by
  cases ending with
  | exited code =>
      cases ended
      rw [Option.filter_eq_some_iff]
      simp only [Option.some.injEq, decide_not, Bool.not_eq_true', decide_eq_false_iff_not,
        Child.Ending.exited.injEq, exists_eq_left', ne_eq]
      omega
  | killed signal =>
      cases ended
      simp
  | failed failure => cases ended

/-- An exit code is preserved exactly when it is the code, other than zero, of a process
of the run. -/
theorem Passage.preserved_eq_some_iff
    (passage : Passage setup analyzer root arguments snapshots found acts left (.ok outcome))
    (status : Int) :
    outcome.preserved = some status ↔ ∃ process ∈ processes acts, ∃ code : Nat,
      process.ending = .exited code ∧ code ≠ 0 ∧ status = code := by
  cases passage with
  | dryRunFailed stage ended failed =>
      simpa [Outcome.preserved, Outcome.safeFailure] using
        filter_exitCode_eq_some_iff ended status
  | lockfileRefused stage clean refused =>
      simp [Outcome.preserved, Outcome.safeFailure, clean]
  | analysisFailed resolved nonempty answer =>
      simp [Outcome.preserved, resolved.clean]
  | held resolved nonempty answer held =>
      rcases verdict?_eq_some_iff.mp held with ⟨-, rfl⟩ | ⟨-, -, rfl⟩
      · simp [Outcome.preserved, resolved.clean]
      · simp [Outcome.preserved, resolved.clean]
  | cacheFailed admitted stage ended failed =>
      simpa [Outcome.preserved, Outcome.safeFailure, admitted.cleared.processes_eq,
        admitted.resolved.clean] using filter_exitCode_eq_some_iff ended status
  | buildFailed downloaded stage ended failed =>
      simpa [Outcome.preserved, Outcome.riskFailure, downloaded.admitted.cleared.processes_eq,
        downloaded.admitted.resolved.clean, downloaded.clean] using
        filter_exitCode_eq_some_iff ended status
  | installed downloaded stage built =>
      simp [Outcome.preserved, Outcome.success, downloaded.admitted.cleared.processes_eq,
        downloaded.admitted.resolved.clean, downloaded.clean, built]

/-- Where all three stages succeeded, no process exited otherwise. -/
theorem Reached.forall_exited_zero {result : Except Departure Outcome}
    (reached : Reached analyzer root acts result) (dryRun : Succeeded acts .dryRun)
    (download : Succeeded acts .cache) (built : Succeeded acts .build) :
    ∀ process ∈ processes acts, process.ending = .exited 0 := by
  obtain ⟨first, firstRan, firstClean⟩ := dryRun
  obtain ⟨second, secondRan, secondClean⟩ := download
  obtain ⟨third, thirdRan, thirdClean⟩ := built
  simp only [process?] at firstRan secondRan thirdRan
  cases reached with
  | dryRun few shut failed =>
      rw [List.getElem?_eq_none few] at secondRan
      cases secondRan
  | cache gate ran lost failed =>
      rw [ran] at thirdRan
      cases thirdRan
  | build gate ran clean ended =>
      rw [ran] at firstRan secondRan thirdRan ⊢
      cases firstRan
      cases secondRan
      cases thirdRan
      simp [firstClean, secondClean, thirdClean]

/-- The first process that does not exit with zero is the last one. -/
theorem Reached.eq_of_ending_ne {result : Except Departure Outcome}
    (reached : Reached analyzer root acts result) {first second : Process}
    (firstRan : first ∈ processes acts) (secondRan : second ∈ processes acts)
    (firstFailed : first.ending ≠ .exited 0) (secondFailed : second.ending ≠ .exited 0) :
    first = second := by
  cases reached with
  | dryRun few shut failed =>
      match listed : processes acts with
      | [] =>
          rw [listed] at firstRan
          cases firstRan
      | [only] =>
          rw [listed, List.mem_singleton] at firstRan secondRan
          rw [firstRan, secondRan]
      | one :: another :: rest =>
          rw [listed] at few
          simp at few
  | @cache dry cache _ gate ran lost failed =>
      have only {process : Process} (member : process ∈ processes acts)
          (failed : process.ending ≠ .exited 0) : process = cache := by
        simp only [ran, List.mem_cons, List.not_mem_nil, or_false] at member
        rcases member with rfl | rfl
        · exact absurd gate.clean failed
        · rfl
      rw [only firstRan firstFailed, only secondRan secondFailed]
  | @build dry cache build _ gate ran clean ended =>
      have only {process : Process} (member : process ∈ processes acts)
          (failed : process.ending ≠ .exited 0) : process = build := by
        simp only [ran, List.mem_cons, List.not_mem_nil, or_false] at member
        rcases member with rfl | rfl | rfl
        · exact absurd gate.clean failed
        · exact absurd clean failed
        · rfl
      rw [only firstRan firstFailed, only secondRan secondFailed]

/-- A refused lockfile comes from the only process, which exited with zero. -/
theorem Reached.forall_exited_zero_of_refused {result : Except Departure Outcome}
    (reached : Reached analyzer root acts result) (refused : Refused root acts) :
    ∀ process ∈ processes acts, process.ending = .exited 0 := by
  obtain ⟨dry, refusal, ran, clean, refused⟩ := refused
  have shut {first : Process} {dependencies : List Dependency} :
      ¬ Gate analyzer root acts first dependencies := by
    intro gate
    have same := gate.ran
    rw [ran] at same
    cases same
    have parsed := gate.parsed
    rw [refused] at parsed
    cases parsed
  cases reached with
  | cache gate ran lost failed => exact absurd gate shut
  | build gate ran clean ended => exact absurd gate shut
  | dryRun few _ failed =>
      intro process listed
      obtain ⟨position, bound, rfl⟩ := List.getElem_of_mem listed
      have first : position = 0 := by omega
      subst first
      simp only [process?, List.getElem?_eq_getElem bound, Option.some.injEq] at ran
      rw [ran]
      exact clean

theorem Guarded.kind_ne_passthrough
    (guarded : Guarded setup analyzer arguments directory found acts left (.ok outcome)) :
    outcome.kind ≠ .passthrough := by
  intro same
  have member := guarded.kind_mem
  simp [same, stageKinds] at member

theorem Guarded.preserved_eq_some_iff
    (guarded : Guarded setup analyzer arguments directory found acts left (.ok outcome))
    (status : Int) :
    outcome.preserved = some status ↔ ∃ process ∈ processes acts, ∃ code : Nat,
      process.ending = .exited code ∧ code ≠ 0 ∧ status = code := by
  cases guarded with
  | rootMissing searched =>
      simp [Outcome.preserved]
  | captureFailed searched refused =>
      simp [Outcome.preserved]
  | passed searched captured passage =>
      exact passage.preserved_eq_some_iff status

/-- A guarded run does nothing, or it is in a project and comes to the gate. -/
theorem Guarded.reached {result : Except Departure Outcome}
    (guarded : Guarded setup analyzer arguments directory found acts left result) :
    acts = [] ∨ ∃ root,
      found.findRoot manifest directory System.searchDepth = .ok (some root) ∧
        Reached analyzer root acts result := by
  cases guarded with
  | searchFailed searched => exact .inl rfl
  | rootMissing searched => exact .inl rfl
  | captureFailed searched refused => exact .inl rfl
  | passed searched captured passage => exact .inr ⟨_, searched, passage.reached⟩

/-! ## The exit status -/

theorem Guarded.exitStatus_false
    (guarded : Guarded setup analyzer arguments directory found acts left (.ok outcome)) :
    outcome.exitStatus false = outcome.code.number := by
  simp [Outcome.exitStatus, guarded.kind_ne_passthrough]

theorem Guarded.exitStatus_true
    (guarded : Guarded setup analyzer arguments directory found acts left (.ok outcome)) :
    outcome.exitStatus true = outcome.preserved.getD outcome.code.number := by
  simp [Outcome.exitStatus, guarded.kind_ne_passthrough]

/-- The exit status is a number whose cause came about. -/
theorem Guarded.exitStatus_eq_number_iff
    (guarded : Guarded setup analyzer arguments directory found acts left (.ok outcome))
    (code : ExitCode) :
    outcome.exitStatus false = code.number ↔ Cause analyzer directory found acts code := by
  rw [← guarded.code_eq_iff code, guarded.exitStatus_false, Int.natCast_inj]
  exact ⟨ExitCode.number_injective, congrArg ExitCode.number⟩

/-- The exit code of a process is preserved. -/
theorem Guarded.exitStatus_of_exited
    (guarded : Guarded setup analyzer arguments directory found acts left (.ok outcome))
    {process : Process} (ran : process ∈ processes acts) {code : Nat}
    (ended : process.ending = .exited code) (nonzero : code ≠ 0) :
    outcome.exitStatus true = code := by
  have kept : outcome.preserved = some (code : Int) :=
    (guarded.preserved_eq_some_iff code).mpr ⟨process, ran, code, ended, nonzero, rfl⟩
  rw [guarded.exitStatus_true, kept, Option.getD_some]

/-- Without an exit code to preserve, preserving changes nothing. -/
theorem Guarded.exitStatus_of_clean
    (guarded : Guarded setup analyzer arguments directory found acts left (.ok outcome))
    (clean : ∀ process ∈ processes acts, ∀ code, process.ending = .exited code → code = 0) :
    outcome.exitStatus true = outcome.exitStatus false := by
  have none : outcome.preserved = none := by
    rw [Option.eq_none_iff_forall_ne_some]
    intro kept preserved
    obtain ⟨process, ran, code, ended, nonzero, -⟩ :=
      (guarded.preserved_eq_some_iff kept).mp preserved
    exact nonzero (clean process ran code ended)
  rw [guarded.exitStatus_true, guarded.exitStatus_false, none, Option.getD_none]

theorem Guarded.exitStatus_of_forall_exited_zero
    (guarded : Guarded setup analyzer arguments directory found acts left (.ok outcome))
    (clean : ∀ process ∈ processes acts, process.ending = .exited 0) :
    outcome.exitStatus true = outcome.exitStatus false := by
  apply guarded.exitStatus_of_clean
  intro process ran code ended
  rw [clean process ran] at ended
  cases ended
  rfl

/-- A process that is killed was the only one to fail, so there is no exit code to
preserve. -/
theorem Guarded.exitStatus_of_killed
    (guarded : Guarded setup analyzer arguments directory found acts left (.ok outcome))
    {process : Process} (ran : process ∈ processes acts) {signal : Nat}
    (ended : process.ending = .killed signal) :
    outcome.exitStatus true = outcome.exitStatus false := by
  apply guarded.exitStatus_of_clean
  intro other otherRan code otherEnded
  by_contra nonzero
  rcases guarded.reached with rfl | ⟨root, -, reached⟩
  · cases ran
  · have same : other = process :=
      reached.eq_of_ending_ne otherRan ran (by simp [otherEnded, nonzero]) (by simp [ended])
    rw [same, ended] at otherEnded
    cases otherEnded

theorem Guarded.exitStatus_of_refused
    (guarded : Guarded setup analyzer arguments directory found acts left (.ok outcome))
    (refusal : InProject directory found (Refused · acts)) : outcome.exitStatus true = 120 := by
  have clean : ∀ process ∈ processes acts, process.ending = .exited 0 := by
    obtain ⟨root, searched, refused⟩ := refusal
    rcases guarded.reached with rfl | ⟨_, rootEq, reached⟩
    · simp
    · rw [searched] at rootEq
      cases rootEq
      exact reached.forall_exited_zero_of_refused refused
  rw [guarded.exitStatus_of_forall_exited_zero clean]
  exact (guarded.exitStatus_eq_number_iff .dryRunFailed).mpr (.inr refusal)

/-- Success is told by zero, and a preserved exit code is never taken for it. -/
theorem Guarded.exitStatus_eq_zero_iff
    (guarded : Guarded setup analyzer arguments directory found acts left (.ok outcome))
    (preserve : Bool) :
    outcome.exitStatus preserve = 0 ↔ Cause analyzer directory found acts .ok := by
  cases preserve with
  | false => exact guarded.exitStatus_eq_number_iff .ok
  | true =>
      constructor
      · intro vanishes
        rw [guarded.exitStatus_true] at vanishes
        cases kept : outcome.preserved with
        | none =>
            rw [kept, Option.getD_none, ← guarded.exitStatus_false] at vanishes
            exact (guarded.exitStatus_eq_number_iff .ok).mp vanishes
        | some status =>
            obtain ⟨process, ran, code, ended, nonzero, rfl⟩ :=
              (guarded.preserved_eq_some_iff status).mp kept
            rw [kept, Option.getD_some] at vanishes
            exact absurd (Int.natCast_eq_zero.mp vanishes) nonzero
      · intro success
        have clean : ∀ process ∈ processes acts, process.ending = .exited 0 := by
          obtain ⟨dryRun, download, built, -⟩ := success
          rcases guarded.reached with rfl | ⟨_, -, reached⟩
          · simp
          · exact reached.forall_exited_zero dryRun download built
        rw [guarded.exitStatus_of_forall_exited_zero clean]
        exact (guarded.exitStatus_eq_number_iff .ok).mpr success

end

/-! ## Whole runs -/

/-- What the exit status tells of a run with an outcome, whether exit codes of processes
are preserved or not. -/
structure StatusTells (analyzer : Analysis.Analyzer) (directory : File.Path) (files : System)
    (acts : List Act) (outcome : Outcome) : Prop where
  zero (preserve : Bool) :
    outcome.exitStatus preserve = 0 ↔ Cause analyzer directory files acts .ok
  dryRunFailed :
    outcome.exitStatus false = 120 ↔ Cause analyzer directory files acts .dryRunFailed
  cacheFailed : outcome.exitStatus false = 121 ↔ Cause analyzer directory files acts .cacheFailed
  buildFailed : outcome.exitStatus false = 122 ↔ Cause analyzer directory files acts .buildFailed
  analysisError :
    outcome.exitStatus false = 123 ↔ Cause analyzer directory files acts .analysisError
  rootNotFound :
    outcome.exitStatus false = 124 ↔ Cause analyzer directory files acts .rootNotFound
  usage : outcome.exitStatus false = 125 ↔ Cause analyzer directory files acts .usage
  incomplete : outcome.exitStatus false = 126 ↔ Cause analyzer directory files acts .incomplete
  policyFailure :
    outcome.exitStatus false = 127 ↔ Cause analyzer directory files acts .policyFailure
  /-- The exit code of a process takes the place of the program's own. -/
  preserved (process : Process) (ran : process ∈ processes acts) (code : Nat)
    (ended : process.ending = .exited code) (nonzero : code ≠ 0) :
    outcome.exitStatus true = code
  /-- Nothing else does. -/
  otherwise (clean : ∀ process ∈ processes acts, ∀ code, process.ending = .exited code →
    code = 0) : outcome.exitStatus true = outcome.exitStatus false
  /-- A signal is no exit code. -/
  killed (process : Process) (ran : process ∈ processes acts) (signal : Nat)
    (ended : process.ending = .killed signal) :
    outcome.exitStatus true = outcome.exitStatus false
  /-- A refused lockfile comes without one. -/
  refused (refusal : InProject directory files (Refused · acts)) :
    outcome.exitStatus true = 120

/-- The exit status of every guarded run that comes to an outcome tells its cause. -/
theorem statusTells_of_returned {setup : Setup} {analyzer : Analysis.Analyzer}
    {arguments : List String} {directory : File.Path} {files : System}
    {behaviours : List Child.Behaviour} {outcome : Outcome}
    (intercepted : Route.ofArguments arguments = .ok .intercept)
    (returned : (course setup analyzer arguments directory files behaviours).result =
      .ok outcome) :
    StatusTells analyzer directory files
      (course setup analyzer arguments directory files behaviours).acts outcome := by
  have guarded := guarded_course setup analyzer directory intercepted files behaviours
  rw [returned] at guarded
  generalize (course setup analyzer arguments directory files behaviours).acts = acts,
    (course setup analyzer arguments directory files behaviours).files = left at guarded ⊢
  constructor
  case zero => exact guarded.exitStatus_eq_zero_iff
  case dryRunFailed => exact guarded.exitStatus_eq_number_iff .dryRunFailed
  case cacheFailed => exact guarded.exitStatus_eq_number_iff .cacheFailed
  case buildFailed => exact guarded.exitStatus_eq_number_iff .buildFailed
  case analysisError => exact guarded.exitStatus_eq_number_iff .analysisError
  case rootNotFound => exact guarded.exitStatus_eq_number_iff .rootNotFound
  case usage => exact guarded.exitStatus_eq_number_iff .usage
  case incomplete => exact guarded.exitStatus_eq_number_iff .incomplete
  case policyFailure => exact guarded.exitStatus_eq_number_iff .policyFailure
  case preserved =>
    intro process ran code ended nonzero
    exact guarded.exitStatus_of_exited ran ended nonzero
  case otherwise => exact guarded.exitStatus_of_clean
  case killed =>
    intro process ran signal ended
    exact guarded.exitStatus_of_killed ran ended
  case refused => exact guarded.exitStatus_of_refused

/-! ## A dry run that is killed -/

theorem exists_policy_plainSetup :
    ∃ policy, Stage.dryRun.policy topmost plainSetup.configuration plainSetup.homes =
      .ok policy := by
  have tilde : "~".startsWith "~" = true := String.startsWith_string_iff.mpr List.prefix_rfl
  have unmarked : ¬ "/root".startsWith "~" = true := by
    rw [String.startsWith_string_iff]
    decide
  have own : ∃ directory, plainSetup.homes.directory "~" = .ok directory := by
    refine ⟨"/root", ?_⟩
    show (if "/root".startsWith "~" then throw .unknown else pure "/root" :
      Except File.HomeError String) = _
    rw [if_neg unmarked]
    rfl
  rw [Stage.exists_policy_iff]
  intro text member
  have paths : text ∈ ["~/.cache/node", "~/.cache/yarn", "~/.yarn", "/", "/tmp"] := member
  simp only [List.mem_cons, List.not_mem_nil, or_false] at paths
  rcases paths with rfl | rfl | rfl | rfl | rfl
  · exact (Stage.isExpandable_iff_directory _ [".cache", "node"] rfl tilde).mpr own
  · exact (Stage.isExpandable_iff_directory _ [".cache", "yarn"] rfl tilde).mpr own
  · exact (Stage.isExpandable_iff_directory _ [".yarn"] rfl tilde).mpr own
  · exact Stage.isExpandable_of_isAbsolute _ (by decide)
  · exact Stage.isExpandable_of_isAbsolute _ (by decide)

theorem result_of_spoiling :
    (course plainSetup contented ["add", "left-pad"] topmost bareProject [spoiling]).result =
      .ok ⟨.safeFailure, .dryRunFailed, none, none⟩ := by
  obtain ⟨policy, granted⟩ := exists_policy_plainSetup
  have intercepted : Route.ofArguments ["add", "left-pad"] = .ok .intercept :=
    Route.ofArguments_eq_intercept_iff.mpr ⟨_, _, rfl, by decide⟩
  have guarded :
      guardInstall plainSetup contented ["add", "left-pad"] topmost
        (.start bareProject [spoiling]) = _ :=
    guardInstall_of_captured findRoot_bareProject captureState_bareProject
  rw [course, run, intercepted]
  show (guardInstall _ _ _ _ _).1 = _
  rw [guarded, Run.restoringUnless_apply]
  simp only [runStages, resolve, runStage, granted]
  rfl

theorem statusTells_spoiling :
    Route.ofArguments ["add", "left-pad"] = .ok .intercept ∧
    (course plainSetup contented ["add", "left-pad"] topmost bareProject [spoiling]).result =
      .ok ⟨.safeFailure, .dryRunFailed, none, none⟩ ∧
    StatusTells contented topmost bareProject
      (course plainSetup contented ["add", "left-pad"] topmost bareProject [spoiling]).acts
      ⟨.safeFailure, .dryRunFailed, none, none⟩ := by
  have intercepted : Route.ofArguments ["add", "left-pad"] = .ok .intercept :=
    Route.ofArguments_eq_intercept_iff.mpr ⟨_, _, rfl, by decide⟩
  exact ⟨intercepted, result_of_spoiling,
    statusTells_of_returned intercepted result_of_spoiling⟩

end GuardedInstall.Pipeline
