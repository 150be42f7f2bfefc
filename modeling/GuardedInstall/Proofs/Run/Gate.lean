import GuardedInstall.Proofs.Run.Course

/-!
# Nothing is installed without an analysis

Between the dry run and the download stands a gate. It is open when the dry run
succeeded, its lockfile could be read, and either lists no dependency or lists
dependencies that an analysis had no objection to. The download is attempted exactly
when the gate is open, the build exactly when the download succeeded besides, and the
packages are installed exactly when the build succeeded as well.
-/

namespace GuardedInstall.Pipeline

open GuardedInstall.Lockfile (Dependency)
open GuardedInstall.Sandbox (Stage)
open GuardedInstall.File (System)

/-! ## The gate -/

/-- The gate of a run in a project is open for the dependencies of its dry run. -/
structure Gate (analyzer : Analysis.Analyzer) (root : File.Path) (acts : List Act)
    (dry : Process) (dependencies : List Dependency) : Prop where
  ran : process? acts .dryRun = some dry
  clean : dry.ending = .exited 0
  parsed : Lockfile.parse dry.left (root.child lockfile) "yarn" = .ok dependencies
  analysed : dependencies = [] ∧ consultations acts = [] ∨
    consultations acts = [dependencies] ∧ ∃ evaluation,
      (analyzer dependencies).2 = .ok evaluation ∧ evaluation.isFailure = false ∧
        ¬ 0 < evaluation.incompleteCount

/-- How far a run came: it stopped in front of the gate, at the download or at the
build, or it installed the packages. -/
inductive Reached (analyzer : Analysis.Analyzer) (root : File.Path) :
    List Act → Except Departure Outcome → Prop where
  | dryRun {acts : List Act} {result : Except Departure Outcome}
      (few : (processes acts).length ≤ 1)
      (shut : ∀ dry dependencies, ¬ Gate analyzer root acts dry dependencies)
      (failed : ¬ IsInstalled result) : Reached analyzer root acts result
  | cache {acts : List Act} {result : Except Departure Outcome} {dry cache : Process}
      {dependencies : List Dependency} (gate : Gate analyzer root acts dry dependencies)
      (ran : processes acts = [dry, cache]) (lost : cache.ending ≠ .exited 0)
      (failed : ¬ IsInstalled result) : Reached analyzer root acts result
  | build {acts : List Act} {result : Except Departure Outcome} {dry cache build : Process}
      {dependencies : List Dependency} (gate : Gate analyzer root acts dry dependencies)
      (ran : processes acts = [dry, cache, build]) (clean : cache.ending = .exited 0)
      (ended : build.ending = .exited 0 ↔ IsInstalled result) :
      Reached analyzer root acts result

section

variable {setup : Setup} {analyzer : Analysis.Analyzer} {root : File.Path}
  {arguments : List String} {snapshots : List File.Snapshot} {found left : System}
  {dry cache : Process} {dependencies : List Dependency} {acts more : List Act}
  {result : Except Departure Outcome}

/-- Admitted dependencies have passed the gate. -/
theorem Admitted.gate
    (admitted : Admitted setup analyzer root arguments snapshots found dry dependencies acts)
    (quiet : consultations more = []) :
    Gate analyzer root (.ran dry :: (acts ++ more)) dry dependencies := by
  refine ⟨rfl, admitted.resolved.clean, admitted.resolved.parsed, ?_⟩
  cases admitted.cleared with
  | empty => exact .inl ⟨rfl, quiet⟩
  | analysed nonempty answer passes =>
      refine .inr ⟨?_, _, answer, verdict?_eq_none_iff.mp passes⟩
      simp [quiet]

/-- The gate is shut where the dry run is the only process and did not succeed. -/
theorem not_gate_of_ending (failed : dry.ending ≠ .exited 0) (other : Process)
    (dependencies : List Dependency) :
    ¬ Gate analyzer root [.ran dry] other dependencies := by
  intro gate
  cases gate.ran
  exact failed gate.clean

/-- The gate is shut where the lockfile cannot be read. -/
theorem not_gate_of_parse {failure : Lockfile.Failure}
    (refused : Lockfile.parse dry.left (root.child lockfile) "yarn" = .error failure)
    (other : Process) (dependencies : List Dependency) :
    ¬ Gate analyzer root [.ran dry] other dependencies := by
  intro gate
  cases gate.ran
  have parsed := gate.parsed
  rw [refused] at parsed
  cases parsed

/-- The gate is shut where the analysis does not clear the dependencies. -/
theorem not_gate_of_answer {files : System}
    (resolved : Resolved setup root arguments found dry dependencies)
    (objected : ∀ evaluation, (analyzer dependencies).2 = .ok evaluation →
      verdict? evaluation ≠ none) (other : Process) (others : List Dependency) :
    ¬ Gate analyzer root [.ran dry, .consulted dependencies files] other others := by
  intro gate
  cases gate.ran
  have parsed := gate.parsed
  rw [resolved.parsed] at parsed
  cases parsed
  rcases gate.analysed with ⟨-, unasked⟩ | ⟨-, evaluation, answer, passes⟩
  · cases unasked
  · exact objected evaluation answer (verdict?_eq_none_iff.mpr passes)

theorem not_gate_of_failure {files : System} {failure : Analysis.Failure}
    (resolved : Resolved setup root arguments found dry dependencies)
    (answer : (analyzer dependencies).2 = .error failure) (other : Process)
    (others : List Dependency) :
    ¬ Gate analyzer root [.ran dry, .consulted dependencies files] other others := by
  apply not_gate_of_answer resolved
  intro evaluation given
  rw [answer] at given
  cases given

theorem ending_ne_of_failed {ending : Child.Ending} {failure : Child.Failure}
    (lost : ending = .failed failure) : ending ≠ .exited 0 := by
  rw [lost]
  exact Child.Ending.noConfusion

theorem ending_ne_of_not_succeeded {ending : Child.Ending} {result : StageResult}
    (ended : Sandbox.resultOf ending = .ok result) (failed : result.succeeded = false) :
    ending ≠ .exited 0 := by
  intro clean
  rw [(succeeded_iff ended).mpr clean] at failed
  cases failed

/-- Every run comes to the gate, to the download or to the build. -/
theorem Passage.reached
    (passage : Passage setup analyzer root arguments snapshots found acts left result) :
    Reached analyzer root acts result := by
  cases passage with
  | unstarted departure unstartable =>
      apply Reached.dryRun (by simp)
      · intro dry dependencies gate
        cases gate.ran
      · exact not_isInstalled_error departure
  | dryRunLost stage lost =>
      exact .dryRun (by simp) (not_gate_of_ending (ending_ne_of_failed lost))
        (not_isInstalled_error _)
  | dryRunFailed stage ended failed =>
      exact .dryRun (by simp) (not_gate_of_ending (ending_ne_of_not_succeeded ended failed))
        (not_isInstalled_of_kind OutcomeKind.noConfusion)
  | lockfileRefused stage clean refused =>
      exact .dryRun (by simp) (not_gate_of_parse refused)
        (not_isInstalled_of_kind OutcomeKind.noConfusion)
  | lockfileFaulty stage clean faulty =>
      exact .dryRun (by simp) (not_gate_of_parse faulty) (not_isInstalled_error _)
  | analysisFaulty resolved nonempty answer =>
      exact .dryRun (by simp) (not_gate_of_failure resolved answer) (not_isInstalled_error _)
  | analysisFailed resolved nonempty answer =>
      exact .dryRun (by simp) (not_gate_of_failure resolved answer)
        (not_isInstalled_of_kind OutcomeKind.noConfusion)
  | @held dry dependencies evaluation outcome resolved nonempty answer held =>
      have objected : ∀ evaluation, (analyzer dependencies).2 = .ok evaluation →
          verdict? evaluation ≠ none := by
        intro evaluation other
        rw [answer] at other
        cases other
        rw [held]
        exact Option.some_ne_none _
      apply Reached.dryRun (by simp) (not_gate_of_answer resolved objected)
      apply not_isInstalled_of_kind
      rcases verdict?_eq_some_iff.mp held with ⟨-, rfl⟩ | ⟨-, -, rfl⟩
      · exact OutcomeKind.noConfusion
      · exact OutcomeKind.noConfusion
  | cacheLost admitted stage lost =>
      exact .cache (admitted.gate rfl) (by simp [admitted.cleared.processes_eq])
        (ending_ne_of_failed lost) (not_isInstalled_error _)
  | cacheFailed admitted stage ended failed =>
      exact .cache (admitted.gate rfl) (by simp [admitted.cleared.processes_eq])
        (ending_ne_of_not_succeeded ended failed)
        (not_isInstalled_of_kind OutcomeKind.noConfusion)
  | buildLost downloaded stage lost =>
      exact .build (downloaded.admitted.gate rfl)
        (by simp [downloaded.admitted.cleared.processes_eq]) downloaded.clean
        (iff_of_false (ending_ne_of_failed lost) (not_isInstalled_error _))
  | buildFailed downloaded stage ended failed =>
      exact .build (downloaded.admitted.gate rfl)
        (by simp [downloaded.admitted.cleared.processes_eq]) downloaded.clean
        (iff_of_false (ending_ne_of_not_succeeded ended failed)
          (not_isInstalled_of_kind OutcomeKind.noConfusion))
  | installed downloaded stage built =>
      exact .build (downloaded.admitted.gate rfl)
        (by simp [downloaded.admitted.cleared.processes_eq]) downloaded.clean
        (iff_of_true built ⟨_, rfl, rfl⟩)

theorem Cleared.eq_of_mem {files others : System} {asked : List Dependency}
    (cleared : Cleared analyzer files dependencies acts) (member : .consulted asked others ∈ acts) :
    acts = [.consulted asked others] := by
  cases cleared with
  | empty => cases member
  | analysed nonempty answer passes => rw [List.mem_singleton.mp member]

/-- An analysis comes right after the dry run. -/
theorem Passage.consulted_second {files : System}
    (passage : Passage setup analyzer root arguments snapshots found acts left result)
    (asked : .consulted dependencies files ∈ acts) :
    ∃ dry rest, acts = .ran dry :: .consulted dependencies files :: rest := by
  have second {dry : Process} {analysis later : List Act} {listed : List Dependency}
      (admitted : Admitted setup analyzer root arguments snapshots found dry listed analysis)
      (unasked : .consulted dependencies files ∉ later)
      (asked : .consulted dependencies files ∈ .ran dry :: (analysis ++ later)) :
      ∃ first rest, .ran dry :: (analysis ++ later) =
        .ran first :: .consulted dependencies files :: rest := by
    rcases List.mem_cons.mp asked with same | asked
    · cases same
    rcases List.mem_append.mp asked with among | after
    · rw [admitted.cleared.eq_of_mem among]
      exact ⟨dry, later, rfl⟩
    · exact absurd after unasked
  cases passage with
  | unstarted departure unstartable => cases asked
  | dryRunLost stage lost => simp at asked
  | dryRunFailed stage ended failed => simp at asked
  | lockfileRefused stage clean refused => simp at asked
  | lockfileFaulty stage clean faulty => simp at asked
  | analysisFaulty resolved nonempty answer =>
      simp only [List.mem_cons, reduceCtorEq, List.not_mem_nil, or_false, false_or] at asked
      exact ⟨_, [], by rw [asked]⟩
  | analysisFailed resolved nonempty answer =>
      simp only [List.mem_cons, reduceCtorEq, List.not_mem_nil, or_false, false_or] at asked
      exact ⟨_, [], by rw [asked]⟩
  | held resolved nonempty answer held =>
      simp only [List.mem_cons, reduceCtorEq, List.not_mem_nil, or_false, false_or] at asked
      exact ⟨_, [], by rw [asked]⟩
  | cacheLost admitted stage lost => exact second admitted (by simp) asked
  | cacheFailed admitted stage ended failed => exact second admitted (by simp) asked
  | buildLost downloaded stage lost => exact second downloaded.admitted (by simp) asked
  | buildFailed downloaded stage ended failed => exact second downloaded.admitted (by simp) asked
  | installed downloaded stage built => exact second downloaded.admitted (by simp) asked

/-- The processes of a run are those of its stages. -/
theorem Passage.isStage {stage : Stage} {process : Process}
    (passage : Passage setup analyzer root arguments snapshots found acts left result)
    (ran : process? acts stage = some process) :
    IsStage setup root arguments process.found stage process := by
  have progress := passage.progress
  cases stage with
  | dryRun =>
      simp only [process?] at ran
      generalize processes acts = started at progress ran
      cases progress with
      | none => cases ran
      | dryRun resolving =>
          cases ran
          exact resolving.of_found
      | cache resolving downloading =>
          cases ran
          exact resolving.of_found
      | build resolving downloading building =>
          cases ran
          exact resolving.of_found
  | cache =>
      simp only [process?] at ran
      generalize processes acts = started at progress ran
      cases progress with
      | none => cases ran
      | dryRun resolving => cases ran
      | cache resolving downloading =>
          cases ran
          exact downloading.of_found
      | build resolving downloading building =>
          cases ran
          exact downloading.of_found
  | build =>
      simp only [process?] at ran
      generalize processes acts = started at progress ran
      cases progress with
      | none => cases ran
      | dryRun resolving => cases ran
      | cache resolving downloading => cases ran
      | build resolving downloading building =>
          cases ran
          exact building.of_found

end

/-- The processes of a guarded run are those of its stages, in the root that was found. -/
theorem Guarded.exists_isStage {setup : Setup} {analyzer : Analysis.Analyzer}
    {arguments : List String} {directory : File.Path} {found left : System} {acts : List Act}
    {result : Except Departure Outcome} {stage : Stage} {process : Process}
    (guarded : Guarded setup analyzer arguments directory found acts left result)
    (ran : process? acts stage = some process) :
    ∃ root, found.findRoot manifest directory System.searchDepth = .ok (some root) ∧
      IsStage setup root arguments process.found stage process := by
  have unstarted : process? [] stage = none := by
    cases stage <;> rfl
  cases guarded with
  | searchFailed searched => rw [unstarted] at ran; cases ran
  | rootMissing searched => rw [unstarted] at ran; cases ran
  | captureFailed searched refused => rw [unstarted] at ran; cases ran
  | passed searched captured passage => exact ⟨_, searched, passage.isStage ran⟩

/-! ## Whole runs -/

/-- An invocation is guarded, in a project, and the gate is open. -/
def IsCleared (analyzer : Analysis.Analyzer) (arguments : List String) (directory : File.Path)
    (files : System) (acts : List Act) : Prop :=
  Route.ofArguments arguments = .ok .intercept ∧ ∃ root dry dependencies,
    files.findRoot manifest directory System.searchDepth = .ok (some root) ∧
      Gate analyzer root acts dry dependencies

/-- The stages behind the gate are attempted when it is open, one after the other, and
only then. -/
structure FollowsGate (cleared : Prop) (acts : List Act) (result : Except Departure Outcome) :
    Prop where
  cache : process? acts .cache ≠ none ↔ cleared
  build : process? acts .build ≠ none ↔ cleared ∧ Succeeded acts .cache
  installed : IsInstalled result ↔ cleared ∧ Succeeded acts .cache ∧ Succeeded acts .build

section

variable {analyzer : Analysis.Analyzer} {root : File.Path} {acts : List Act}
  {result : Except Departure Outcome} {cleared : Prop}

theorem FollowsGate.of_shut (few : (processes acts).length ≤ 1) (shut : ¬ cleared)
    (failed : ¬ IsInstalled result) : FollowsGate cleared acts result := by
  have noCache : (processes acts)[1]? = none := List.getElem?_eq_none few
  have noBuild : (processes acts)[2]? = none := List.getElem?_eq_none (by omega)
  constructor
  · simp [process?, noCache, shut]
  · simp [process?, noBuild, shut]
  · simp [failed, shut]

theorem FollowsGate.of_reached (reached : Reached analyzer root acts result)
    (iff_gate : cleared ↔ ∃ dry dependencies, Gate analyzer root acts dry dependencies) :
    FollowsGate cleared acts result := by
  cases reached with
  | dryRun few shut failed =>
      have closed : ¬ cleared := by
        rw [iff_gate]
        rintro ⟨dry, dependencies, gate⟩
        exact shut dry dependencies gate
      exact .of_shut few closed failed
  | cache gate ran lost failed =>
      have opened : cleared := iff_gate.mpr ⟨_, _, gate⟩
      constructor
      · simp [process?, ran, opened]
      · simp [process?, ran, Succeeded, lost]
      · simp [process?, ran, Succeeded, lost, failed]
  | build gate ran clean ended =>
      have opened : cleared := iff_gate.mpr ⟨_, _, gate⟩
      constructor
      · simp [process?, ran, opened]
      · simp [process?, ran, Succeeded, opened, clean]
      · simp [process?, ran, Succeeded, opened, clean, ended]

end

/-- No invocation whatsoever installs what has not passed the gate, and what has passed
the gate is installed as far as the stages behind it succeed. Where there is an
analysis, it comes right after the dry run. The processes of a guarded invocation are
those of the stages. -/
theorem followsGate (setup : Setup) (analyzer : Analysis.Analyzer) (arguments : List String)
    (directory : File.Path) (files : System) (behaviours : List Child.Behaviour) :
    let whole := course setup analyzer arguments directory files behaviours
    FollowsGate (IsCleared analyzer arguments directory files whole.acts) whole.acts
        whole.result ∧
      (∀ dependencies found, .consulted dependencies found ∈ whole.acts →
        ∃ dry rest, whole.acts = .ran dry :: .consulted dependencies found :: rest) ∧
      ∀ stage process, Route.ofArguments arguments = .ok .intercept →
        process? whole.acts stage = some process → ∃ root,
          files.findRoot manifest directory System.searchDepth = .ok (some root) ∧
            IsStage setup root arguments process.found stage process := by
  intro whole
  by_cases intercepted : Route.ofArguments arguments = .ok .intercept
  · have guarded : Guarded setup analyzer arguments directory files whole.acts whole.files
        whole.result := guarded_course setup analyzer directory intercepted files behaviours
    generalize whole.acts = acts, whole.files = left, whole.result = result at guarded ⊢
    have idle : ¬ IsCleared analyzer arguments directory files [] := by
      rintro ⟨-, root, dry, dependencies, -, gate⟩
      cases gate.ran
    have unstarted (stage : Stage) : process? [] stage = none := by
      cases stage <;> rfl
    cases guarded with
    | searchFailed searched =>
        exact ⟨.of_shut (by simp) idle (not_isInstalled_error _), by simp, by simp [unstarted]⟩
    | rootMissing searched =>
        exact ⟨.of_shut (by simp) idle (not_isInstalled_of_kind OutcomeKind.noConfusion), by simp,
          by simp [unstarted]⟩
    | captureFailed searched refused =>
        exact ⟨.of_shut (by simp) idle (not_isInstalled_of_kind OutcomeKind.noConfusion), by simp,
          by simp [unstarted]⟩
    | @passed root snapshots acts left result searched captured passage =>
        have iff_gate : IsCleared analyzer arguments directory files acts ↔
            ∃ dry dependencies, Gate analyzer root acts dry dependencies := by
          simp [IsCleared, intercepted, searched]
        constructor
        · exact .of_reached passage.reached iff_gate
        constructor
        · intro dependencies found asked
          exact passage.consulted_second asked
        · intro stage process _ ran
          exact ⟨root, searched, passage.isStage ran⟩
  · have unguarded : (processes whole.acts).length ≤ 1 ∧ consultations whole.acts = [] ∧
        ¬ IsInstalled whole.result :=
      course_of_ensures (run_ensures_of_not_intercepted intercepted _)
    obtain ⟨few, unasked, failed⟩ := unguarded
    have closed : ¬ IsCleared analyzer arguments directory files whole.acts := by
      intro cleared
      exact intercepted cleared.1
    constructor
    · exact .of_shut few closed failed
    constructor
    · intro dependencies found asked
      have listed : dependencies ∈ consultations whole.acts :=
        List.mem_filterMap.mpr ⟨_, asked, rfl⟩
      rw [unasked] at listed
      cases listed
    · intro stage process guarded _
      exact absurd guarded intercepted

end GuardedInstall.Pipeline
