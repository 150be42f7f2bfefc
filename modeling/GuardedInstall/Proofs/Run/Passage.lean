import GuardedInstall.Proofs.Run.Stage

/-!
# How a guarded run goes

From the moment at which the state files are recorded, a guarded run goes in one of
the ways that `Passage` lists: how far it comes, what it does on the way, the files
that it leaves and its result. Every statement on whole runs is a case analysis on
this list.
-/

namespace GuardedInstall.Pipeline

open GuardedInstall.Lockfile (Dependency)
open GuardedInstall.Sandbox (Stage)
open GuardedInstall.File.Snapshot (restoreAll)

section

variable (setup : Setup) (analyzer : Analysis.Analyzer) (root : File.Path)
  (arguments : List String) (snapshots : List File.Snapshot)

/-- A dry run succeeded and left a lockfile of dependencies. -/
structure Resolved (found : File.System) (dry : Process) (dependencies : List Dependency) :
    Prop where
  stage : IsStage setup root arguments found .dryRun dry
  clean : dry.ending = .exited 0
  parsed : Lockfile.parse dry.left (root.child lockfile) "yarn" = .ok dependencies

/-- The acts by which dependencies are found to be without objection. -/
inductive Cleared (files : File.System) : List Dependency → List Act → Prop where
  | empty : Cleared files [] []
  | analysed {dependencies : List Dependency} {evaluation : Analysis.Evaluation}
      (nonempty : dependencies ≠ []) (answer : (analyzer dependencies).2 = .ok evaluation)
      (passes : verdict? evaluation = none) :
      Cleared files dependencies [.consulted dependencies files]

/-- The dependencies of a dry run may be downloaded. -/
structure Admitted (found : File.System) (dry : Process) (dependencies : List Dependency)
    (analysis : List Act) : Prop where
  resolved : Resolved setup root arguments found dry dependencies
  cleared : Cleared analyzer (restoreAll snapshots dry.left) dependencies analysis

/-- The dependencies of a dry run were downloaded. -/
structure Downloaded (found : File.System) (dry : Process) (dependencies : List Dependency)
    (analysis : List Act) (cache : Process) : Prop where
  admitted : Admitted setup analyzer root arguments snapshots found dry dependencies analysis
  stage : IsStage setup root arguments (restoreAll snapshots dry.left) .cache cache
  clean : cache.ending = .exited 0

/-- The ways of a run that begins among given files: its acts, the files that the
stages leave, and the result. -/
inductive Passage (found : File.System) :
    List Act → File.System → Except Departure Outcome → Prop where
  /-- No dry run was started. -/
  | unstarted (departure : Departure)
      (unstartable : setup.configuration.launcher = [] ∨
        ¬ ∃ policy, Stage.dryRun.policy root setup.configuration setup.homes = .ok policy) :
      Passage found [] (restoreAll snapshots found) (.error departure)
  /-- The dry run gave no exit status. -/
  | dryRunLost {dry : Process} {failure : Child.Failure}
      (stage : IsStage setup root arguments found .dryRun dry)
      (lost : dry.ending = .failed failure) :
      Passage found [.ran dry] (restoreAll snapshots dry.left)
        (.error (departureOf setup failure))
  /-- The dry run failed. -/
  | dryRunFailed {dry : Process} {result : StageResult}
      (stage : IsStage setup root arguments found .dryRun dry)
      (ended : Sandbox.resultOf dry.ending = .ok result) (failed : result.succeeded = false) :
      Passage found [.ran dry] (restoreAll snapshots dry.left)
        (.ok (.safeFailure .dryRunFailed (some result) none))
  /-- The lockfile that the dry run left was refused. -/
  | lockfileRefused {dry : Process} {refusal : Lockfile.Refusal}
      (stage : IsStage setup root arguments found .dryRun dry)
      (clean : dry.ending = .exited 0)
      (refused : Lockfile.parse dry.left (root.child lockfile) "yarn" =
        .error (.refused refusal)) :
      Passage found [.ran dry] (restoreAll snapshots dry.left)
        (.ok (.safeFailure .dryRunFailed none (some refusal.message)))
  /-- Reading the lockfile that the dry run left came to a fault. -/
  | lockfileFaulty {dry : Process} {fault : Lockfile.Fault}
      (stage : IsStage setup root arguments found .dryRun dry)
      (clean : dry.ending = .exited 0)
      (faulty : Lockfile.parse dry.left (root.child lockfile) "yarn" = .error (.fault fault)) :
      Passage found [.ran dry] (restoreAll snapshots dry.left) (.error (.lockfile fault))
  /-- The analysis came to a fault. -/
  | analysisFaulty {dry : Process} {dependencies : List Dependency} {fault : Analysis.Fault}
      (resolved : Resolved setup root arguments found dry dependencies)
      (nonempty : dependencies ≠ [])
      (answer : (analyzer dependencies).2 = .error (.fault fault)) :
      Passage found [.ran dry, .consulted dependencies (restoreAll snapshots dry.left)]
        (restoreAll snapshots dry.left) (.error (.analysis fault))
  /-- There was no analysis to be had. -/
  | analysisFailed {dry : Process} {dependencies : List Dependency} {error : Analysis.Error}
      (resolved : Resolved setup root arguments found dry dependencies)
      (nonempty : dependencies ≠ [])
      (answer : (analyzer dependencies).2 = .error (.reported error)) :
      Passage found [.ran dry, .consulted dependencies (restoreAll snapshots dry.left)]
        (restoreAll snapshots dry.left)
        (.ok ⟨.analysisFailure, .analysisError, none, some error.message⟩)
  /-- The analysis spoke against the dependencies. -/
  | held {dry : Process} {dependencies : List Dependency} {evaluation : Analysis.Evaluation}
      {outcome : Outcome} (resolved : Resolved setup root arguments found dry dependencies)
      (nonempty : dependencies ≠ [])
      (answer : (analyzer dependencies).2 = .ok evaluation)
      (held : verdict? evaluation = some outcome) :
      Passage found [.ran dry, .consulted dependencies (restoreAll snapshots dry.left)]
        (restoreAll snapshots dry.left) (.ok outcome)
  /-- The download gave no exit status. -/
  | cacheLost {dry cache : Process} {dependencies : List Dependency} {analysis : List Act}
      {failure : Child.Failure}
      (admitted : Admitted setup analyzer root arguments snapshots found dry dependencies
        analysis)
      (stage : IsStage setup root arguments (restoreAll snapshots dry.left) .cache cache)
      (lost : cache.ending = .failed failure) :
      Passage found (.ran dry :: (analysis ++ [.ran cache])) cache.left
        (.error (departureOf setup failure))
  /-- The download failed. -/
  | cacheFailed {dry cache : Process} {dependencies : List Dependency} {analysis : List Act}
      {result : StageResult}
      (admitted : Admitted setup analyzer root arguments snapshots found dry dependencies
        analysis)
      (stage : IsStage setup root arguments (restoreAll snapshots dry.left) .cache cache)
      (ended : Sandbox.resultOf cache.ending = .ok result) (failed : result.succeeded = false) :
      Passage found (.ran dry :: (analysis ++ [.ran cache])) cache.left
        (.ok (.safeFailure .cacheFailed (some result) none))
  /-- The build gave no exit status. -/
  | buildLost {dry cache build : Process} {dependencies : List Dependency}
      {analysis : List Act} {failure : Child.Failure}
      (downloaded : Downloaded setup analyzer root arguments snapshots found dry dependencies
        analysis cache)
      (stage : IsStage setup root arguments cache.left .build build)
      (lost : build.ending = .failed failure) :
      Passage found (.ran dry :: (analysis ++ [.ran cache, .ran build])) build.left
        (.error (departureOf setup failure))
  /-- The build failed. -/
  | buildFailed {dry cache build : Process} {dependencies : List Dependency}
      {analysis : List Act} {result : StageResult}
      (downloaded : Downloaded setup analyzer root arguments snapshots found dry dependencies
        analysis cache)
      (stage : IsStage setup root arguments cache.left .build build)
      (ended : Sandbox.resultOf build.ending = .ok result) (failed : result.succeeded = false) :
      Passage found (.ran dry :: (analysis ++ [.ran cache, .ran build])) build.left
        (.ok (.riskFailure .buildFailed result))
  /-- Everything was installed. -/
  | installed {dry cache build : Process} {dependencies : List Dependency}
      {analysis : List Act}
      (downloaded : Downloaded setup analyzer root arguments snapshots found dry dependencies
        analysis cache)
      (stage : IsStage setup root arguments cache.left .build build)
      (built : build.ending = .exited 0) :
      Passage found (.ran dry :: (analysis ++ [.ran cache, .ran build])) build.left
        (.ok .success)

end

/-! ## Every run goes one of these ways -/

section

variable {setup : Setup} {analyzer : Analysis.Analyzer} {root : File.Path}
  {arguments : List String} {snapshots : List File.Snapshot} {found : File.System}
  {dry cache build : Process} {dependencies : List Dependency} {acts : List Act}

/-- A dry run ends the run, or resolves dependencies. -/
theorem passage_of_dryRun (analyzer : Analysis.Analyzer) (snapshots : List File.Snapshot)
    (stage : IsStage setup root arguments found .dryRun dry) :
    match (reported setup dry.ending).bind (resolved root dry.left) with
    | .error departure => Passage setup analyzer root arguments snapshots found [.ran dry]
        (restoreAll snapshots dry.left) (.error departure)
    | .ok (.error outcome) => Passage setup analyzer root arguments snapshots found [.ran dry]
        (restoreAll snapshots dry.left) (.ok outcome)
    | .ok (.ok dependencies) => Resolved setup root arguments found dry dependencies := by
  cases ended : Sandbox.resultOf dry.ending with
  | error failure =>
      have lost : dry.ending = .failed failure := eq_failed_of_resultOf ended
      simp only [reported, ended, Except.mapError, Except.bind]
      exact .dryRunLost stage lost
  | ok result =>
      simp only [reported, ended, Except.mapError, Except.bind, resolved]
      by_cases succeeded : result.succeeded = true
      · have clean := (succeeded_iff ended).mp succeeded
        simp only [succeeded, if_true]
        cases parsed : Lockfile.parse dry.left (root.child lockfile) "yarn" with
        | ok dependencies => exact ⟨stage, clean, parsed⟩
        | error failure =>
            cases failure with
            | refused refusal => exact .lockfileRefused stage clean parsed
            | fault fault => exact .lockfileFaulty stage clean parsed
      · simp only [succeeded]
        exact .dryRunFailed stage ended (by simpa using succeeded)

/-- An analysis ends the run, or admits the dependencies. -/
theorem passage_of_analysis (analyzer : Analysis.Analyzer) (snapshots : List File.Snapshot)
    (resolved : Resolved setup root arguments found dry dependencies)
    (nonempty : dependencies ≠ []) :
    match analysis (analyzer dependencies).2 with
    | .error departure => Passage setup analyzer root arguments snapshots found
        [.ran dry, .consulted dependencies (restoreAll snapshots dry.left)]
        (restoreAll snapshots dry.left) (.error departure)
    | .ok (some outcome) => Passage setup analyzer root arguments snapshots found
        [.ran dry, .consulted dependencies (restoreAll snapshots dry.left)]
        (restoreAll snapshots dry.left) (.ok outcome)
    | .ok none => Admitted setup analyzer root arguments snapshots found dry dependencies
        [.consulted dependencies (restoreAll snapshots dry.left)] := by
  cases answer : (analyzer dependencies).2 with
  | error failure =>
      cases failure with
      | reported error => exact .analysisFailed resolved nonempty answer
      | fault fault => exact .analysisFaulty resolved nonempty answer
  | ok evaluation =>
      simp only [analysis]
      cases verdict : verdict? evaluation with
      | none => exact ⟨resolved, .analysed nonempty answer verdict⟩
      | some outcome => exact .held resolved nonempty answer verdict

/-- A download ends the run, or has everything there. -/
theorem passage_of_cache
    (admitted : Admitted setup analyzer root arguments snapshots found dry dependencies acts)
    (stage : IsStage setup root arguments (restoreAll snapshots dry.left) .cache cache) :
    match (reported setup cache.ending).map downloadOutcome? with
    | .error departure => Passage setup analyzer root arguments snapshots found
        (.ran dry :: (acts ++ [.ran cache])) cache.left (.error departure)
    | .ok (some outcome) => Passage setup analyzer root arguments snapshots found
        (.ran dry :: (acts ++ [.ran cache])) cache.left (.ok outcome)
    | .ok none => Downloaded setup analyzer root arguments snapshots found dry dependencies
        acts cache := by
  cases ended : Sandbox.resultOf cache.ending with
  | error failure =>
      have lost : cache.ending = .failed failure := eq_failed_of_resultOf ended
      simp only [reported, ended, Except.mapError, Except.map]
      exact .cacheLost admitted stage lost
  | ok result =>
      simp only [reported, ended, Except.mapError, Except.map, downloadOutcome?]
      by_cases succeeded : result.succeeded = true
      · simp only [succeeded, if_true]
        exact ⟨admitted, stage, (succeeded_iff ended).mp succeeded⟩
      · simp only [succeeded]
        exact .cacheFailed admitted stage ended (by simpa using succeeded)

/-- A build ends the run. -/
theorem passage_of_build
    (downloaded : Downloaded setup analyzer root arguments snapshots found dry dependencies
      acts cache) (stage : IsStage setup root arguments cache.left .build build) :
    Passage setup analyzer root arguments snapshots found
      (.ran dry :: (acts ++ [.ran cache, .ran build])) build.left
      ((reported setup build.ending).map buildOutcome) := by
  cases ended : Sandbox.resultOf build.ending with
  | error failure =>
      have lost : build.ending = .failed failure := eq_failed_of_resultOf ended
      simp only [reported, ended, Except.mapError, Except.map]
      exact .buildLost downloaded stage lost
  | ok result =>
      simp only [reported, ended, Except.mapError, Except.map, buildOutcome]
      by_cases succeeded : result.succeeded = true
      · simp only [succeeded, if_true]
        exact .installed downloaded stage ((succeeded_iff ended).mp succeeded)
      · simp only [succeeded]
        exact .buildFailed downloaded stage ended (by simpa using succeeded)

/-- Admitted dependencies are downloaded and then built. -/
theorem install_ensures (absoluteRoot : root.isAbsolute = true)
    (admitted : Admitted setup analyzer root arguments snapshots found dry dependencies acts)
    {session : Session} (begun : session.files = restoreAll snapshots dry.left) :
    (install setup root arguments).Ensures session fun more files result =>
      Passage setup analyzer root arguments snapshots found (.ran dry :: (acts ++ more)) files
        result := by
  have launcher := admitted.resolved.stage.launcher_ne
  obtain ⟨dryPolicy, dryGranted, -⟩ := admitted.resolved.stage.start_eq
  obtain ⟨cachePolicy, cacheGranted⟩ := Stage.exists_policy_cache ⟨dryPolicy, dryGranted⟩
  obtain ⟨buildPolicy, buildGranted⟩ :=
    Stage.exists_policy_build setup.homes setup.configuration absoluteRoot
  apply (download_ensures cacheGranted launcher session).bind
  · rintro more files departure ⟨cache, stage, rfl, rfl, ended⟩
    have passage := passage_of_cache admitted (begun ▸ stage)
    rw [← ended] at passage
    exact passage
  · rintro more later answer ⟨cache, stage, rfl, left, ended⟩
    have passage := passage_of_cache admitted (begun ▸ stage)
    rw [← ended] at passage
    cases answer with
    | some outcome => exact Run.ensures_pure (by simpa [left] using passage)
    | none =>
        apply (build_ensures buildGranted launcher later).weaken
        rintro last files result ⟨build, built, rfl, rfl, rfl⟩
        rw [left] at built
        simpa using passage_of_build passage built

/-- Once dependencies are resolved, they are analysed. -/
theorem analyse_install_ensures (absoluteRoot : root.isAbsolute = true)
    (resolved : Resolved setup root arguments found dry dependencies)
    {session : Session} (begun : session.files = restoreAll snapshots dry.left) :
    Run.Ensures (do
        match ← analyse analyzer dependencies with
        | some outcome => pure outcome
        | none => install setup root arguments) session fun more files result =>
      Passage setup analyzer root arguments snapshots found (.ran dry :: more) files result := by
  by_cases empty : dependencies = []
  · subst empty
    apply (analyse_ensures_nil analyzer session).bind
    · rintro acts files departure ⟨-, -, ⟨⟩⟩
    · rintro acts later answer ⟨rfl, same, ⟨⟩⟩
      exact install_ensures absoluteRoot ⟨resolved, .empty⟩ (same.trans begun)
  · have passage := passage_of_analysis analyzer snapshots resolved empty
    rw [← begun] at passage
    apply (analyse_ensures empty analyzer session).bind
    · rintro acts files departure ⟨rfl, rfl, ended⟩
      rw [← ended] at passage
      exact passage
    · rintro acts later answer ⟨rfl, same, ended⟩
      rw [← ended] at passage
      cases answer with
      | some outcome => exact Run.ensures_pure (by simpa [same] using passage)
      | none => exact install_ensures absoluteRoot passage (same.trans begun)

/-- A guarded run goes one of the ways of `Passage`. -/
theorem runStages_ensures_passage (absoluteRoot : root.isAbsolute = true) (session : Session) :
    (runStages setup analyzer root arguments snapshots).Ensures session
      (Passage setup analyzer root arguments snapshots session.files) := by
  unfold runStages
  apply (Run.tells_say _ _).ensures_bind
  intro begun same
  rw [← same]
  by_cases startable : setup.configuration.launcher ≠ [] ∧
      ∃ policy, Stage.dryRun.policy root setup.configuration setup.homes = .ok policy
  · obtain ⟨launcher, policy, granted⟩ := startable
    have resolving : (Run.restoring snapshots (resolve setup root arguments)).Ensures begun
        fun acts files result => ∃ dry, IsStage setup root arguments begun.files .dryRun dry ∧
          acts = [.ran dry] ∧ files = restoreAll snapshots dry.left ∧
            result = (reported setup dry.ending).bind (resolved root dry.left) := by
      apply Run.Ensures.restoring
      apply (resolve_ensures granted launcher begun).weaken
      rintro acts files result ⟨dry, stage, rfl, rfl, rfl⟩
      exact ⟨dry, stage, rfl, rfl, rfl⟩
    apply resolving.bind
    · rintro acts files departure ⟨dry, stage, rfl, rfl, ended⟩
      have passage := passage_of_dryRun analyzer snapshots stage
      rw [← ended] at passage
      exact passage
    · rintro acts later answer ⟨dry, stage, rfl, left, ended⟩
      have passage := passage_of_dryRun analyzer snapshots stage
      rw [← ended] at passage
      cases answer with
      | error outcome => exact Run.ensures_pure (by simpa [left] using passage)
      | ok dependencies =>
          apply (Run.tells_say _ _).ensures_bind
          intro told unchanged
          apply (Run.tells_blank _).ensures_bind
          intro ready still
          exact analyse_install_ensures absoluteRoot passage (still.trans (unchanged.trans left))
  · have unstartable : setup.configuration.launcher = [] ∨
        ¬ ∃ policy, Stage.dryRun.policy root setup.configuration setup.homes = .ok policy := by
      rw [not_and_or, not_ne_iff] at startable
      exact startable
    have departing : (Run.restoring snapshots (resolve setup root arguments)).Ensures begun
        fun acts files result => acts = [] ∧ files = restoreAll snapshots begun.files ∧
          ∃ departure, result = .error departure := by
      apply Run.Ensures.restoring
      apply (runStage_ensures_of_unstartable unstartable begun).bind
      · rintro acts files departure ⟨rfl, rfl, other, ended⟩
        exact ⟨rfl, rfl, departure, rfl⟩
      · rintro acts later result ⟨-, -, departure, ⟨⟩⟩
    apply departing.bind
    · rintro acts files departure ⟨rfl, rfl, -⟩
      exact .unstarted departure unstartable
    · rintro acts later result ⟨-, -, departure, ⟨⟩⟩

/-! ## What the ways have in common -/

theorem Cleared.processes_eq {files : File.System}
    (cleared : Cleared analyzer files dependencies acts) : processes acts = [] := by
  cases cleared with
  | empty => rfl
  | analysed nonempty answer passes => rfl

variable {left : File.System} {result : Except Departure Outcome}

/-- How far the processes of a run go: the files that each one finds, and those that are
left in the end. -/
inductive Progress (setup : Setup) (root : File.Path) (arguments : List String)
    (snapshots : List File.Snapshot) (found : File.System) :
    List Process → File.System → Prop where
  | none : Progress setup root arguments snapshots found [] (restoreAll snapshots found)
  | dryRun {dry : Process} (resolving : IsStage setup root arguments found .dryRun dry) :
      Progress setup root arguments snapshots found [dry] (restoreAll snapshots dry.left)
  | cache {dry cache : Process} (resolving : IsStage setup root arguments found .dryRun dry)
      (downloading : IsStage setup root arguments (restoreAll snapshots dry.left) .cache cache) :
      Progress setup root arguments snapshots found [dry, cache] cache.left
  | build {dry cache build : Process}
      (resolving : IsStage setup root arguments found .dryRun dry)
      (downloading : IsStage setup root arguments (restoreAll snapshots dry.left) .cache cache)
      (building : IsStage setup root arguments cache.left .build build) :
      Progress setup root arguments snapshots found [dry, cache, build] build.left

theorem Passage.progress
    (passage : Passage setup analyzer root arguments snapshots found acts left result) :
    Progress setup root arguments snapshots found (processes acts) left := by
  cases passage with
  | unstarted departure unstartable => exact .none
  | dryRunLost stage lost => exact .dryRun stage
  | dryRunFailed stage ended failed => exact .dryRun stage
  | lockfileRefused stage clean refused => exact .dryRun stage
  | lockfileFaulty stage clean faulty => exact .dryRun stage
  | analysisFaulty resolved nonempty answer => exact .dryRun resolved.stage
  | analysisFailed resolved nonempty answer => exact .dryRun resolved.stage
  | held resolved nonempty answer held => exact .dryRun resolved.stage
  | cacheLost admitted stage lost =>
      rw [processes_ran, processes_append, admitted.cleared.processes_eq]
      exact .cache admitted.resolved.stage stage
  | cacheFailed admitted stage ended failed =>
      rw [processes_ran, processes_append, admitted.cleared.processes_eq]
      exact .cache admitted.resolved.stage stage
  | buildLost downloaded stage lost =>
      rw [processes_ran, processes_append, downloaded.admitted.cleared.processes_eq]
      exact .build downloaded.admitted.resolved.stage downloaded.stage stage
  | buildFailed downloaded stage ended failed =>
      rw [processes_ran, processes_append, downloaded.admitted.cleared.processes_eq]
      exact .build downloaded.admitted.resolved.stage downloaded.stage stage
  | installed downloaded stage built =>
      rw [processes_ran, processes_append, downloaded.admitted.cleared.processes_eq]
      exact .build downloaded.admitted.resolved.stage downloaded.stage stage

theorem verdict?_eq_none_iff {evaluation : Analysis.Evaluation} :
    verdict? evaluation = none ↔
      evaluation.isFailure = false ∧ ¬ 0 < evaluation.incompleteCount := by
  simp only [verdict?]
  cases evaluation.isFailure with
  | true => simp
  | false => simp

/-- An evaluation that holds a run up fails or is incomplete. -/
theorem verdict?_eq_some_iff {evaluation : Analysis.Evaluation} {outcome : Outcome} :
    verdict? evaluation = some outcome ↔
      (evaluation.isFailure = true ∧ outcome = ⟨.policyFailure, .policyFailure, none, none⟩) ∨
      (evaluation.isFailure = false ∧ 0 < evaluation.incompleteCount ∧
        outcome = ⟨.incomplete, .incomplete, none, none⟩) := by
  simp only [verdict?]
  cases evaluation.isFailure with
  | true => simp [eq_comm]
  | false => simp [eq_comm]

/-- A result says that the packages were installed. -/
def IsInstalled (result : Except Departure Outcome) : Prop :=
  ∃ outcome, result = .ok outcome ∧ outcome.kind = .ok

theorem not_isInstalled_error (departure : Departure) : ¬ IsInstalled (.error departure) := by
  rintro ⟨outcome, ⟨⟩, -⟩

theorem not_isInstalled_of_kind {outcome : Outcome} (kind : outcome.kind ≠ .ok) :
    ¬ IsInstalled (.ok outcome) := by
  rintro ⟨_, ⟨⟩, installed⟩
  exact kind installed

/-- Nothing is installed but by a build that succeeded. -/
theorem Passage.exists_of_isInstalled
    (passage : Passage setup analyzer root arguments snapshots found acts left result)
    (done : IsInstalled result) :
    ∃ dry dependencies analysis cache build,
      Downloaded setup analyzer root arguments snapshots found dry dependencies analysis cache ∧
        IsStage setup root arguments cache.left .build build ∧ build.ending = .exited 0 ∧
        acts = .ran dry :: (analysis ++ [.ran cache, .ran build]) ∧ left = build.left := by
  obtain ⟨outcome, ended, kind⟩ := done
  cases passage with
  | installed downloaded stage built => exact ⟨_, _, _, _, _, downloaded, stage, built, rfl, rfl⟩
  | held resolved nonempty answer held =>
      cases ended
      rcases verdict?_eq_some_iff.mp held with ⟨-, rfl⟩ | ⟨-, -, rfl⟩
      · cases kind
      · cases kind
  | unstarted departure unstartable => cases ended
  | dryRunLost stage lost => cases ended
  | lockfileFaulty stage clean faulty => cases ended
  | analysisFaulty resolved nonempty answer => cases ended
  | cacheLost admitted stage lost => cases ended
  | buildLost downloaded stage lost => cases ended
  | dryRunFailed stage ending failed =>
      cases ended
      cases kind
  | lockfileRefused stage clean refused =>
      cases ended
      cases kind
  | analysisFailed resolved nonempty answer =>
      cases ended
      cases kind
  | cacheFailed admitted stage ending failed =>
      cases ended
      cases kind
  | buildFailed downloaded stage ending failed =>
      cases ended
      cases kind

/-- The kinds of outcomes that the stages come to. -/
def stageKinds : List OutcomeKind :=
  [.ok, .safeFailure, .riskFailure, .policyFailure, .incomplete, .analysisFailure]

theorem Passage.kind_mem_stageKinds {outcome : Outcome}
    (passage : Passage setup analyzer root arguments snapshots found acts left (.ok outcome)) :
    outcome.kind ∈ stageKinds := by
  cases passage with
  | dryRunFailed stage ended failed => simp [stageKinds, Outcome.safeFailure]
  | lockfileRefused stage clean refused => simp [stageKinds, Outcome.safeFailure]
  | analysisFailed resolved nonempty answer => simp [stageKinds]
  | held resolved nonempty answer held =>
      rcases verdict?_eq_some_iff.mp held with ⟨-, rfl⟩ | ⟨-, -, rfl⟩
      · simp [stageKinds]
      · simp [stageKinds]
  | cacheFailed admitted stage ended failed => simp [stageKinds, Outcome.safeFailure]
  | buildFailed downloaded stage ended failed => simp [stageKinds, Outcome.riskFailure]
  | installed downloaded stage built => simp [stageKinds, Outcome.success]

/-- The stages hand no process through. -/
theorem Passage.kind_ne_passthrough {outcome : Outcome}
    (passage : Passage setup analyzer root arguments snapshots found acts left (.ok outcome)) :
    outcome.kind ≠ .passthrough := by
  intro same
  have member := passage.kind_mem_stageKinds
  simp [same, stageKinds] at member

/-- The files are kept exactly when the packages were installed. -/
theorem Passage.any_isOk_iff
    (passage : Passage setup analyzer root arguments snapshots found acts left result) :
    result.toOption.any Outcome.isOk = true ↔ IsInstalled result := by
  cases result with
  | error departure => simp [IsInstalled, Except.toOption]
  | ok outcome => simp [IsInstalled, Except.toOption, Outcome.isOk, passage.kind_ne_passthrough]

/-- What came of a dry run after which nothing else was done is the result. -/
theorem Passage.result_of_dryRun
    (passage : Passage setup analyzer root arguments snapshots found acts left result)
    (alone : acts = [.ran dry]) :
    (reported setup dry.ending).bind (resolved root dry.left) = result.map .error := by
  cases passage with
  | unstarted departure unstartable => cases alone
  | dryRunLost stage lost =>
      cases alone
      rw [lost]
      rfl
  | dryRunFailed stage ended failed =>
      cases alone
      simp [reported, ended, Except.mapError, Except.bind, resolved, failed, Except.map]
  | lockfileRefused stage clean refused =>
      cases alone
      rw [clean]
      simp only [reported, Sandbox.resultOf, Except.mapError, Except.bind, resolved, refused]
      rfl
  | lockfileFaulty stage clean faulty =>
      cases alone
      rw [clean]
      simp only [reported, Sandbox.resultOf, Except.mapError, Except.bind, resolved, faulty]
      rfl
  | analysisFaulty resolved nonempty answer => cases alone
  | analysisFailed resolved nonempty answer => cases alone
  | held resolved nonempty answer held => cases alone
  | cacheLost admitted stage lost => simp at alone
  | cacheFailed admitted stage ended failed => simp at alone
  | buildLost downloaded stage lost => simp at alone
  | buildFailed downloaded stage ended failed => simp at alone
  | installed downloaded stage built => simp at alone

/-- How far the acts of a run go: nowhere, to a dry run that decides the result, to an
analysis, or beyond the start of the download. -/
inductive Extent (setup : Setup) (analyzer : Analysis.Analyzer) (root : File.Path)
    (arguments : List String) (snapshots : List File.Snapshot) (found : File.System) :
    List Act → Except Departure Outcome → Prop where
  | none {result : Except Departure Outcome}
      (unstartable : setup.configuration.launcher = [] ∨
        ¬ ∃ policy, Stage.dryRun.policy root setup.configuration setup.homes = .ok policy) :
      Extent setup analyzer root arguments snapshots found [] result
  | dryRun {dry : Process} {result : Except Departure Outcome}
      (stage : IsStage setup root arguments found .dryRun dry)
      (decides : (reported setup dry.ending).bind (resolved root dry.left) =
        result.map .error) :
      Extent setup analyzer root arguments snapshots found [.ran dry] result
  | analysis {dry : Process} {dependencies : List Dependency}
      {result : Except Departure Outcome}
      (resolved : Resolved setup root arguments found dry dependencies) :
      Extent setup analyzer root arguments snapshots found
        [.ran dry, .consulted dependencies (restoreAll snapshots dry.left)] result
  | download {dry cache : Process} {dependencies : List Dependency}
      {analysis rest : List Act} {result : Except Departure Outcome}
      (admitted : Admitted setup analyzer root arguments snapshots found dry dependencies
        analysis)
      (stage : IsStage setup root arguments (restoreAll snapshots dry.left) .cache cache)
      (quiet : consultations rest = []) :
      Extent setup analyzer root arguments snapshots found
        (.ran dry :: (analysis ++ .ran cache :: rest)) result

theorem Passage.extent
    (passage : Passage setup analyzer root arguments snapshots found acts left result) :
    Extent setup analyzer root arguments snapshots found acts result := by
  have decides {dry : Process} (alone : acts = [.ran dry]) := passage.result_of_dryRun alone
  cases passage with
  | unstarted departure unstartable => exact .none unstartable
  | dryRunLost stage lost => exact .dryRun stage (decides rfl)
  | dryRunFailed stage ended failed => exact .dryRun stage (decides rfl)
  | lockfileRefused stage clean refused => exact .dryRun stage (decides rfl)
  | lockfileFaulty stage clean faulty => exact .dryRun stage (decides rfl)
  | analysisFaulty resolved nonempty answer => exact .analysis resolved
  | analysisFailed resolved nonempty answer => exact .analysis resolved
  | held resolved nonempty answer held => exact .analysis resolved
  | cacheLost admitted stage lost => exact .download admitted stage rfl
  | cacheFailed admitted stage ended failed => exact .download admitted stage rfl
  | buildLost downloaded stage lost => exact .download downloaded.admitted downloaded.stage rfl
  | buildFailed downloaded stage ended failed =>
      exact .download downloaded.admitted downloaded.stage rfl
  | installed downloaded stage built =>
      exact .download downloaded.admitted downloaded.stage rfl

end

end GuardedInstall.Pipeline
