import GuardedInstall.Pipeline
import GuardedInstall.Proofs.Run.Rules
import GuardedInstall.Proofs.Sandbox.Grants

/-!
# The parts of a guarded run

There is one lemma for each part of a guarded run. A stage runs one process, and the
rest of the part is talk: the result is a function of how the process ended. The
processes may do anything.
-/

namespace GuardedInstall.Pipeline

open GuardedInstall.Lockfile (Dependency)
open GuardedInstall.Sandbox (Stage)

/-- A process is the one of a stage, started among given files. -/
structure IsStage (setup : Setup) (root : File.Path) (arguments : List String)
    (found : File.System) (stage : Stage) (process : Process) : Prop where
  found_eq : process.found = found
  launcher_ne : setup.configuration.launcher ≠ []
  start_eq : ∃ policy, stage.policy root setup.configuration setup.homes = .ok policy ∧
    process.start =
      ⟨Sandbox.confined setup.configuration.launcher
        (policy.flags (found.which? setup.searchPath)) setup.configuration.packageManager
        (stageArguments arguments stage), root⟩

theorem IsStage.of_found {setup : Setup} {root : File.Path} {arguments : List String}
    {found : File.System} {stage : Stage} {process : Process}
    (isStage : IsStage setup root arguments found stage process) :
    IsStage setup root arguments process.found stage process := by
  rw [isStage.found_eq]
  exact isStage

/-- The departure of a run whose stage gives no exit status. -/
def departureOf (setup : Setup) : Child.Failure → Departure
  | .notFound => .launcherNotFound (setup.configuration.launcher.headD "")
  | failure => .process failure

/-- What the ending of a stage's process is to a run. -/
def reported (setup : Setup) (ending : Child.Ending) : Except Departure StageResult :=
  (Sandbox.resultOf ending).mapError (departureOf setup)

/-- A stage succeeds exactly when its process exits with zero. -/
theorem succeeded_iff {ending : Child.Ending} {result : StageResult}
    (ended : Sandbox.resultOf ending = .ok result) :
    result.succeeded = true ↔ ending = .exited 0 := by
  cases ending with
  | exited code =>
      cases ended
      simp
  | killed signal =>
      cases ended
      simp
  | failed failure => cases ended

theorem eq_failed_of_resultOf {ending : Child.Ending} {failure : Child.Failure}
    (ended : Sandbox.resultOf ending = .error failure) : ending = .failed failure := by
  cases ending with
  | exited code => cases ended
  | killed signal => cases ended
  | failed failure =>
      cases ended
      rfl

/-- One process of a stage ran, and its result comes to a value. -/
def Staged {α : Type} (setup : Setup) (root : File.Path) (arguments : List String)
    (found : File.System) (stage : Stage) (value : StageResult → α) : Run.Report α :=
  fun acts files result => ∃ process, IsStage setup root arguments found stage process ∧
    acts = [.ran process] ∧ files = process.left ∧
    result = (reported setup process.ending).map value

section

variable {setup : Setup} {root : File.Path} {arguments : List String} {stage : Stage}

/-- A stage that has a policy and a launcher runs one process. -/
theorem runStage_ensures {policy : Sandbox.Policy}
    (granted : stage.policy root setup.configuration setup.homes = .ok policy)
    (launcher : setup.configuration.launcher ≠ []) (session : Session) :
    (runStage setup root arguments stage).Ensures session
      (Staged setup root arguments session.files stage id) := by
  obtain ⟨first, rest, launcherEq⟩ := List.exists_cons_of_ne_nil launcher
  simp only [runStage, granted, Sandbox.launch, launcherEq]
  apply Run.ensures_get_bind
  apply (Run.start_ensures _ session).bind
  · rintro acts files departure ⟨-, -, ⟨⟩⟩
  rintro acts later ending ⟨rfl, files, ⟨⟩⟩
  have isStage : IsStage setup root arguments session.files stage (session.nextProcess
      ⟨Sandbox.confined (first :: rest) (policy.flags (session.files.which? setup.searchPath))
        setup.configuration.packageManager (stageArguments arguments stage), root⟩) :=
    ⟨rfl, launcher, policy, granted, by rw [launcherEq]; rfl⟩
  generalize session.nextProcess _ = process at isStage files ⊢
  cases ended : process.ending with
  | exited code => exact Run.ensures_pure ⟨process, isStage, rfl, files, by rw [ended]; rfl⟩
  | killed signal => exact Run.ensures_pure ⟨process, isStage, rfl, files, by rw [ended]; rfl⟩
  | failed failure =>
      cases failure with
      | notFound =>
          refine Run.ensures_throw ⟨process, isStage, rfl, files, ?_⟩
          simp [reported, ended, Sandbox.resultOf, Except.mapError, Except.map, departureOf,
            launcherEq]
      | notPermitted =>
          exact Run.ensures_throw ⟨process, isStage, rfl, files, by rw [ended]; rfl⟩
      | broken detail =>
          exact Run.ensures_throw ⟨process, isStage, rfl, files, by rw [ended]; rfl⟩
      | interrupted detail =>
          exact Run.ensures_throw ⟨process, isStage, rfl, files, by rw [ended]; rfl⟩

/-- A stage without a policy or a launcher starts nothing. -/
theorem runStage_ensures_of_unstartable (unstartable : setup.configuration.launcher = [] ∨
    ¬ ∃ policy, stage.policy root setup.configuration setup.homes = .ok policy)
    (session : Session) :
    (runStage setup root arguments stage).Ensures session fun acts files result =>
      acts = [] ∧ files = session.files ∧ ∃ departure, result = .error departure := by
  cases granted : stage.policy root setup.configuration setup.homes with
  | error error =>
      simp only [runStage, granted]
      exact Run.ensures_throw ⟨rfl, rfl, _, rfl⟩
  | ok policy =>
      rcases unstartable with unset | refused
      · simp only [runStage, granted, Sandbox.launch, unset]
        exact Run.ensures_throw ⟨rfl, rfl, _, rfl⟩
      · exact absurd ⟨policy, granted⟩ refused

/-- A stage after which there is only talk. -/
theorem runStage_ensures_bind {α : Type} {next : StageResult → Run α} {value : StageResult → α}
    (tells : ∀ result, (next result).Tells (value result)) {policy : Sandbox.Policy}
    (granted : stage.policy root setup.configuration setup.homes = .ok policy)
    (launcher : setup.configuration.launcher ≠ []) (session : Session) :
    (runStage setup root arguments stage >>= next).Ensures session
      (Staged setup root arguments session.files stage value) := by
  apply (runStage_ensures granted launcher session).bind
  · rintro acts files departure ⟨process, isStage, actsEq, left, ended⟩
    refine ⟨process, isStage, actsEq, left, ?_⟩
    cases answer : reported setup process.ending <;> simp_all [Except.map]
  · rintro acts later result ⟨process, isStage, rfl, left, ended⟩
    apply (tells result later).weaken
    rintro more files outcome ⟨rfl, rfl, rfl⟩
    refine ⟨process, isStage, rfl, left, ?_⟩
    cases answer : reported setup process.ending <;> simp_all [Except.map]

/-! ## Parts -/

/-- The outcome that the result of a download calls for. -/
def downloadOutcome? (result : StageResult) : Option Outcome :=
  if result.succeeded then none else some (.safeFailure .cacheFailed (some result) none)

theorem download_ensures {policy : Sandbox.Policy}
    (granted : Stage.cache.policy root setup.configuration setup.homes = .ok policy)
    (launcher : setup.configuration.launcher ≠ []) (session : Session) :
    (download setup root arguments).Ensures session
      (Staged setup root arguments session.files .cache downloadOutcome?) := by
  apply (Run.tells_say _ _).ensures_bind
  intro later same
  rw [← same]
  apply runStage_ensures_bind _ granted launcher
  intro result
  unfold downloadOutcome?
  split
  · exact (Run.tells_say _ _).bind ((Run.tells_blank _).bind (Run.tells_pure _))
  · exact (Run.tells_say _ _).bind ((Run.tells_blank _).bind (Run.tells_pure _))

/-- The outcome that the result of a build calls for. -/
def buildOutcome (result : StageResult) : Outcome :=
  if result.succeeded then .success else .riskFailure .buildFailed result

theorem build_ensures {policy : Sandbox.Policy}
    (granted : Stage.build.policy root setup.configuration setup.homes = .ok policy)
    (launcher : setup.configuration.launcher ≠ []) (session : Session) :
    (build setup root arguments).Ensures session
      (Staged setup root arguments session.files .build buildOutcome) := by
  apply (Run.tells_say _ _).ensures_bind
  intro later same
  rw [← same]
  apply runStage_ensures_bind _ granted launcher
  intro result
  unfold buildOutcome
  split
  · exact (Run.tells_say _ _).bind (Run.tells_pure _)
  · exact (Run.tells_printAll _).bind (Run.tells_pure _)

/-- What reading a lockfile comes to in a run. -/
def readOf : Except Lockfile.Failure (List Dependency) →
    Except Departure (Except Lockfile.Refusal (List Dependency))
  | .ok dependencies => .ok (.ok dependencies)
  | .error (.refused refusal) => .ok (.error refusal)
  | .error (.fault fault) => .error (.lockfile fault)

theorem readLockfile_ensures (root : File.Path) (session : Session) :
    (readLockfile root).Ensures session fun acts files result =>
      acts = [] ∧ files = session.files ∧
        result = readOf (Lockfile.parse session.files (root.child lockfile) "yarn") := by
  apply Run.ensures_get_bind
  cases Lockfile.parse session.files (root.child lockfile) "yarn" with
  | ok dependencies => exact Run.ensures_pure ⟨rfl, rfl, rfl⟩
  | error failure =>
      cases failure with
      | refused refusal => exact Run.ensures_pure ⟨rfl, rfl, rfl⟩
      | fault fault => exact Run.ensures_throw ⟨rfl, rfl, rfl⟩

/-- The outcome of a run whose lockfile is refused. -/
def refusalOutcome (refusal : Lockfile.Refusal) : Outcome :=
  .safeFailure .dryRunFailed none (some refusal.message)

/-- What the files that a dry run left are to a run. -/
def resolved (root : File.Path) (left : File.System) (result : StageResult) :
    Except Departure (Except Outcome (List Dependency)) :=
  if result.succeeded then
    (readOf (Lockfile.parse left (root.child lockfile) "yarn")).map (Except.mapError refusalOutcome)
  else .ok (.error (.safeFailure .dryRunFailed (some result) none))

theorem resolve_ensures {policy : Sandbox.Policy}
    (granted : Stage.dryRun.policy root setup.configuration setup.homes = .ok policy)
    (launcher : setup.configuration.launcher ≠ []) (session : Session) :
    (resolve setup root arguments).Ensures session fun acts files result =>
      ∃ dry, IsStage setup root arguments session.files .dryRun dry ∧ acts = [.ran dry] ∧
        files = dry.left ∧ result = (reported setup dry.ending).bind (resolved root dry.left) := by
  apply (runStage_ensures granted launcher session).bind
  · rintro acts files departure ⟨dry, isStage, actsEq, left, ended⟩
    refine ⟨dry, isStage, actsEq, left, ?_⟩
    cases answer : reported setup dry.ending <;> simp_all [Except.map, Except.bind]
  rintro acts later result ⟨dry, isStage, rfl, left, ended⟩
  have answer : reported setup dry.ending = .ok result := by
    cases answer : reported setup dry.ending <;> simp_all [Except.map]
  refine Run.Ensures.weaken (?_ : Run.Ensures _ later fun more files resolution =>
    more = [] ∧ files = dry.left ∧ resolution = resolved root dry.left result) ?_
  · simp only [resolved]
    by_cases succeeded : result.succeeded = true
    · simp only [succeeded, if_true, ← left]
      apply (readLockfile_ensures root later).bind
      · rintro acts files departure ⟨rfl, rfl, read⟩
        exact ⟨rfl, rfl, by rw [← read]; rfl⟩
      rintro acts last answer ⟨rfl, same, read⟩
      cases answer with
      | ok dependencies => exact Run.ensures_pure ⟨rfl, same, by rw [← read]; rfl⟩
      | error refusal =>
          apply (Run.tells_say _ _).ensures_bind
          intro later unchanged
          exact Run.ensures_pure ⟨rfl, unchanged.trans same, by rw [← read]; rfl⟩
    · simp only [succeeded]
      apply (Run.tells_say _ _).ensures_bind
      intro later same
      apply (Run.tells_blank _).ensures_bind
      intro later unchanged
      exact Run.ensures_pure ⟨rfl, unchanged.trans (same.trans left), rfl⟩
  · rintro more files resolution ⟨rfl, rfl, rfl⟩
    exact ⟨dry, isStage, rfl, rfl, by rw [answer]; rfl⟩

/-- What the answer of the analyzer is to a run. -/
def analysis : Except Analysis.Failure Analysis.Evaluation → Except Departure (Option Outcome)
  | .ok evaluation => .ok (verdict? evaluation)
  | .error (.reported error) =>
      .ok (some ⟨.analysisFailure, .analysisError, none, some error.message⟩)
  | .error (.fault fault) => .error (.analysis fault)

/-- Where there is nothing to analyse, nothing is asked. -/
theorem analyse_ensures_nil (analyzer : Analysis.Analyzer) (session : Session) :
    (analyse analyzer []).Ensures session fun acts files result =>
      acts = [] ∧ files = session.files ∧ result = .ok none := by
  have tells : (analyse analyzer []).Tells none :=
    (Run.tells_say _ _).bind
      ((Run.tells_say _ _).bind ((Run.tells_blank _).bind (Run.tells_pure _)))
  exact tells session

theorem analyse_ensures {dependencies : List Dependency} (nonempty : dependencies ≠ [])
    (analyzer : Analysis.Analyzer) (session : Session) :
    (analyse analyzer dependencies).Ensures session fun acts files result =>
      acts = [.consulted dependencies session.files] ∧ files = session.files ∧
        result = analysis (analyzer dependencies).2 := by
  unfold analyse
  apply (Run.tells_say _ _).ensures_bind
  intro begun same
  rw [← same]
  simp only [nonempty, if_false]
  apply (Run.tells_print _).ensures_bind
  intro waiting same
  rw [← same]
  apply (Run.consult_ensures analyzer dependencies waiting).bind
  · rintro acts files departure ⟨rfl, rfl, answer⟩
    refine ⟨rfl, rfl, ?_⟩
    rcases given : (analyzer dependencies).2 with (error | fault) | evaluation <;>
      simp_all [Run.answered, analysis]
  rintro acts later answer ⟨rfl, same, given⟩
  cases answer with
  | ok evaluation =>
      apply (Run.tells_printAll _).ensures_bind
      intro later unchanged
      refine Run.ensures_pure ⟨rfl, unchanged.trans same, ?_⟩
      rcases received : (analyzer dependencies).2 with (error | fault) | evaluation <;>
        simp_all [Run.answered, analysis]
  | error error =>
      apply (Run.tells_say _ _).ensures_bind
      intro later unchanged
      refine Run.ensures_pure ⟨rfl, unchanged.trans same, ?_⟩
      rcases received : (analyzer dependencies).2 with (error | fault) | evaluation <;>
        simp_all [Run.answered, analysis]

end

end GuardedInstall.Pipeline
