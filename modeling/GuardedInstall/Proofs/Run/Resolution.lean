import GuardedInstall.Proofs.Lockfile.Faults
import GuardedInstall.Proofs.Run.ExitStatus

/-!
# What becomes of the lockfile of a dry run

A run that can start its dry run starts it. If the dry run succeeds, its lockfile decides
what follows. Where it lists dependencies, these are analysed. Where it is refused, the
run ends with an outcome that says so, and where reading it comes to a fault, there is no
outcome.
-/

namespace GuardedInstall.Pipeline

open GuardedInstall.Lockfile (Dependency)
open GuardedInstall.File (Snapshot System)
open GuardedInstall.Sandbox (Stage)

/-- A process that exits with zero and leaves a lockfile of dependencies. -/
def Resolves (root : File.Path) (dependencies : List Dependency) (process : Process) : Prop :=
  process.ending = .exited 0 ∧
    Lockfile.parse process.left (root.child lockfile) "yarn" = .ok dependencies

/-- A process that exits with zero and leaves a lockfile without dependencies to be had. -/
def Misses (root : File.Path) (failure : Lockfile.Failure) (process : Process) : Prop :=
  process.ending = .exited 0 ∧
    Lockfile.parse process.left (root.child lockfile) "yarn" = .error failure

/-- What a run comes to whose lockfile gives no dependencies. -/
def missedResult : Lockfile.Failure → Except Departure Outcome
  | .refused refusal => .ok (refusalOutcome refusal)
  | .fault fault => .error (.lockfile fault)

section

variable {setup : Setup} {analyzer : Analysis.Analyzer} {root : File.Path}
  {arguments : List String} {directory : File.Path} {snapshots : List Snapshot}
  {found : System} {dry : Process} {dependencies listed : List Dependency}
  {failure : Lockfile.Failure} {acts : List Act} {result : Except Departure Outcome}

theorem Resolves.eq (resolves : Resolves root dependencies dry)
    (resolved : Resolved setup root arguments found dry listed) : listed = dependencies := by
  have parsed := resolves.2
  rw [resolved.parsed] at parsed
  cases parsed
  rfl

theorem Misses.not_resolved (misses : Misses root failure dry) :
    ¬ Resolved setup root arguments found dry listed := by
  intro resolved
  have failed := misses.2
  rw [resolved.parsed] at failed
  cases failed

/-- What the lockfile of a dry run that succeeded is to a run. -/
theorem bind_resolved_of_clean (setup : Setup) (clean : dry.ending = .exited 0) :
    (reported setup dry.ending).bind (resolved root dry.left) =
      (readOf (Lockfile.parse dry.left (root.child lockfile) "yarn")).map
        (Except.mapError refusalOutcome) := by
  rw [clean]
  rfl

/-! ## The dry run -/

/-- A run that can start its dry run starts it among the files that it found. -/
theorem Extent.exists_dryRun
    (extent : Extent setup analyzer root arguments snapshots found acts result)
    (launcher : setup.configuration.launcher ≠ [])
    (granted : ∃ policy, Stage.dryRun.policy root setup.configuration setup.homes = .ok policy) :
    ∃ dry, process? acts .dryRun = some dry ∧ dry.found = found := by
  cases extent with
  | none unstartable =>
      rcases unstartable with unset | refused
      · exact absurd unset launcher
      · exact absurd granted refused
  | dryRun stage decides => exact ⟨_, rfl, stage.found_eq⟩
  | analysis resolved => exact ⟨_, rfl, resolved.stage.found_eq⟩
  | download admitted stage quiet => exact ⟨_, rfl, admitted.resolved.stage.found_eq⟩

/-- The dry run is what the first behaviour makes of its start. -/
theorem exists_dryRun_of_startable {files : System} (analyzer : Analysis.Analyzer)
    (behaviours : List Child.Behaviour)
    (intercepted : Route.ofArguments arguments = .ok .intercept)
    (searched : files.findRoot manifest directory System.searchDepth = .ok (some root))
    (captured : captureState files root = .ok snapshots)
    (launcher : setup.configuration.launcher ≠ [])
    (granted : ∃ policy, Stage.dryRun.policy root setup.configuration setup.homes = .ok policy) :
    ∃ start, process? (course setup analyzer arguments directory files behaviours).acts .dryRun =
      some (.ofBehaviour (behaviours.headD Child.idle) start files) := by
  obtain ⟨acts, passage, courseEq⟩ :=
    course_of_captured setup analyzer behaviours intercepted searched captured
  have actsEq : Event.acts behaviours _ = acts := congrArg Course.acts courseEq
  obtain ⟨dry, ran, foundEq⟩ := passage.extent.exists_dryRun launcher granted
  have made := ran
  rw [← actsEq] at made
  rw [courseEq]
  refine ⟨dry.start, ?_⟩
  rw [← foundEq, ← Event.eq_ofBehaviour_of_first made]
  exact ran

/-! ## Its lockfile -/

/-- What a dry run resolves is analysed. -/
theorem Extent.mem_consultations
    (extent : Extent setup analyzer root arguments snapshots found acts result)
    (ran : process? acts .dryRun = some dry) (resolves : Resolves root dependencies dry)
    (nonempty : dependencies ≠ []) : dependencies ∈ consultations acts := by
  cases extent with
  | none unstartable => cases ran
  | dryRun stage decides =>
      cases ran
      rw [bind_resolved_of_clean setup resolves.1, resolves.2] at decides
      cases result <;> cases decides
  | analysis resolved =>
      cases ran
      simp [resolves.eq resolved]
  | download admitted stage quiet =>
      cases ran
      have same := resolves.eq admitted.resolved
      subst same
      cases admitted.cleared with
      | empty => exact absurd rfl nonempty
      | analysed some answer passes => simp

/-- A lockfile without dependencies to be had is the end of a run. -/
theorem Extent.of_misses
    (extent : Extent setup analyzer root arguments snapshots found acts result)
    (ran : process? acts .dryRun = some dry) (misses : Misses root failure dry) :
    acts = [.ran dry] ∧ result = missedResult failure := by
  cases extent with
  | none unstartable => cases ran
  | dryRun stage decides =>
      cases ran
      refine ⟨rfl, ?_⟩
      rw [bind_resolved_of_clean setup misses.1, misses.2] at decides
      cases failure with
      | refused refusal =>
          cases result <;> cases decides
          rfl
      | fault fault =>
          cases result <;> cases decides
          rfl
  | analysis resolved =>
      cases ran
      exact absurd resolved misses.not_resolved
  | download admitted stage quiet =>
      cases ran
      exact absurd admitted.resolved misses.not_resolved

/-! ## Whole runs -/

/-- What the first behaviour resolves is analysed. -/
theorem mem_consultations_of_resolves {files : System} (analyzer : Analysis.Analyzer)
    (behaviours : List Child.Behaviour)
    (intercepted : Route.ofArguments arguments = .ok .intercept)
    (searched : files.findRoot manifest directory System.searchDepth = .ok (some root))
    (captured : captureState files root = .ok snapshots)
    (launcher : setup.configuration.launcher ≠ [])
    (granted : ∃ policy, Stage.dryRun.policy root setup.configuration setup.homes = .ok policy)
    (nonempty : dependencies ≠ [])
    (resolves : ∀ start, Resolves root dependencies
      (.ofBehaviour (behaviours.headD Child.idle) start files)) :
    dependencies ∈
      consultations (course setup analyzer arguments directory files behaviours).acts := by
  obtain ⟨start, ran⟩ := exists_dryRun_of_startable analyzer behaviours intercepted searched
    captured launcher granted
  obtain ⟨acts, passage, courseEq⟩ :=
    course_of_captured setup analyzer behaviours intercepted searched captured
  rw [courseEq] at ran ⊢
  exact passage.extent.mem_consultations ran (resolves start) nonempty

/-- A lockfile that the first behaviour leaves without dependencies to be had decides the
result. -/
theorem result_of_misses {files : System} (analyzer : Analysis.Analyzer)
    (behaviours : List Child.Behaviour)
    (intercepted : Route.ofArguments arguments = .ok .intercept)
    (searched : files.findRoot manifest directory System.searchDepth = .ok (some root))
    (captured : captureState files root = .ok snapshots)
    (launcher : setup.configuration.launcher ≠ [])
    (granted : ∃ policy, Stage.dryRun.policy root setup.configuration setup.homes = .ok policy)
    (misses : ∀ start, Misses root failure
      (.ofBehaviour (behaviours.headD Child.idle) start files)) :
    (course setup analyzer arguments directory files behaviours).result =
      missedResult failure := by
  obtain ⟨start, ran⟩ := exists_dryRun_of_startable analyzer behaviours intercepted searched
    captured launcher granted
  obtain ⟨acts, passage, courseEq⟩ :=
    course_of_captured setup analyzer behaviours intercepted searched captured
  rw [courseEq] at ran ⊢
  exact (passage.extent.of_misses ran (misses start)).2

end

/-! ## A dry run that leaves no text -/

/-- A process that leaves bytes which are no text. -/
def garbling : Child.Behaviour := fun _ files =>
  (files.set [lockfile] (.file Lockfile.garbage false), .exited 0)

theorem misses_garbling (start : Child.Start) :
    Misses topmost (.fault .notUtf8) (.ofBehaviour garbling start bareProject) := by
  have read : (garbling start bareProject).1.read (topmost.child lockfile) =
      .ok Lockfile.garbage := by
    rw [File.System.read_of_locate (locate_topmost _ (by decide)), garbling,
      File.System.node?_set_self (by decide)]
  have faulty : Lockfile.Faulty (garbling start bareProject).1 (topmost.child lockfile)
      .notUtf8 := .bytes read (by decide)
  exact ⟨rfl, (Lockfile.parse_eq_fault_iff_of_known (by decide)).mpr faulty⟩

/-- Such a lockfile is not refused: the run has no outcome. -/
theorem result_of_garbling :
    (course plainSetup contented ["add", "left-pad"] topmost bareProject [garbling]).result =
      .error (.lockfile .notUtf8) := by
  have intercepted : Route.ofArguments ["add", "left-pad"] = .ok .intercept :=
    Route.ofArguments_eq_intercept_iff.mpr ⟨_, _, rfl, by decide⟩
  exact result_of_misses contented [garbling] intercepted findRoot_bareProject
    captureState_bareProject (by decide) exists_policy_plainSetup misses_garbling

end GuardedInstall.Pipeline
