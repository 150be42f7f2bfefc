import GuardedInstall.Proofs.Run.Confinement

/-!
# What becomes of an invocation

The arguments alone decide whether a run is refused, guarded or handed through. A refused
run does nothing. A run that is handed through is one process, started with the arguments
as they are, and nothing else: it finds the files as they were, the files that it leaves
stay, and its exit code is the one of the run. So the package manager gets a guarded
subcommand only behind the launcher.
-/

namespace GuardedInstall.Pipeline

open GuardedInstall.File (System)
open GuardedInstall.Route (FlagInFront GuardedFirst subcommand?)

/-- The process of an invocation that is handed through. -/
def handedProcess (setup : Setup) (arguments : List String) (directory : File.Path)
    (files : System) (behaviours : List Child.Behaviour) : Process :=
  Process.ofBehaviour (behaviours.headD Child.idle)
    ⟨setup.configuration.packageManager :: arguments, directory⟩ files

/-- A course is that of one process, and of nothing else. -/
structure FollowsProcess (command : String) (process : Process) (seen : Course) : Prop where
  acts_eq : seen.acts = [.ran process]
  files_eq : seen.files = process.left
  /-- The result depends on how the process ended, and on no file. -/
  result_eq : seen.result = (handed command process.ending).map fun code => .passthrough code
  exited (code : Nat) (ended : process.ending = .exited code) :
    ∃ outcome, seen.result = .ok outcome ∧ ∀ preserve, outcome.exitStatus preserve = code
  killed (signal : Nat) (ended : process.ending = .killed signal) :
    ∃ outcome, seen.result = .ok outcome ∧
      ∀ preserve, outcome.exitStatus preserve = 128 + signal
  zero_iff (outcome : Outcome) (returned : seen.result = .ok outcome) (preserve : Bool) :
    outcome.exitStatus preserve = 0 ↔ process.ending = .exited 0

/-- A process is the package manager as it was called, without a guarded subcommand. -/
structure IsHandedThrough (setup : Setup) (arguments : List String) (directory : File.Path)
    (process : Process) : Prop where
  start_eq : process.start = ⟨setup.configuration.packageManager :: arguments, directory⟩
  unguarded (subcommand : String) (found : subcommand? arguments = some subcommand) :
    subcommand ∉ ["add", "install", "up", "dedupe", "remove"]

/-- What the arguments of an invocation make of its course. -/
structure RoutedSafely (setup : Setup) (analyzer : Analysis.Analyzer)
    (arguments : List String) (directory : File.Path) (files : System)
    (behaviours : List Child.Behaviour) (seen : Course) : Prop where
  refused_iff : (∃ outcome, seen.result = .ok outcome ∧ outcome.kind = .usageFailure) ↔
    FlagInFront arguments
  refused (front : FlagInFront arguments) : seen.acts = [] ∧ seen.files = files
  refused_status (outcome : Outcome) (returned : seen.result = .ok outcome)
    (kind : outcome.kind = .usageFailure) (preserve : Bool) : outcome.exitStatus preserve = 125
  guarded_iff : Route.ofArguments arguments = .ok .intercept ↔ GuardedFirst arguments
  guarded (first : GuardedFirst arguments) :
    Guarded setup analyzer arguments directory files seen.acts seen.files seen.result
  passed (unrefused : ¬ FlagInFront arguments) (unguarded : ¬ GuardedFirst arguments) :
    FollowsProcess setup.configuration.packageManager
      (handedProcess setup arguments directory files behaviours) seen
  /-- What is not confined is no guarded subcommand. -/
  confined (process : Process) (ran : process ∈ processes seen.acts) :
    (∃ root stage, IsConfined setup arguments root stage process) ∨
      IsHandedThrough setup arguments directory process

section

variable {setup : Setup} {analyzer : Analysis.Analyzer} {arguments : List String}
  {directory : File.Path} {files : System} {behaviours : List Child.Behaviour}
  {process : Process} {seen : Course}

/-! ## Runs that are handed through -/

theorem exitStatus_passthrough (code : Nat) (preserve : Bool) :
    (Outcome.passthrough code).exitStatus preserve = code :=
  rfl

/-- The exit status follows from the course of the process. -/
theorem followsProcess_of_result_eq {command : String} (acts_eq : seen.acts = [.ran process])
    (files_eq : seen.files = process.left)
    (result_eq : seen.result = (handed command process.ending).map
      fun code => .passthrough code) : FollowsProcess command process seen := by
  constructor
  case acts_eq => exact acts_eq
  case files_eq => exact files_eq
  case result_eq => exact result_eq
  case exited =>
    intro code ended
    rw [ended] at result_eq
    exact ⟨_, result_eq, exitStatus_passthrough code⟩
  case killed =>
    intro signal ended
    rw [ended] at result_eq
    refine ⟨_, result_eq, fun preserve => ?_⟩
    rw [exitStatus_passthrough]
    simp [Sandbox.signalBase]
  case zero_iff =>
    intro outcome returned preserve
    rw [result_eq] at returned
    cases ended : process.ending with
    | exited code =>
        rw [ended] at returned
        cases returned
        rw [exitStatus_passthrough]
        simp
    | killed signal =>
        -- The code lies above all signals, and so is never zero.
        rw [ended] at returned
        cases returned
        rw [exitStatus_passthrough]
        simp only [Sandbox.signalBase, reduceCtorEq, iff_false]
        omega
    | failed failure =>
        rw [ended] at returned
        cases failure <;> cases returned

theorem followsProcess_of_passthrough (setup : Setup) (analyzer : Analysis.Analyzer)
    (directory : File.Path) (passed : Route.ofArguments arguments = .ok .passthrough)
    (files : System) (behaviours : List Child.Behaviour) :
    FollowsProcess setup.configuration.packageManager
      (handedProcess setup arguments directory files behaviours)
      (course setup analyzer arguments directory files behaviours) := by
  have ensures : (run setup analyzer arguments directory).Ensures (.start files behaviours) _ :=
    run_ensures_of_passthrough passed _
  obtain ⟨process, next, ran, left, ended⟩ := course_of_ensures ensures
  have same : process = handedProcess setup arguments directory files behaviours := next
  rw [← same]
  exact followsProcess_of_result_eq ran left ended

/-! ## Every process of a run -/

/-- A guarded run starts its processes behind the launcher. -/
theorem Guarded.isConfined {found left : System} {acts : List Act}
    {result : Except Departure Outcome}
    (guarded : Guarded setup analyzer arguments directory found acts left result)
    (ran : process ∈ processes acts) :
    ∃ root stage, IsConfined setup arguments root stage process := by
  cases guarded with
  | searchFailed searched => cases ran
  | rootMissing searched => cases ran
  | captureFailed searched refused => cases ran
  | @passed root snapshots acts left result searched captured passage =>
      obtain ⟨stages, -, confined⟩ :=
        passage.progress.stages (File.System.isAbsolute_of_findRoot searched)
      obtain ⟨index, inRange, rfl⟩ := List.mem_iff_getElem.mp ran
      have staged : index < stages.length := confined.length_eq ▸ inRange
      exact ⟨root, stages[index], confined.get staged inRange⟩

/-- A run that is handed through starts the package manager as it was called. -/
theorem isHandedThrough (setup : Setup) (directory : File.Path)
    (passed : Route.ofArguments arguments = .ok .passthrough) (files : System)
    (behaviours : List Child.Behaviour) :
    IsHandedThrough setup arguments directory
      (handedProcess setup arguments directory files behaviours) := by
  constructor
  case start_eq => rfl
  case unguarded =>
    intro subcommand found
    exact Route.subcommand_not_mem_guarded passed found

/-! ## All invocations -/

theorem not_usageFailure_of_guarded {found left : System} {acts : List Act}
    {result : Except Departure Outcome}
    (guarded : Guarded setup analyzer arguments directory found acts left result) :
    ¬ ∃ outcome, result = .ok outcome ∧ outcome.kind = .usageFailure := by
  rintro ⟨outcome, rfl, kind⟩
  have member := guarded.kind_mem
  simp [kind, stageKinds] at member

theorem not_usageFailure_of_followsProcess {command : String}
    (follows : FollowsProcess command process seen) :
    ¬ ∃ outcome, seen.result = .ok outcome ∧ outcome.kind = .usageFailure := by
  rintro ⟨outcome, returned, kind⟩
  rw [follows.result_eq] at returned
  cases ended : handed command process.ending with
  | error departure =>
      rw [ended] at returned
      cases returned
  | ok code =>
      rw [ended] at returned
      cases returned
      cases kind

theorem routedSafely_of_refused {error : UsageError}
    (refused : Route.ofArguments arguments = .error error) :
    RoutedSafely setup analyzer arguments directory files behaviours
      (course setup analyzer arguments directory files behaviours) := by
  have ensures : (run setup analyzer arguments directory).Ensures (.start files behaviours) _ :=
    run_ensures_of_refused refused _
  obtain ⟨acts, left, result⟩ := course_of_ensures ensures
  have front : FlagInFront arguments := Route.exists_ofArguments_eq_error_iff.mp ⟨error, refused⟩
  have unguarded : ¬ GuardedFirst arguments := by
    rw [← Route.ofArguments_eq_intercept_iff_guardedFirst, refused]
    rintro ⟨⟩
  constructor
  case refused_iff => exact iff_of_true ⟨_, result, rfl⟩ front
  case refused => exact fun _ => ⟨acts, left⟩
  case refused_status =>
    intro outcome returned _ preserve
    rw [result] at returned
    cases returned
    cases preserve with
    | false => rfl
    | true => rfl
  case guarded_iff => exact Route.ofArguments_eq_intercept_iff_guardedFirst
  case guarded => exact fun first => absurd first unguarded
  case passed => exact fun unrefused => absurd front unrefused
  case confined =>
    intro process ran
    rw [acts] at ran
    cases ran

theorem routedSafely_of_intercepted
    (intercepted : Route.ofArguments arguments = .ok .intercept) :
    RoutedSafely setup analyzer arguments directory files behaviours
      (course setup analyzer arguments directory files behaviours) := by
  have guarded := guarded_course setup analyzer directory intercepted files behaviours
  have first : GuardedFirst arguments :=
    Route.ofArguments_eq_intercept_iff_guardedFirst.mp intercepted
  have unrefused : ¬ FlagInFront arguments := by
    rw [← Route.exists_ofArguments_eq_error_iff, intercepted]
    rintro ⟨error, ⟨⟩⟩
  have kept := not_usageFailure_of_guarded guarded
  constructor
  case refused_iff => exact iff_of_false kept unrefused
  case refused => exact fun front => absurd front unrefused
  case refused_status => exact fun outcome returned kind => absurd ⟨outcome, returned, kind⟩ kept
  case guarded_iff => exact Route.ofArguments_eq_intercept_iff_guardedFirst
  case guarded => exact fun _ => guarded
  case passed => exact fun _ unguarded => absurd first unguarded
  case confined => exact fun process ran => .inl (guarded.isConfined ran)

theorem routedSafely_of_passthrough
    (passed : Route.ofArguments arguments = .ok .passthrough) :
    RoutedSafely setup analyzer arguments directory files behaviours
      (course setup analyzer arguments directory files behaviours) := by
  have follows := followsProcess_of_passthrough setup analyzer directory passed files behaviours
  obtain ⟨unrefused, unguarded⟩ := Route.ofArguments_eq_passthrough_iff.mp passed
  have kept := not_usageFailure_of_followsProcess follows
  constructor
  case refused_iff => exact iff_of_false kept unrefused
  case refused => exact fun front => absurd front unrefused
  case refused_status => exact fun outcome returned kind => absurd ⟨outcome, returned, kind⟩ kept
  case guarded_iff => exact Route.ofArguments_eq_intercept_iff_guardedFirst
  case guarded => exact fun first => absurd first unguarded
  case passed => exact fun _ _ => follows
  case confined =>
    intro process ran
    rw [follows.acts_eq, processes_ran, processes_nil, List.mem_singleton] at ran
    rw [ran]
    exact .inr (isHandedThrough setup directory passed files behaviours)

end

/-- The arguments decide what becomes of an invocation, and no arguments bring the package
manager past the launcher with a guarded subcommand. -/
theorem routedSafely (setup : Setup) (analyzer : Analysis.Analyzer) (arguments : List String)
    (directory : File.Path) (files : System) (behaviours : List Child.Behaviour) :
    RoutedSafely setup analyzer arguments directory files behaviours
      (course setup analyzer arguments directory files behaviours) := by
  cases routed : Route.ofArguments arguments with
  | error error => exact routedSafely_of_refused routed
  | ok route =>
      cases route with
      | intercept => exact routedSafely_of_intercepted routed
      | passthrough => exact routedSafely_of_passthrough routed

end GuardedInstall.Pipeline
