import GuardedInstall.Proofs.Run.Passage

/-!
# Whole runs

The course of a run is what can be seen of it from outside: what it did, the files
that were there in the end, and its result. A guarded run is over before it does
anything, or its stages are gone through and the state files are settled.
-/

namespace GuardedInstall.Pipeline

open GuardedInstall.Lockfile (Dependency)
open GuardedInstall.Sandbox (Stage)
open GuardedInstall.File (System)
open GuardedInstall.File.Snapshot (restoreAll)

/-- What can be seen of a run from outside. -/
structure Course where
  acts : List Act
  files : System
  result : Except Departure Outcome

/-- The course of the package manager being run in a directory, given the behaviours
of the processes to come. -/
def course (setup : Setup) (analyzer : Analysis.Analyzer) (arguments : List String)
    (directory : File.Path) (files : System) (behaviours : List Child.Behaviour) : Course :=
  let ended := run setup analyzer arguments directory (.start files behaviours)
  ⟨Event.acts behaviours ended.2.events, ended.2.files, ended.1⟩

/-- The process of a stage among acts. -/
def process? (acts : List Act) : Stage → Option Process
  | .dryRun => (processes acts)[0]?
  | .cache => (processes acts)[1]?
  | .build => (processes acts)[2]?

/-- A stage's process ran and exited with zero. -/
def Succeeded (acts : List Act) (stage : Stage) : Prop :=
  ∃ process, process? acts stage = some process ∧ process.ending = .exited 0

/-- What every run from a start ensures holds of its course. -/
theorem course_of_ensures {setup : Setup} {analyzer : Analysis.Analyzer}
    {arguments : List String} {directory : File.Path} {files : System}
    {behaviours : List Child.Behaviour} {report : Run.Report Outcome}
    (ensures : (run setup analyzer arguments directory).Ensures (.start files behaviours)
      report) :
    report (course setup analyzer arguments directory files behaviours).acts
      (course setup analyzer arguments directory files behaviours).files
      (course setup analyzer arguments directory files behaviours).result := by
  obtain ⟨acts, continues, holds⟩ := ensures
  simp only [course, continues.acts_eq]
  exact holds

/-! ## Guarded runs -/

section

variable (setup : Setup) (analyzer : Analysis.Analyzer) (arguments : List String)
  (directory : File.Path)

/-- The files in the end, given those that the stages left. -/
def settled (snapshots : List File.Snapshot) (result : Except Departure Outcome)
    (left : System) : System :=
  if result.toOption.any Outcome.isOk then left else restoreAll snapshots left

/-- The ways of a guarded run that begins among given files. -/
inductive Guarded (found : System) : List Act → System → Except Departure Outcome → Prop where
  /-- The search for a project came to an error. -/
  | searchFailed {error : File.AccessError}
      (searched : found.findRoot manifest directory System.searchDepth = .error error) :
      Guarded found [] found (.error (.access error))
  /-- There is no project. -/
  | rootMissing (searched : found.findRoot manifest directory System.searchDepth = .ok none) :
      Guarded found [] found (.ok ⟨.environmentFailure, .rootNotFound, none, none⟩)
  /-- The state files cannot be recorded. -/
  | captureFailed {root : File.Path} {error : File.AccessError}
      (searched : found.findRoot manifest directory System.searchDepth = .ok (some root))
      (refused : captureState found root = .error error) :
      Guarded found [] found (.ok ⟨.environmentFailure, .usage, none, some error.message⟩)
  /-- The stages are gone through. -/
  | passed {root : File.Path} {snapshots : List File.Snapshot} {acts : List Act}
      {left : System} {result : Except Departure Outcome}
      (searched : found.findRoot manifest directory System.searchDepth = .ok (some root))
      (captured : captureState found root = .ok snapshots)
      (passage : Passage setup analyzer root arguments snapshots found acts left result) :
      Guarded found acts (settled snapshots result left) result

end

section

variable {setup : Setup} {analyzer : Analysis.Analyzer} {arguments : List String}
  {directory root : File.Path} {snapshots : List File.Snapshot} {session : Session}

theorem projectRoot_apply (directory : File.Path) (session : Session) :
    projectRoot directory session =
      ((session.files.findRoot manifest directory System.searchDepth).mapError .access,
        session) := by
  simp only [projectRoot, Run.get_bind_apply]
  cases session.files.findRoot manifest directory System.searchDepth with
  | ok root? => rfl
  | error error => rfl

/-- Once the state files are recorded, what is left to do is to go through the stages. -/
theorem guardInstall_of_captured
    (searched : session.files.findRoot manifest directory System.searchDepth = .ok (some root))
    (captured : captureState session.files root = .ok snapshots) :
    guardInstall setup analyzer arguments directory session =
      Run.restoringUnless Outcome.isOk snapshots
        (runStages setup analyzer root arguments snapshots) session := by
  rw [guardInstall, Run.bind_apply, projectRoot_apply, searched]
  simp only [Except.mapError, Run.get_bind_apply, captured]

/-- The course of a run whose state files could be recorded. -/
theorem course_of_captured {files : System} (setup : Setup) (analyzer : Analysis.Analyzer)
    (behaviours : List Child.Behaviour)
    (intercepted : Route.ofArguments arguments = .ok .intercept)
    (searched : files.findRoot manifest directory System.searchDepth = .ok (some root))
    (captured : captureState files root = .ok snapshots) :
    ∃ acts,
      Passage setup analyzer root arguments snapshots files acts
        (runStages setup analyzer root arguments snapshots (.start files behaviours)).2.files
        (runStages setup analyzer root arguments snapshots (.start files behaviours)).1 ∧
      course setup analyzer arguments directory files behaviours =
        ⟨acts,
          settled snapshots
            (runStages setup analyzer root arguments snapshots (.start files behaviours)).1
            (runStages setup analyzer root arguments snapshots (.start files behaviours)).2.files,
          (runStages setup analyzer root arguments snapshots (.start files behaviours)).1⟩ := by
  have ended : run setup analyzer arguments directory (.start files behaviours) =
      Run.restoringUnless Outcome.isOk snapshots
        (runStages setup analyzer root arguments snapshots) (.start files behaviours) := by
    rw [run, intercepted]
    exact guardInstall_of_captured searched captured
  have staged : (runStages setup analyzer root arguments snapshots).Ensures
      (.start files behaviours)
      (Passage setup analyzer root arguments snapshots files) :=
    runStages_ensures_passage (File.System.isAbsolute_of_findRoot searched) _
  rw [Run.restoringUnless_apply] at ended
  obtain ⟨acts, continues, passage⟩ := staged
  generalize runStages setup analyzer root arguments snapshots (.start files behaviours) = staged
    at ended continues passage ⊢
  refine ⟨acts, passage, ?_⟩
  simp only [course, ended, settled]
  split
  · rw [continues.acts_eq]
  · simp only [Session.restore, continues.acts_eq]

theorem guardInstall_ensures (session : Session) :
    (guardInstall setup analyzer arguments directory).Ensures session
      (Guarded setup analyzer arguments directory session.files) := by
  have searching : (projectRoot directory).Ensures session fun acts files result =>
      acts = [] ∧ files = session.files ∧
        result = (session.files.findRoot manifest directory System.searchDepth).mapError
          .access := by
    rw [Run.Ensures, projectRoot_apply]
    exact ⟨[], .refl session, rfl, rfl, rfl⟩
  apply searching.bind
  · rintro acts files departure ⟨rfl, rfl, ended⟩
    cases searched : session.files.findRoot manifest directory System.searchDepth with
    | ok root => simp [searched, Except.mapError] at ended
    | error error =>
        rw [searched] at ended
        cases ended
        exact .searchFailed searched
  · rintro acts later root? ⟨rfl, same, ended⟩
    have searched : session.files.findRoot manifest directory System.searchDepth = .ok root? := by
      cases searched : session.files.findRoot manifest directory System.searchDepth with
      | ok found =>
          rw [searched] at ended
          cases ended
          rfl
      | error error => simp [searched, Except.mapError] at ended
    rw [← same] at searched ⊢
    cases root? with
    | none =>
        apply (Run.tells_say _ _).ensures_bind
        intro first told
        apply (Run.tells_say _ _).ensures_bind
        intro second still
        exact Run.ensures_pure (by rw [still, told]; exact .rootMissing searched)
    | some root =>
        apply Run.ensures_get_bind
        cases captured : captureState later.files root with
        | error error =>
            apply (Run.tells_say _ _).ensures_bind
            intro last told
            exact Run.ensures_pure (by rw [told]; exact .captureFailed searched captured)
        | ok snapshots =>
            apply Run.Ensures.restoringUnless
            apply (runStages_ensures_passage (File.System.isAbsolute_of_findRoot searched)
              later).weaken
            intro acts files result passage
            exact .passed searched captured passage

/-- What a run of a guarded invocation ensures. -/
theorem run_ensures_of_intercepted
    (intercepted : Route.ofArguments arguments = .ok .intercept) (session : Session) :
    (run setup analyzer arguments directory).Ensures session
      (Guarded setup analyzer arguments directory session.files) := by
  rw [run, intercepted]
  exact guardInstall_ensures session

/-- A guarded run is neither refused nor handed through. -/
theorem Guarded.kind_mem {found left : System} {acts : List Act} {outcome : Outcome}
    (guarded : Guarded setup analyzer arguments directory found acts left (.ok outcome)) :
    outcome.kind ∈ OutcomeKind.environmentFailure :: stageKinds := by
  cases guarded with
  | rootMissing searched => exact List.mem_cons_self
  | captureFailed searched refused => exact List.mem_cons_self
  | passed searched captured passage =>
      exact List.mem_cons_of_mem _ passage.kind_mem_stageKinds

/-- The course of a guarded invocation. -/
theorem guarded_course (setup : Setup) (analyzer : Analysis.Analyzer)
    (directory : File.Path) (intercepted : Route.ofArguments arguments = .ok .intercept)
    (files : System) (behaviours : List Child.Behaviour) :
    Guarded setup analyzer arguments directory files
      (course setup analyzer arguments directory files behaviours).acts
      (course setup analyzer arguments directory files behaviours).files
      (course setup analyzer arguments directory files behaviours).result :=
  course_of_ensures (run_ensures_of_intercepted intercepted _)

/-! ## Runs that are not guarded -/

/-- What handing an invocation through comes to, given how its process ended. -/
def handed (command : String) : Child.Ending → Except Departure Nat
  | .exited code => .ok code
  | .killed signal => .ok (Sandbox.signalBase + signal)
  | .failed .notFound => .error (.commandNotFound command)
  | .failed failure => .error (.process failure)

/-- Handing an invocation through runs one process, and the rest is how it ended. -/
theorem handThrough_ensures (command : String) (session : Session) :
    (Sandbox.handThrough command arguments directory).Ensures session fun acts files result =>
      ∃ process, process = session.nextProcess ⟨command :: arguments, directory⟩ ∧
        acts = [.ran process] ∧ files = process.left ∧
        result = handed command process.ending := by
  unfold Sandbox.handThrough
  apply (Run.start_ensures _ session).bind
  · rintro acts files departure ⟨-, -, ⟨⟩⟩
  rintro acts later ending ⟨rfl, left, ⟨⟩⟩
  cases ended : (session.nextProcess ⟨command :: arguments, directory⟩).ending with
  | exited code => exact Run.ensures_pure ⟨_, rfl, rfl, left, by rw [ended]; rfl⟩
  | killed signal => exact Run.ensures_pure ⟨_, rfl, rfl, left, by rw [ended]; rfl⟩
  | failed failure =>
      cases failure with
      | notFound => exact Run.ensures_throw ⟨_, rfl, rfl, left, by rw [ended]; rfl⟩
      | notPermitted => exact Run.ensures_throw ⟨_, rfl, rfl, left, by rw [ended]; rfl⟩
      | broken detail => exact Run.ensures_throw ⟨_, rfl, rfl, left, by rw [ended]; rfl⟩
      | interrupted detail => exact Run.ensures_throw ⟨_, rfl, rfl, left, by rw [ended]; rfl⟩

/-- A run that is handed through runs the package manager as it was asked to, and comes to
an exit code of its process. -/
theorem run_ensures_of_passthrough
    (passed : Route.ofArguments arguments = .ok .passthrough) (session : Session) :
    (run setup analyzer arguments directory).Ensures session fun acts files result =>
      ∃ process, process = session.nextProcess
          ⟨setup.configuration.packageManager :: arguments, directory⟩ ∧
        acts = [.ran process] ∧ files = process.left ∧
        result = (handed setup.configuration.packageManager process.ending).map
          fun code => .passthrough code := by
  rw [run, passed]
  apply (handThrough_ensures setup.configuration.packageManager session).bind
  · rintro acts files departure ⟨process, next, ran, left, ended⟩
    exact ⟨process, next, ran, left, by rw [← ended]; rfl⟩
  · rintro acts later code ⟨process, next, rfl, left, ended⟩
    exact Run.ensures_pure ⟨process, next, rfl, left, by rw [← ended]; rfl⟩

/-- A refused run does nothing but to tell why. -/
theorem run_ensures_of_refused {error : UsageError}
    (refused : Route.ofArguments arguments = .error error) (session : Session) :
    (run setup analyzer arguments directory).Ensures session fun acts files result =>
      acts = [] ∧ files = session.files ∧
        result = .ok ⟨.usageFailure, .usage, none, some error.message⟩ := by
  rw [run, refused]
  apply (Run.tells_say _ _).ensures_bind
  intro later same
  exact Run.ensures_pure ⟨rfl, same, rfl⟩

/-- What is not guarded is refused or handed through. -/
theorem run_ensures_of_not_intercepted
    (unguarded : Route.ofArguments arguments ≠ .ok .intercept) (session : Session) :
    (run setup analyzer arguments directory).Ensures session fun acts _ result =>
      (processes acts).length ≤ 1 ∧ consultations acts = [] ∧ ¬ IsInstalled result := by
  cases routed : Route.ofArguments arguments with
  | error error =>
      apply (run_ensures_of_refused routed session).weaken
      rintro acts files result ⟨rfl, -, rfl⟩
      exact ⟨by simp, rfl, not_isInstalled_of_kind OutcomeKind.noConfusion⟩
  | ok route =>
      cases route with
      | intercept => exact absurd routed unguarded
      | passthrough =>
          apply (run_ensures_of_passthrough routed session).weaken
          rintro acts files result ⟨process, -, rfl, -, rfl⟩
          refine ⟨by simp, rfl, ?_⟩
          cases handed setup.configuration.packageManager process.ending with
          | error departure => exact not_isInstalled_error departure
          | ok code => exact not_isInstalled_of_kind OutcomeKind.noConfusion

/-- Every run does what its course shows. -/
theorem run_ensures_course (setup : Setup) (analyzer : Analysis.Analyzer)
    (arguments : List String) (directory : File.Path) (files : System)
    (behaviours : List Child.Behaviour) :
    (run setup analyzer arguments directory).Ensures (.start files behaviours)
      fun acts left result =>
        (⟨acts, left, result⟩ : Course) =
          course setup analyzer arguments directory files behaviours := by
  have routed : ∃ report, (run setup analyzer arguments directory).Ensures
      (.start files behaviours) report := by
    cases route : Route.ofArguments arguments with
    | error error => exact ⟨_, run_ensures_of_refused route _⟩
    | ok way =>
        cases way with
        | intercept => exact ⟨_, run_ensures_of_intercepted route _⟩
        | passthrough => exact ⟨_, run_ensures_of_passthrough route _⟩
  obtain ⟨report, acts, continues, -⟩ := routed
  exact ⟨acts, continues, by rw [course, continues.acts_eq]⟩

end

end GuardedInstall.Pipeline
