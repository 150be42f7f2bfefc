import GuardedInstall.Analysis.Report
import GuardedInstall.File.Search
import GuardedInstall.Routing
import GuardedInstall.Sandbox.Launcher
import GuardedInstall.Sandbox.Stage

/-!
# Guarded runs

A run of the package manager that changes dependencies goes through stages.
A dry run, whose changes of the lockfile and the manifest are always taken
back, tells which packages would be installed. These are analysed. Only if
nothing speaks against them are they downloaded and then built in the sandbox.
Whenever a run does not end well, the lockfile and the manifest are put back
into the state in which they were found.
-/

namespace GuardedInstall.Pipeline

open GuardedInstall.Console (Stream)
open GuardedInstall.Lockfile (Dependency)
open GuardedInstall.Sandbox (Stage)

/-- What a run is given: its configuration, and where programs and home
directories are. -/
structure Setup where
  configuration : Config.Configuration
  homes : File.Homes
  searchPath : String

/-- The file that marks the root of a project. -/
def manifest : String := "package.json"

/-- The file that lists the packages of a project. -/
def lockfile : String := "yarn.lock"

/-- The arguments of the package manager at a stage, given those of the user. -/
def stageArguments (arguments : List String) : Stage → List String
  | .dryRun => arguments ++ ["--mode=skip-build", "--mode=update-lockfile"]
  | .cache => arguments ++ ["--mode=skip-build"]
  | .build => ["install", "--immutable", "--immutable-cache"]

/-- Run one stage in its sandbox. -/
def runStage (setup : Setup) (root : File.Path) (arguments : List String) (stage : Stage) :
    Run StageResult := do
  let configuration := setup.configuration
  match stage.policy root configuration setup.homes with
  | .error error => throw (.home error)
  | .ok policy =>
      Sandbox.launch configuration.launcher root setup.searchPath configuration.packageManager
        (stageArguments arguments stage) policy

/-- The dependencies in the lockfile of a project, or why it is refused. -/
def readLockfile (root : File.Path) : Run (Except Lockfile.Refusal (List Dependency)) := do
  match Lockfile.parse (← get).files (root.child lockfile) "yarn" with
  | .ok dependencies => pure (.ok dependencies)
  | .error (.refused refusal) => pure (.error refusal)
  | .error (.fault fault) => throw (.lockfile fault)

/-- Find out which dependencies would be installed. An outcome ends the run. -/
def resolve (setup : Setup) (root : File.Path) (arguments : List String) :
    Run (Except Outcome (List Dependency)) := do
  let result ← runStage setup root arguments .dryRun
  if result.succeeded then
    match ← readLockfile root with
    | .ok dependencies => pure (.ok dependencies)
    | .error refusal =>
        Run.say .error s!"Lockfile could not be parsed: {refusal.message}"
        pure (.error (.safeFailure .dryRunFailed none (some refusal.message)))
  else
    Run.say .error "Lockfile update failed."
    Run.blank .err
    pure (.error (.safeFailure .dryRunFailed (some result) none))

/-- The outcome that an evaluation calls for. Without one the installation may
proceed. -/
def verdict? (evaluation : Analysis.Evaluation) : Option Outcome :=
  if evaluation.isFailure then some ⟨.policyFailure, .policyFailure, none, none⟩
  else if 0 < evaluation.incompleteCount then some ⟨.incomplete, .incomplete, none, none⟩
  else none

/-- Have dependencies analysed. An outcome ends the run; without one the
installation may proceed. -/
def analyse (analyzer : Analysis.Analyzer) (dependencies : List Dependency) :
    Run (Option Outcome) := do
  Run.say .info "Analyzing packages…"
  if dependencies = [] then
    Run.say .info "No packages found in lockfile."
    Run.blank .out
    pure none
  else
    Run.print (.waiting "Waiting for analysis…")
    match ← Run.consult analyzer dependencies with
    | .ok evaluation =>
        Run.printAll (Analysis.Report.ofEvaluation evaluation).prints
        pure (verdict? evaluation)
    | .error error =>
        Run.say .error s!"Package analysis failed: {error.message}"
        pure (some ⟨.analysisFailure, .analysisError, none, some error.message⟩)

/-- What a user is told when the build failed. -/
def buildWarning : List String :=
  ["Sandboxed build failed.",
    "",
    "This could mean one of your packages attempted to access a restricted resource.",
    "Do not retry installation without the lockguard sandbox.",
    "",
    "Please submit your dependency file(s) for review if this error persists."]

/-- Download the packages. An outcome ends the run. -/
def download (setup : Setup) (root : File.Path) (arguments : List String) :
    Run (Option Outcome) := do
  Run.say .info "Downloading packages to cache…"
  let result ← runStage setup root arguments .cache
  if result.succeeded then
    Run.say .info "Cache updated successfully."
    Run.blank .out
    pure none
  else
    Run.say .error "Downloading packages to cache failed."
    Run.blank .err
    pure (some (.safeFailure .cacheFailed (some result) none))

/-- Build the packages in the sandbox. -/
def build (setup : Setup) (root : File.Path) (arguments : List String) : Run Outcome := do
  Run.say .info "Building packages inside sandbox…"
  let result ← runStage setup root arguments .build
  if result.succeeded then
    Run.say .info "Packages built successfully."
    pure .success
  else
    Run.printAll (buildWarning.map (.say .alert))
    pure (.riskFailure .buildFailed result)

/-- Install what has been analysed. -/
def install (setup : Setup) (root : File.Path) (arguments : List String) : Run Outcome := do
  match ← download setup root arguments with
  | some outcome => pure outcome
  | none => build setup root arguments

/-- Run all stages in order, as far as they succeed. The changes of the dry run
are taken back before anything is analysed. -/
def runStages (setup : Setup) (analyzer : Analysis.Analyzer) (root : File.Path)
    (arguments : List String) (snapshots : List File.Snapshot) : Run Outcome := do
  Run.say .info "Updating lockfile…"
  match ← Run.restoring snapshots (resolve setup root arguments) with
  | .error outcome => pure outcome
  | .ok dependencies =>
      Run.say .info "Lockfile updated successfully."
      Run.blank .out
      match ← analyse analyzer dependencies with
      | some outcome => pure outcome
      | none => install setup root arguments

/-- The root of the project at or above a directory. -/
def projectRoot (directory : File.Path) : Run (Option File.Path) := do
  let files := (← get).files
  match files.findRoot manifest directory File.System.searchDepth with
  | .ok root => pure root
  | .error error => throw (.access error)

/-- Snapshots of the files that a failed run leaves as they were. -/
def captureState (files : File.System) (root : File.Path) :
    Except File.AccessError (List File.Snapshot) := do
  let ofLockfile ← File.Snapshot.capture files (root.child lockfile)
  let ofManifest ← File.Snapshot.capture files (root.child manifest)
  pure [ofLockfile, ofManifest]

/-- Guard an invocation in the project of a directory. -/
def guardInstall (setup : Setup) (analyzer : Analysis.Analyzer) (arguments : List String)
    (directory : File.Path) : Run Outcome := do
  match ← projectRoot directory with
  | none =>
      Run.say .error "unable to find yarn project root."
      Run.say .error "Please change to a yarn project directory and try again."
      pure ⟨.environmentFailure, .rootNotFound, none, none⟩
  | some root =>
      match captureState (← get).files root with
      | .error error =>
          Run.say .error s!"unable to snapshot project state: {error.message}"
          pure ⟨.environmentFailure, .usage, none, some error.message⟩
      | .ok snapshots =>
          Run.restoringUnless Outcome.isOk snapshots
            (runStages setup analyzer root arguments snapshots)

/-- Run the package manager with arguments in a directory. -/
def run (setup : Setup) (analyzer : Analysis.Analyzer) (arguments : List String)
    (directory : File.Path) : Run Outcome := do
  match Route.ofArguments arguments with
  | .error error =>
      Run.say .error error.message
      pure ⟨.usageFailure, .usage, none, some error.message⟩
  | .ok .passthrough =>
      let code ← Sandbox.handThrough setup.configuration.packageManager arguments directory
      pure (.passthrough code)
  | .ok .intercept => guardInstall setup analyzer arguments directory

end GuardedInstall.Pipeline
