import GuardedInstall.Proofs.Run.Resolution
import Mathlib.Data.List.Forall2

/-!
# Confinement

A guarded run starts the processes of its stages in order, and each of them through the
launcher, under the policy of its stage, in the directory of the project. What the user
says goes to the package manager as it is, except for the build, which has arguments of
its own. The build is never granted the network.
-/

namespace GuardedInstall.Pipeline

open GuardedInstall.Lockfile (Dependency)
open GuardedInstall.Sandbox (Stage)
open GuardedInstall.File (System)

/-- A process is the confined one of a stage, in the project of a root. -/
structure IsConfined (setup : Setup) (arguments : List String) (root : File.Path)
    (stage : Stage) (process : Process) : Prop where
  launcher_ne : setup.configuration.launcher ≠ []
  directory_eq : process.start.directory = root
  command_eq : ∃ policy flags, stage.policy root setup.configuration setup.homes = .ok policy ∧
    flags = policy.flags (process.found.which? setup.searchPath) ∧
    process.start.command = setup.configuration.launcher ++ flags ++
      [setup.configuration.packageManager] ++
      (match stage with
        | .dryRun => arguments ++ ["--mode=skip-build", "--mode=update-lockfile"]
        | .cache => arguments ++ ["--mode=skip-build"]
        | .build => ["install", "--immutable", "--immutable-cache"]) ∧
    (stage = .build → "--allow-net" ∉ flags)

section

variable {setup : Setup} {analyzer : Analysis.Analyzer} {root : File.Path}
  {arguments : List String} {snapshots : List File.Snapshot} {found left : System}
  {stage : Stage} {process : Process} {acts : List Act} {result : Except Departure Outcome}

theorem IsStage.isConfined (absoluteRoot : root.isAbsolute = true)
    (isStage : IsStage setup root arguments found stage process) :
    IsConfined setup arguments root stage process := by
  obtain ⟨rfl, launcher, policy, granted, started⟩ := isStage
  have networkless : stage = .build →
      "--allow-net" ∉ policy.flags (process.found.which? setup.searchPath) := by
    rintro rfl
    exact Stage.allowNet_not_mem_flags_build absoluteRoot granted _
  constructor
  case launcher_ne => exact launcher
  case directory_eq => rw [started]
  case command_eq =>
    refine ⟨policy, _, granted, rfl, ?_, networkless⟩
    rw [started]
    cases stage with
    | dryRun => simp [Sandbox.confined, stageArguments]
    | cache => simp [Sandbox.confined, stageArguments]
    | build => simp [Sandbox.confined, stageArguments]

/-- The processes of a run are those of its stages, in order. -/
theorem Progress.stages {processes : List Process} (absoluteRoot : root.isAbsolute = true)
    (progress : Progress setup root arguments snapshots found processes left) :
    ∃ stages, stages <+: [Stage.dryRun, .cache, .build] ∧
      List.Forall₂ (IsConfined setup arguments root) stages processes := by
  cases progress with
  | none => exact ⟨[], List.nil_prefix, .nil⟩
  | dryRun resolving =>
      have dryRun := resolving.isConfined absoluteRoot
      exact ⟨[.dryRun], ⟨[.cache, .build], rfl⟩, .cons dryRun .nil⟩
  | cache resolving downloading =>
      have dryRun := resolving.isConfined absoluteRoot
      have cache := downloading.isConfined absoluteRoot
      exact ⟨[.dryRun, .cache], ⟨[.build], rfl⟩, .cons dryRun (.cons cache .nil)⟩
  | build resolving downloading building =>
      have dryRun := resolving.isConfined absoluteRoot
      have cache := downloading.isConfined absoluteRoot
      have build := building.isConfined absoluteRoot
      exact ⟨[.dryRun, .cache, .build], List.prefix_rfl,
        .cons dryRun (.cons cache (.cons build .nil))⟩

end

/-- Whatever follows a guarded subcommand, the processes that a run starts are the
confined ones of its stages, in order and in the directory of the project. Outside of a
project nothing is started. -/
theorem starts_confined {first : String} (member : first ∈ Route.guarded) (rest : List String)
    (setup : Setup) (analyzer : Analysis.Analyzer) (directory : File.Path) (files : System)
    (behaviours : List Child.Behaviour) :
    let started :=
      processes (course setup analyzer (first :: rest) directory files behaviours).acts
    match files.findRoot manifest directory System.searchDepth with
    | .ok (some root) => ∃ stages, stages <+: [Stage.dryRun, .cache, .build] ∧
        List.Forall₂ (IsConfined setup (first :: rest) root) stages started
    | _ => started = [] := by
  have intercepted : Route.ofArguments (first :: rest) = .ok .intercept :=
    Route.ofArguments_eq_intercept_iff.mpr ⟨first, rest, rfl, member⟩
  have guarded := guarded_course setup analyzer directory intercepted files behaviours
  generalize (course setup analyzer (first :: rest) directory files behaviours).acts = acts,
    (course setup analyzer (first :: rest) directory files behaviours).files = left,
    (course setup analyzer (first :: rest) directory files behaviours).result = result
    at guarded ⊢
  intro started
  cases guarded with
  | searchFailed searched =>
      rw [searched]
      rfl
  | rootMissing searched =>
      rw [searched]
      rfl
  | captureFailed searched refused =>
      rw [searched]
      exact ⟨[], List.nil_prefix, .nil⟩
  | passed searched captured passage =>
      rw [searched]
      exact passage.progress.stages (File.System.isAbsolute_of_findRoot searched)

/-- Settings whose words look like flags of the launcher. -/
def misleadingSetup : Setup :=
  { plainSetup with
    configuration :=
      { Config.Configuration.default with
        packageManager := "--allow-net"
        extraWritable := ["--allow-net"] } }

/-- What the dry run may do with such settings. -/
def misleadingPolicy : Sandbox.Policy where
  name := "dry-run"
  readAll := true
  writable := ["/root/.cache/node", "/root/.cache/yarn", "/root/.yarn", "/", "/tmp", "--allow-net"]
  runnable := .only ["--allow-net", "node"]
  network := true

theorem policy_misleadingSetup :
    Stage.dryRun.policy topmost misleadingSetup.configuration misleadingSetup.homes =
      .ok misleadingPolicy := by
  decide +kernel

/-- With such settings the dry run is started, and confined as it should be. -/
theorem starts_confined_misleading :
    "add" ∈ Route.guarded ∧
    ∃ stages, stages <+: [Stage.dryRun, .cache, .build] ∧ Stage.dryRun ∈ stages ∧
      List.Forall₂ (IsConfined misleadingSetup ["add", "--allow-net"] topmost) stages
        (processes (course misleadingSetup contented ["add", "--allow-net"] topmost bareProject
          []).acts) := by
  have member : "add" ∈ Route.guarded := by decide
  have confined :=
    starts_confined member ["--allow-net"] misleadingSetup contented topmost bareProject []
  simp only [findRoot_bareProject] at confined
  obtain ⟨stages, inOrder, confined⟩ := confined
  have launcher : misleadingSetup.configuration.launcher ≠ [] := by decide
  obtain ⟨start, ran⟩ := exists_dryRun_of_startable contented []
    (Route.ofArguments_eq_intercept_iff.mpr ⟨"add", ["--allow-net"], rfl, member⟩)
    findRoot_bareProject captureState_bareProject launcher ⟨_, policy_misleadingSetup⟩
  refine ⟨member, stages, inOrder, ?_, confined⟩
  cases stages with
  | nil =>
      rw [process?, List.forall₂_nil_left_iff.mp confined] at ran
      cases ran
  | cons stage rest =>
      rw [(List.cons_prefix_cons.mp inOrder).1]
      exact List.mem_cons_self

end GuardedInstall.Pipeline
