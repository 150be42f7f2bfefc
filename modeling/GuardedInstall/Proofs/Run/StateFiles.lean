import GuardedInstall.Proofs.Routing
import GuardedInstall.Proofs.Run.Course

/-!
# State files survive failed runs

However a guarded run fails, the lockfile and the manifest are in the end what they
were before it, each one where a file could stand at its path. Between the processes
nothing else is touched, and a run that succeeds ends with the files that the build
left.
-/

namespace GuardedInstall.Pipeline

open GuardedInstall.Lockfile (Dependency)
open GuardedInstall.File (IsFileName Place Snapshot System)
open GuardedInstall.File.Snapshot (capture_eq_ok_iff restoreAll targets)
open GuardedInstall.File.System (AgreeOutside Restorable)

/-! ## The recorded state -/

theorem lockfile_isFileName : IsFileName lockfile := by
  decide

theorem manifest_isFileName : IsFileName manifest := by
  decide

/-- The files whose state is recorded. -/
def stateFiles : List String := [lockfile, manifest]

theorem isFileName_of_mem_stateFiles {name : String} (member : name ∈ stateFiles) :
    IsFileName name ∧ File.System.byteLength name ≤ File.System.nameLimit := by
  simp only [stateFiles, List.mem_cons, List.not_mem_nil, or_false] at member
  rcases member with rfl | rfl
  · exact ⟨lockfile_isFileName, by decide⟩
  · exact ⟨manifest_isFileName, by decide⟩

section

variable {files later : System} {root : File.Path} {home : Place} {snapshots : List Snapshot}

/-- One snapshot is taken of each state file, in order. -/
theorem paths_of_captured (captured : captureState files root = .ok snapshots) :
    snapshots.map Snapshot.path = stateFiles.map root.child ∧
      ∀ snapshot ∈ snapshots, files.Holds snapshot.path snapshot.prior := by
  simp only [captureState, bind, Except.bind, pure, Except.pure] at captured
  cases first : Snapshot.capture files (root.child lockfile) with
  | error error => simp [first] at captured
  | ok ofLockfile =>
      cases second : Snapshot.capture files (root.child manifest) with
      | error error => simp [first, second] at captured
      | ok ofManifest =>
          simp only [first, second, Except.ok.injEq] at captured
          obtain ⟨lockfilePath, lockfileHolds⟩ := capture_eq_ok_iff.mp first
          obtain ⟨manifestPath, manifestHolds⟩ := capture_eq_ok_iff.mp second
          subst captured
          simp [stateFiles, lockfilePath, manifestPath, lockfileHolds, manifestHolds]

/-- The state is recorded unless one of its files cannot be. -/
theorem exists_captureState_eq_error_iff :
    (∃ error, captureState files root = .error error) ↔
      ∃ name ∈ stateFiles, ∃ error, Snapshot.capture files (root.child name) = .error error := by
  simp only [captureState, stateFiles, bind, Except.bind, pure, Except.pure, List.mem_cons,
    List.not_mem_nil, or_false, exists_eq_or_imp, exists_eq_left]
  cases Snapshot.capture files (root.child lockfile) with
  | error error => simp
  | ok ofLockfile =>
      cases Snapshot.capture files (root.child manifest) with
      | error error => simp
      | ok ofManifest => simp

theorem targets_of_captured (absoluteRoot : root.isAbsolute = true)
    (located : files.locate root.toString = .ok home)
    (captured : captureState files root = .ok snapshots) (later : System) :
    targets snapshots later = stateFiles.map (· :: home) := by
  have paths := congrArg (List.map fun path => later.target path.toString)
    (paths_of_captured captured).1
  simp only [List.map_map] at paths
  calc targets snapshots later
      = stateFiles.map fun name => later.target (root.child name).toString := paths
    _ = stateFiles.map (· :: home) := by
      apply List.map_congr_left
      intro name member
      exact File.System.target_child absoluteRoot (isFileName_of_mem_stateFiles member).1 located
        later

/-- Restoring touches the places of the state files alone. -/
theorem agreeOutside_of_captured (absoluteRoot : root.isAbsolute = true)
    (located : files.locate root.toString = .ok home)
    (captured : captureState files root = .ok snapshots) (later : System) :
    AgreeOutside (stateFiles.map (· :: home)) (restoreAll snapshots later) later := by
  rw [← targets_of_captured absoluteRoot located captured later]
  exact Snapshot.agreeOutside_restoreAll snapshots later

/-- A state file that can be restored holds afterwards what it held before. -/
theorem exists_holds_of_captured (absoluteRoot : root.isAbsolute = true)
    (located : files.locate root.toString = .ok home)
    (captured : captureState files root = .ok snapshots) {name : String}
    (member : name ∈ stateFiles) (restorable : later.Restorable (root.child name)) :
    ∃ prior, files.Holds (root.child name) prior ∧
      (restoreAll snapshots later).Holds (root.child name) prior := by
  obtain ⟨plain, short⟩ := isFileName_of_mem_stateFiles member
  obtain ⟨paths, holds⟩ := paths_of_captured captured
  have listed : root.child name ∈ snapshots.map Snapshot.path := by
    rw [paths]
    exact List.mem_map_of_mem member
  obtain ⟨snapshot, snapshotMem, pathEq⟩ := List.mem_map.mp listed
  have before := holds snapshot snapshotMem
  rw [pathEq] at before
  have nonempty : (root.child name).toString ≠ "" := by
    intro empty
    simpa [empty] using File.Path.startsWith_slash (File.Path.child_isAbsolute absoluteRoot plain)
  obtain ⟨place, reaches⟩ := restorable.exists_reaches absoluteRoot plain
    (File.System.isNameable_of_holds before nonempty) short
  have distinct : (targets snapshots later).Nodup := by
    rw [targets_of_captured absoluteRoot located captured]
    simp [stateFiles, lockfile, manifest]
  have after := Snapshot.holds_restoreAll distinct snapshotMem (pathEq ▸ reaches)
  rw [pathEq] at after
  exact ⟨snapshot.prior, before, after⟩

/-- A state file that can be restored is read afterwards as it was read before. -/
theorem read_restoreAll_of_captured (absoluteRoot : root.isAbsolute = true)
    (located : files.locate root.toString = .ok home)
    (captured : captureState files root = .ok snapshots) {name : String}
    (member : name ∈ stateFiles) (restorable : later.Restorable (root.child name)) :
    (restoreAll snapshots later).read (root.child name) = files.read (root.child name) := by
  obtain ⟨prior, before, after⟩ :=
    exists_holds_of_captured absoluteRoot located captured member restorable
  exact after.read_eq before

end

/-! ## Between the processes -/

/-- From the files before to the files after, processes hand the files on: what
stands outside of some places is changed by the processes alone. -/
def HandedOn (places : List Place) : System → List Process → System → Prop
  | before, [], after => AgreeOutside places after before
  | before, process :: rest, after =>
      AgreeOutside places process.found before ∧ HandedOn places process.left rest after

theorem HandedOn.trans {places : List Place} {before middle after : System}
    {processes : List Process} (handed : HandedOn places before processes middle)
    (agree : AgreeOutside places after middle) : HandedOn places before processes after := by
  induction processes generalizing before with
  | nil => exact agree.trans handed
  | cons process rest ih => exact ⟨handed.1, ih handed.2⟩

/-- What a dry run left is found by the next stage, but for what is restored. -/
theorem Progress.handedOn {setup : Setup} {root : File.Path} {arguments : List String}
    {snapshots : List Snapshot} {found left : System} {processes : List Process}
    {places : List Place}
    (restores : ∀ files, AgreeOutside places (restoreAll snapshots files) files)
    (progress : Progress setup root arguments snapshots found processes left) :
    HandedOn places found processes left := by
  have same (files : System) : AgreeOutside places files files := .refl places files
  cases progress with
  | none => exact restores found
  | dryRun resolving =>
      rw [← resolving.found_eq]
      exact ⟨same _, restores _⟩
  | cache resolving downloading =>
      rw [← resolving.found_eq]
      exact ⟨same _, downloading.found_eq ▸ restores _, same _⟩
  | build resolving downloading building =>
      rw [← resolving.found_eq]
      exact ⟨same _, downloading.found_eq ▸ restores _, building.found_eq ▸ same _, same _⟩

/-! ## Whole runs -/

/-- What a guarded run does with the files of a project, given the result of the stages
and the session that they left. -/
structure KeepsState (files : System) (root : File.Path) (setup : Setup)
    (staged : Except Departure Outcome × Session) (whole : Course) : Prop where
  /-- Restoring last does not change the result. -/
  result_eq : whole.result = staged.1
  /-- Restoring after the dry run does not either. -/
  result_of_dryRun (dry : Process) (alone : whole.acts = [.ran dry]) :
    (reported setup dry.ending).bind (resolved root dry.left) = whole.result.map .error
  /-- Each state file that can be restored in the end reads as it did before the run. -/
  read_eq (failed : ¬ IsInstalled whole.result) (name : String) (member : name ∈ stateFiles)
    (restorable : staged.2.files.Restorable (root.child name)) :
    whole.files.read (root.child name) = files.read (root.child name)
  /-- A run that succeeds ends with the files that the build left. -/
  files_eq (done : IsInstalled whole.result) :
    ∃ dry cache build, processes whole.acts = [dry, cache, build] ∧ whole.files = build.left
  /-- Nothing but the state files changes from one process to the next. -/
  handedOn : ∃ home, files.locate root.toString = .ok home ∧
    HandedOn [lockfile :: home, manifest :: home] files (processes whole.acts) whole.files

/-- State files survive every guarded run that fails after they were recorded. -/
theorem keepsState_of_captured {setup : Setup} {arguments : List String}
    {directory root : File.Path} {files : System} {snapshots : List Snapshot}
    (analyzer : Analysis.Analyzer) (behaviours : List Child.Behaviour)
    (intercepted : Route.ofArguments arguments = .ok .intercept)
    (searched : files.findRoot manifest directory System.searchDepth = .ok (some root))
    (captured : captureState files root = .ok snapshots) :
    KeepsState files root setup
      (runStages setup analyzer root arguments snapshots (.start files behaviours))
      (course setup analyzer arguments directory files behaviours) := by
  have absoluteRoot := File.System.isAbsolute_of_findRoot searched
  obtain ⟨home, located, -⟩ :=
    File.System.exists_locate_of_findRoot manifest_isFileName searched
  have restores := agreeOutside_of_captured absoluteRoot located captured
  obtain ⟨acts, passage, courseEq⟩ :=
    course_of_captured setup analyzer behaviours intercepted searched captured
  rw [courseEq]
  generalize runStages setup analyzer root arguments snapshots (.start files behaviours) = staged
    at passage ⊢
  constructor
  case result_eq => rfl
  case result_of_dryRun =>
    intro dry alone
    exact passage.result_of_dryRun alone
  case read_eq =>
    intro failed name member restorable
    rw [settled, if_neg (mt passage.any_isOk_iff.mp failed)]
    exact read_restoreAll_of_captured absoluteRoot located captured member restorable
  case files_eq =>
    intro done
    obtain ⟨dry, dependencies, analysis, cache, build, downloaded, -, -, rfl, left⟩ :=
      passage.exists_of_isInstalled done
    have ran : processes (.ran dry :: (analysis ++ [.ran cache, .ran build])) =
        [dry, cache, build] := by
      simp [downloaded.admitted.cleared.processes_eq]
    rw [settled, if_pos (passage.any_isOk_iff.mpr done)]
    exact ⟨dry, cache, build, ran, left⟩
  case handedOn =>
    have last : AgreeOutside [lockfile :: home, manifest :: home]
        (settled snapshots staged.1 staged.2.files) staged.2.files := by
      rw [settled]
      split
      · exact .refl _ _
      · exact restores _
    exact ⟨home, located, (passage.progress.handedOn restores).trans last⟩

/-! ## A project at the root -/

/-- A project at the root of the file system that has a manifest and no lockfile. -/
def bareProject : System where
  nodes := [([manifest], .file ⟨#[123, 125]⟩ false)]
  workingDirectory := []

/-- The root of the file system. -/
def topmost : File.Path := ⟨.root, []⟩

/-- The usual settings of a user without accounts or programs. -/
def plainSetup : Setup where
  configuration := .default
  homes := ⟨"/root", []⟩
  searchPath := ""

/-- An analyzer that finds nothing. -/
def contented : Analysis.Analyzer := fun _ => ([], .ok ⟨false, 0, none, []⟩)

/-- A process that spoils both state files before a signal kills it. -/
def spoiling : Child.Behaviour := fun _ files =>
  ((files.erase [manifest]).set [lockfile] (.file ⟨#[0]⟩ false), .killed 9)

theorem locate_topmost (files : System) {name : String} (member : name ∈ stateFiles) :
    files.locate (topmost.child name).toString = .ok [name] := by
  have nameable : File.System.IsNameable (topmost.child name).toString := by
    simp only [stateFiles, List.mem_cons, List.not_mem_nil, or_false] at member
    rcases member with rfl | rfl
    · exact ⟨rfl, by decide, by decide⟩
    · exact ⟨rfl, by decide, by decide⟩
  obtain ⟨plain, short⟩ := isFileName_of_mem_stateFiles member
  exact File.System.locate_child_root plain short nameable files

theorem findRoot_bareProject :
    bareProject.findRoot manifest topmost System.searchDepth = .ok (some topmost) := by
  have present : bareProject.present (topmost.child manifest) = .ok true := by
    rw [File.System.present_eq_true_iff]
    have stands : bareProject.status (topmost.child manifest).toString =
        .ok (.file ⟨#[123, 125]⟩ false) := by
      rw [File.System.status_of_locate (locate_topmost _ (by decide))]
      rfl
    exact ⟨_, stands⟩
  show bareProject.searchUp manifest 32 topmost = _
  rw [File.System.searchUp, present]
  rfl

theorem captureState_bareProject :
    captureState bareProject topmost =
      .ok [⟨topmost.child lockfile, none⟩, ⟨topmost.child manifest, some ⟨#[123, 125]⟩⟩] := by
  have ofLockfile : bareProject.read (topmost.child lockfile) =
      .error ⟨.notFound, (topmost.child lockfile).toString⟩ := by
    rw [File.System.read_of_locate (locate_topmost _ (by decide))]
    rfl
  have ofManifest : bareProject.read (topmost.child manifest) = .ok ⟨#[123, 125]⟩ := by
    rw [File.System.read_of_locate (locate_topmost _ (by decide))]
    rfl
  simp only [captureState, Snapshot.capture, ofLockfile, ofManifest]
  rfl

theorem keepsState_bareProject :
    Route.ofArguments ["add", "left-pad"] = .ok .intercept ∧
    bareProject.findRoot manifest topmost System.searchDepth = .ok (some topmost) ∧
    captureState bareProject topmost =
      .ok [⟨topmost.child lockfile, none⟩, ⟨topmost.child manifest, some ⟨#[123, 125]⟩⟩] ∧
    KeepsState bareProject topmost plainSetup
      (runStages plainSetup contented topmost ["add", "left-pad"]
        [⟨topmost.child lockfile, none⟩, ⟨topmost.child manifest, some ⟨#[123, 125]⟩⟩]
        (.start bareProject [spoiling]))
      (course plainSetup contented ["add", "left-pad"] topmost bareProject [spoiling]) := by
  have intercepted : Route.ofArguments ["add", "left-pad"] = .ok .intercept :=
    Route.ofArguments_eq_intercept_iff.mpr ⟨_, _, rfl, by decide⟩
  exact ⟨intercepted, findRoot_bareProject, captureState_bareProject,
    keepsState_of_captured contented [spoiling] intercepted findRoot_bareProject
      captureState_bareProject⟩

end GuardedInstall.Pipeline
