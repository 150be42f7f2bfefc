import GuardedInstall.Proofs.Run.Resolution

/-!
# The dry run is isolated from what follows

What a dry run does to the lockfile and the manifest is taken back before anything is
analysed or downloaded, and nothing else is. That the lockfile can be put back needs no
hypothesis: dependencies come from a file in a directory that is there, so nothing stands
in the way. They are nevertheless the dependencies that the dry run resolved.
-/

namespace GuardedInstall.File.System

variable {files : System} {path : Path} {name : String} {place : Place}

/-- What can be located in a directory shows that the directory is there. -/
theorem status_of_locate_child (absolutePath : path.isAbsolute = true)
    (plain : IsFileName name) (located : files.locate (path.child name).toString = .ok place) :
    files.status path.toString = .ok .directory := by
  obtain ⟨-, -, base, atBase, directory, -⟩ :=
    (locate_child_eq_ok_iff absolutePath plain).mp located
  exact status_eq_directory_iff.mpr ⟨base, atBase, directory⟩

/-- In a directory that is there, all that stands in the way of restoring a file is a
directory at its path. -/
theorem restorable_child_of_status (plain : IsFileName name)
    (inDirectory : files.status path.toString = .ok .directory)
    (noDirectory : files.status (path.child name).toString ≠ .ok .directory) :
    files.Restorable (path.child name) :=
  ⟨by rwa [plain.child_parent], noDirectory⟩

/-- A file that was read is located, and no directory stands there. -/
theorem exists_locate_of_read {content : Bytes} (read : files.read path = .ok content) :
    (∃ place, files.locate path.toString = .ok place) ∧
      files.status path.toString ≠ .ok .directory := by
  cases located : files.locate path.toString with
  | error failure => simp [read_of_locate_error located] at read
  | ok place =>
      refine ⟨⟨place, rfl⟩, fun directory => ?_⟩
      obtain ⟨other, sameText, isDirectory⟩ := status_eq_directory_iff.mp directory
      rw [located] at sameText
      cases sameText
      simp [read_of_locate located, isDirectory] at read

end GuardedInstall.File.System

namespace GuardedInstall.Pipeline

open GuardedInstall.Lockfile (Dependency)
open GuardedInstall.File (IsFileName Place Snapshot System)
open GuardedInstall.File.Snapshot (restoreAll sameDirectories_restoreAll)
open GuardedInstall.File.System (AgreeOutside SameDirectories)

/-- The files at the moments behind the dry run: when an analysis is asked for, and when
the download is started. -/
inductive Moment (acts : List Act) : System → Prop where
  | analysis {dependencies : List Dependency} {files : System}
      (asked : .consulted dependencies files ∈ acts) : Moment acts files
  | download {cache : Process} (ran : process? acts .cache = some cache) :
      Moment acts cache.found

/-- A path holds the same bytes in two file systems, or nothing in either. -/
def SameState (path : File.Path) (first second : System) : Prop :=
  ∃ prior, first.Holds path prior ∧ second.Holds path prior

/-- At a moment behind the dry run of a project, the state files are those that the dry
run found, and all else is what it left. -/
structure Isolated (files : System) (root : File.Path) (dry : Process) (moment : System) :
    Prop where
  found_eq : dry.found = files
  sameLockfile : SameState (root.child lockfile) files moment
  sameManifest (plain : dry.left.status (root.child manifest).toString ≠ .ok .directory) :
    SameState (root.child manifest) files moment
  elsewhere : ∃ home, files.locate root.toString = .ok home ∧
    AgreeOutside [lockfile :: home, manifest :: home] moment dry.left
  directories : SameDirectories moment dry.left

section

variable {setup : Setup} {analyzer : Analysis.Analyzer} {root : File.Path}
  {arguments : List String} {directory : File.Path} {snapshots : List Snapshot}
  {found left restored moment : System} {dry : Process} {dependencies : List Dependency}
  {acts analysis rest : List Act} {result : Except Departure Outcome}

/-- Once the dependencies of a dry run are resolved, restoring isolates it. -/
theorem Resolved.isolated
    (searched : found.findRoot manifest directory System.searchDepth = .ok (some root))
    (captured : captureState found root = .ok snapshots)
    (resolved : Resolved setup root arguments found dry dependencies) :
    Isolated found root dry (restoreAll snapshots dry.left) := by
  have absoluteRoot := File.System.isAbsolute_of_findRoot searched
  obtain ⟨home, located, -⟩ :=
    File.System.exists_locate_of_findRoot manifest_isFileName searched
  -- The lockfile was read, so it stands in the directory and is none itself.
  obtain ⟨text, content, whole, read, -⟩ := Lockfile.exists_readsAs_of_parse resolved.parsed
  obtain ⟨⟨place, standing⟩, notDirectory⟩ := File.System.exists_locate_of_read read
  have inDirectory := File.System.status_of_locate_child absoluteRoot lockfile_isFileName standing
  have restorable {name : String} (plain : IsFileName name)
      (noDirectory : dry.left.status (root.child name).toString ≠ .ok .directory) :=
    File.System.restorable_child_of_status plain inDirectory noDirectory
  constructor
  case found_eq => exact resolved.stage.found_eq
  case sameLockfile =>
    exact exists_holds_of_captured absoluteRoot located captured (by simp [stateFiles])
      (restorable lockfile_isFileName notDirectory)
  case sameManifest =>
    intro plain
    exact exists_holds_of_captured absoluteRoot located captured (by simp [stateFiles])
      (restorable manifest_isFileName plain)
  case elsewhere =>
    exact ⟨home, located, agreeOutside_of_captured absoluteRoot located captured dry.left⟩
  case directories => exact sameDirectories_restoreAll snapshots dry.left

/-! ## Moments behind the dry run -/

theorem not_moment_nil : ¬ Moment [] moment := by
  intro behind
  cases behind with
  | analysis asked => cases asked
  | download ran => cases ran

theorem not_moment_dryRun : ¬ Moment [.ran dry] moment := by
  intro behind
  cases behind with
  | analysis asked => simp at asked
  | download ran => cases ran

/-- Where the analyses and the next process find the same files, these are the files at
every moment. -/
theorem eq_of_moment (asks : ∀ act ∈ analysis, act = .consulted dependencies restored)
    (quiet : consultations rest = [])
    (begins : ∀ cache, (processes rest)[0]? = some cache → cache.found = restored)
    (behind : Moment (.ran dry :: (analysis ++ rest)) moment) : moment = restored := by
  cases behind with
  | @analysis others _ asked =>
      rcases List.mem_cons.mp asked with same | asked
      · cases same
      rcases List.mem_append.mp asked with among | after
      · cases asks _ among
        rfl
      · have listed : others ∈ consultations rest := List.mem_filterMap.mpr ⟨_, after, rfl⟩
        rw [quiet] at listed
        cases listed
  | @download cache ran =>
      have idle : processes analysis = [] := by
        rw [processes, List.filterMap_eq_nil_iff]
        intro act member
        rw [asks act member]
        rfl
      apply begins
      simpa [process?, idle] using ran

theorem eq_of_mem_consultations (asks : ∀ act ∈ analysis, act = .consulted dependencies restored)
    (quiet : consultations rest = []) {others : List Dependency}
    (asked : others ∈ consultations (.ran dry :: (analysis ++ rest))) : others = dependencies := by
  rw [consultations_ran, consultations_append, quiet, List.append_nil] at asked
  obtain ⟨act, member, consulted⟩ := List.mem_filterMap.mp asked
  rw [asks act member] at consulted
  cases consulted
  rfl

theorem Cleared.eq_consulted {files : System}
    (cleared : Cleared analyzer files dependencies analysis) :
    ∀ act ∈ analysis, act = .consulted dependencies files := by
  cases cleared with
  | empty => simp
  | analysed nonempty answer passes => simp

/-- What a run is at its moments behind the dry run. -/
def Behind (setup : Setup) (root : File.Path) (arguments : List String)
    (snapshots : List Snapshot) (found : System) (acts : List Act) (moment : System) : Prop :=
  ∃ dry dependencies, process? acts .dryRun = some dry ∧
    Resolved setup root arguments found dry dependencies ∧
    moment = restoreAll snapshots dry.left ∧ ∀ asked ∈ consultations acts, asked = dependencies

theorem Resolved.behind (resolved : Resolved setup root arguments found dry dependencies)
    (asks : ∀ act ∈ analysis, act = .consulted dependencies (restoreAll snapshots dry.left))
    (quiet : consultations rest = [])
    (begins : ∀ cache, (processes rest)[0]? = some cache →
      cache.found = restoreAll snapshots dry.left)
    (behind : Moment (.ran dry :: (analysis ++ rest)) moment) :
    Behind setup root arguments snapshots found (.ran dry :: (analysis ++ rest)) moment :=
  ⟨dry, dependencies, rfl, resolved, eq_of_moment asks quiet begins behind,
    fun _ asked => eq_of_mem_consultations asks quiet asked⟩

theorem Resolved.behind_analysis
    (resolved : Resolved setup root arguments found dry dependencies)
    (behind : Moment [.ran dry, .consulted dependencies (restoreAll snapshots dry.left)]
      moment) :
    Behind setup root arguments snapshots found
      [.ran dry, .consulted dependencies (restoreAll snapshots dry.left)] moment := by
  rw [← List.append_nil [Act.consulted dependencies _]] at behind ⊢
  exact resolved.behind (by simp) rfl (by simp) behind

theorem Admitted.behind {cache : Process}
    (admitted : Admitted setup analyzer root arguments snapshots found dry dependencies analysis)
    (stage : IsStage setup root arguments (restoreAll snapshots dry.left) .cache cache)
    (quiet : consultations rest = [])
    (behind : Moment (.ran dry :: (analysis ++ .ran cache :: rest)) moment) :
    Behind setup root arguments snapshots found (.ran dry :: (analysis ++ .ran cache :: rest))
      moment := by
  have unasked : consultations (.ran cache :: rest) = [] := quiet
  apply admitted.resolved.behind admitted.cleared.eq_consulted unasked _ behind
  rintro first ⟨⟩
  exact stage.found_eq

/-- At every moment behind the dry run, its dependencies are resolved and the state files
are restored. -/
theorem Extent.behind
    (extent : Extent setup analyzer root arguments snapshots found acts result)
    (behind : Moment acts moment) :
    Behind setup root arguments snapshots found acts moment := by
  cases extent with
  | none unstartable => exact absurd behind not_moment_nil
  | dryRun stage decides => exact absurd behind not_moment_dryRun
  | analysis resolved => exact resolved.behind_analysis behind
  | download admitted stage quiet => exact admitted.behind stage quiet behind

/-! ## Whole runs -/

/-- Whatever the dry run of a guarded invocation did, an analysis and the download find
the state files of before and all else as the dry run left it. What is analysed is
nevertheless what the dry run's lockfile lists. -/
theorem isolated_of_moment {files : System} {behaviours : List Child.Behaviour}
    (intercepted : Route.ofArguments arguments = .ok .intercept)
    (behind : Moment (course setup analyzer arguments directory files behaviours).acts moment) :
    ∃ root dry dependencies,
      files.findRoot manifest directory System.searchDepth = .ok (some root) ∧
      process? (course setup analyzer arguments directory files behaviours).acts .dryRun =
        some dry ∧
      Isolated files root dry moment ∧
      Lockfile.parse dry.left (root.child lockfile) "yarn" = .ok dependencies ∧
      ∀ asked ∈ consultations (course setup analyzer arguments directory files behaviours).acts,
        asked = dependencies := by
  have guarded := guarded_course setup analyzer directory intercepted files behaviours
  generalize (course setup analyzer arguments directory files behaviours).acts = acts,
    (course setup analyzer arguments directory files behaviours).files = left,
    (course setup analyzer arguments directory files behaviours).result = result
    at guarded behind ⊢
  cases guarded with
  | searchFailed searched => exact absurd behind not_moment_nil
  | rootMissing searched => exact absurd behind not_moment_nil
  | captureFailed searched refused => exact absurd behind not_moment_nil
  | @passed root snapshots acts left result searched captured passage =>
      obtain ⟨dry, dependencies, ran, resolved, rfl, submitted⟩ :=
        passage.extent.behind behind
      exact ⟨root, dry, dependencies, searched, ran, resolved.isolated searched captured,
        resolved.parsed, submitted⟩

end

/-! ## A dry run that adds a package -/

/-- A lockfile of one package. -/
def lockfileText : String :=
  "# yarn lockfile v1\nleft-pad@^1.3.0:\n  version \"1.3.0\"\n"

/-- A process that leaves a lockfile of one package. -/
def adding : Child.Behaviour := fun _ files =>
  (files.set [lockfile] (.file lockfileText.toUTF8 false), .exited 0)

theorem resolves_adding (start : Child.Start) :
    Resolves topmost [⟨"left-pad", "1.3.0", "npm"⟩] (.ofBehaviour adding start bareProject) := by
  have reads : Lockfile.ReadsAs (adding start bareProject).1 (topmost.child lockfile)
      (Text.normaliseNewlines lockfileText.toList) := by
    refine ⟨_, _, ?_, Lockfile.fromUTF8?_toUTF8 lockfileText, rfl⟩
    rw [File.System.read_of_locate (locate_topmost _ (by decide)), adding,
      File.System.node?_set_self (by decide)]
  refine ⟨rfl, ?_⟩
  show Lockfile.parse (adding start bareProject).1 _ _ = _
  rw [reads.parse_classic (by decide)]
  rfl

theorem isolated_adding :
    Route.ofArguments ["add", "left-pad"] = .ok .intercept ∧
    ∃ moment, Moment (course plainSetup contented ["add", "left-pad"] topmost bareProject
        [adding]).acts moment ∧
      ∃ root dry dependencies,
        bareProject.findRoot manifest topmost System.searchDepth = .ok (some root) ∧
        process? (course plainSetup contented ["add", "left-pad"] topmost bareProject
          [adding]).acts .dryRun = some dry ∧
        Isolated bareProject root dry moment ∧
        Lockfile.parse dry.left (root.child lockfile) "yarn" = .ok dependencies ∧
        ∀ asked ∈ consultations (course plainSetup contented ["add", "left-pad"] topmost
          bareProject [adding]).acts, asked = dependencies := by
  have intercepted : Route.ofArguments ["add", "left-pad"] = .ok .intercept :=
    Route.ofArguments_eq_intercept_iff.mpr ⟨_, _, rfl, by decide⟩
  have asked : [⟨"left-pad", "1.3.0", "npm"⟩] ∈ consultations (course plainSetup contented
      ["add", "left-pad"] topmost bareProject [adding]).acts :=
    mem_consultations_of_resolves contented [adding] intercepted findRoot_bareProject
      captureState_bareProject (by decide) exists_policy_plainSetup (by decide) resolves_adding
  obtain ⟨act, member, consulted⟩ := List.mem_filterMap.mp asked
  cases act with
  | ran process => cases consulted
  | consulted dependencies moment =>
      exact ⟨intercepted, moment, .analysis member,
        isolated_of_moment intercepted (.analysis member)⟩

end GuardedInstall.Pipeline
