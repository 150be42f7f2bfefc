import GuardedInstall.Proofs.CommandLine.Forwarding
import GuardedInstall.Proofs.File.Lookup
import GuardedInstall.Proofs.File.Normal
import GuardedInstall.Proofs.Json.Written
import GuardedInstall.Proofs.Run.Gate
import GuardedInstall.Proofs.Run.Resolution
import GuardedInstall.Proofs.Sandbox.Privileges

/-!
# What is shown of a stage

The program shows the policy of a stage and the front of the command line that confines
it. What it shows for a project is what a guarded run in that project starts: the words up
to the package manager are the same, and so is the policy, as long as commands mean the same
files. They do if no program is exchanged in between, and if the program is asked in the
project or looks for commands in absolute directories only: a relative directory of the
search path leads elsewhere from elsewhere.
-/

namespace GuardedInstall.File

/-! ## The root that is asked for -/

theorem Path.collapse_of_undotted {names : List String} (undotted : ".." ∉ names)
    (before : List String) : collapse before names = before.reverse ++ names := by
  induction names generalizing before with
  | nil => simp [collapse]
  | cons name rest ih =>
      obtain ⟨ne, later⟩ := not_or.mp (mt List.mem_cons.mpr undotted)
      rw [collapse, if_neg (Ne.symm ne), ih later]
      simp

/-- An absolute path without double dots is resolved to its names. -/
theorem Path.resolve_of_undotted {path : Path} (absolutePath : path.isAbsolute = true)
    (undotted : ".." ∉ path.names) (workingDirectory : Path) :
    resolve workingDirectory path = ⟨.root, path.names⟩ := by
  rw [resolve, absolute_of_isAbsolute absolutePath, collapse_of_undotted undotted]
  rfl

namespace System

/-- A slash in front of a text is no obstacle. -/
theorem obstacle?_of_toList {text other : String} (slash : text.toList = '/' :: other.toList) :
    obstacle? text = obstacle? other := by
  have bytes : hasBytes '/' = true := by decide
  simp [obstacle?, slash, bytes]

/-- What stands below the working directory is found there by a search upwards. -/
theorem findRoot_workingPath {files : System} {marker : String}
    (present : files.present (files.workingPath.child marker) = .ok true) :
    files.findRoot marker files.workingPath searchDepth = .ok (some files.workingPath) := by
  have same : Path.absolute files.workingPath files.workingPath = files.workingPath := rfl
  rw [findRoot, same]
  show files.searchUp marker 32 files.workingPath = _
  rw [searchUp, present]
  rfl

/-- A path to the working directory is resolved, wherever this is done. -/
theorem resolve_eq_ok {files other : System} {path : Path} {marker : String}
    (absolutePath : path.isAbsolute = true) (undotted : ".." ∉ path.names)
    (within : files.workingPath = ⟨.root, path.names⟩) (plain : IsFileName marker)
    (present : files.present (files.workingPath.child marker) = .ok true) :
    other.resolve path = .ok files.workingPath := by
  have free : obstacle? files.workingPath.toString = none := by
    obtain ⟨node, stands⟩ := present_eq_true_iff.mp present
    cases located : files.locate (files.workingPath.child marker).toString with
    | error failure => simp [status, located, bind, Except.bind] at stands
    | ok place =>
        have nameable := (locate_eq_ok_iff.mp located).1
        exact (nameable.ofChild files.workingPath_isAbsolute plain).free
  have unobstructed : obstacle? path.toString = none := by
    rw [within] at free
    obtain ⟨anchor, names⟩ := path
    cases anchor with
    | relative => cases absolutePath
    | root => exact free
    | doubleRoot =>
        rw [← free]
        apply obstacle?_of_toList
        rw [Path.toString_toList (.inl rfl), Path.toString_toList (.inl rfl)]
        simp [Path.anchorText]
  rw [resolve, unobstructed]
  simp only [Path.resolve_of_undotted absolutePath undotted, within]

end System

end GuardedInstall.File

namespace GuardedInstall.Sandbox

open GuardedInstall.Text (Apart)

/-! ## Flags and documents of a policy -/

namespace Policy

variable {policy : Policy} {first second which? : String → Option String}

/-- The flags depend on the files of those commands alone that the policy names. -/
theorem flags_congr (agree : ∀ commands, policy.runnable = .only commands →
    ∀ command ∈ commands, (first command).getD command = (second command).getD command) :
    policy.flags first = policy.flags second := by
  have values : runValues first policy.runnable = runValues second policy.runnable := by
    cases runnable : policy.runnable with
    | anything => rfl
    | only commands =>
        apply List.map_congr_left
        intro command member
        rw [agree commands runnable command (Text.Sorted.mem_ofList_iff.mp member)]
  rw [flags, flags, values]

/-- The flags of a stage depend on the files that the package manager and its runtime
mean. -/
theorem flags_eq_of_policy {stage : Stage} {root : File.Path}
    {configuration : Config.Configuration} {homes : File.Homes}
    (granted : stage.policy root configuration homes = .ok policy)
    (agree : ∀ command ∈ [configuration.packageManager, configuration.runtime],
      (first command).getD command = (second command).getD command) :
    policy.flags first = policy.flags second := by
  obtain ⟨writable, -, fields⟩ := Stage.policy_eq_ok granted
  apply flags_congr
  intro commands runnable command member
  have named : commands = [configuration.packageManager, configuration.runtime] := by
    rw [fields] at runnable
    cases stage with
    | build => cases runnable
    | dryRun => exact (Runnable.only.inj runnable).symm
    | cache => exact (Runnable.only.inj runnable).symm
  rw [named] at member
  exact agree command member

theorem mem_grants {flag value : String} {values : List String} (member : value ∈ values) :
    value ∈ grants flag values :=
  List.mem_flatMap.mpr ⟨value, member, by simp⟩

theorem mem_flags_of_writable {text : String} (member : text ∈ policy.writable) :
    text ∈ policy.flags which? := by
  have granted : text ∈ grants "--allow-write" (Text.Sorted.ofList policy.writable) :=
    mem_grants (Text.Sorted.mem_ofList_iff.mpr member)
  simp [flags, granted]

/-- A command of a policy is among the flags as the file that it names. -/
theorem mem_flags_of_runnable {commands : List String} (runnable : policy.runnable = .only commands)
    {command : String} (member : command ∈ commands) :
    (which? command).getD command ∈ policy.flags which? := by
  have granted : (which? command).getD command ∈
      grants "--allow-run" (runValues which? policy.runnable) := by
    rw [runnable]
    exact mem_grants (List.mem_map.mpr ⟨command, Text.Sorted.mem_ofList_iff.mpr member, rfl⟩)
  simp [flags, granted]

theorem plain_textList {texts : List String} (apart : ∀ text ∈ texts, Apart text.toList) :
    Json.Plain (textList texts) :=
  .list (List.forall_mem_map.mpr fun text member => .text (apart text member))

theorem textList_injective {texts others : List String}
    (same : textList texts = textList others) : texts = others := by
  injection same with values
  exact List.map_injective_iff.mpr (fun _ _ => Json.Value.text.inj) values

theorem sorted_textList (texts : List String) : Json.sorted (textList texts) = textList texts := by
  rw [textList, Json.sorted, Json.sortedItems_eq_map, List.map_map]
  rfl

theorem plain_document (named : Apart policy.name.toList)
    (writable : ∀ text ∈ policy.writable, Apart text.toList)
    (runnable : ∀ commands, policy.runnable = .only commands →
      ∀ command ∈ commands, Apart command.toList) : Json.Plain policy.document := by
  have reading : Json.Plain (.text (if policy.readAll then "all" else "none")) := by
    cases policy.readAll <;> exact .text (by decide)
  have writing : Json.Plain (textList (Text.Sorted.ofList policy.writable)) :=
    plain_textList fun text member => writable text (Text.Sorted.mem_ofList_iff.mp member)
  apply Json.Plain.object
  · simp only [List.map_cons, List.map_nil]
    decide
  · simp only [List.forall_mem_cons, List.not_mem_nil, IsEmpty.forall_iff, implies_true, and_true]
    decide
  · simp only [List.forall_mem_cons, List.not_mem_nil, IsEmpty.forall_iff, implies_true, and_true]
    refine ⟨.text named, reading, writing, ?_, .boolean policy.network⟩
    cases kind : policy.runnable with
    | anything => exact .text (by decide)
    | only commands =>
        exact plain_textList fun command member =>
          runnable commands kind command (Text.Sorted.mem_ofList_iff.mp member)

/-- The end of a text whose halves stand apart. -/
theorem apart_of_append {front text : String} (apart : Apart (front ++ text).toList) :
    Apart text.toList := by
  rw [String.toList_append] at apart
  exact List.IsChain.right_of_append apart

theorem apart_stageName (stage : Stage) : Apart stage.name.toList := by
  cases stage <;> decide

/-- The texts of a stage's document stand among the flags: a path as it is, and a command at
the end of the file that it names. -/
theorem plain_document_of_flags {stage : Stage} {root : File.Path}
    {configuration : Config.Configuration} {homes : File.Homes} {files : File.System}
    {searchPath : String} (granted : stage.policy root configuration homes = .ok policy)
    (apart : ∀ flag ∈ policy.flags (files.which? searchPath), Apart flag.toList) :
    Json.Plain policy.document := by
  obtain ⟨writable, -, fields⟩ := Stage.policy_eq_ok granted
  apply plain_document
  · rw [fields]
    exact apart_stageName stage
  · intro text member
    exact apart text (mem_flags_of_writable member)
  · intro commands runnable command member
    have file := apart _ (mem_flags_of_runnable runnable member)
    cases found : files.which? searchPath command with
    | none => simpa [found] using file
    | some path =>
        obtain ⟨front, rfl⟩ := File.System.exists_of_which? found
        rw [found, Option.getD_some] at file
        exact apart_of_append file

/-- Sorting a policy's document only moves its fields. -/
theorem exists_sorted_document (policy : Policy) :
    ∃ documented fields, policy.document = .object documented ∧
      Json.sorted policy.document = .object fields ∧ fields.Perm documented := by
  refine ⟨_, _, rfl, rfl, (Json.sortedFields_perm _).trans ?_⟩
  rw [List.map_cons, List.map_cons, List.map_cons, List.map_cons, List.map_cons, List.map_nil,
    sorted_textList]
  cases policy.runnable with
  | anything => exact List.Perm.refl _
  | only commands =>
      rw [sorted_textList]
      exact List.Perm.refl _

end Policy

end GuardedInstall.Sandbox

namespace GuardedInstall.CommandLine

open GuardedInstall.File (Path System)
open GuardedInstall.Sandbox (Policy Stage)
open GuardedInstall.Text (Apart)

/-! ## The command that shows a policy -/

/-- The words that ask for the policy of a stage below a root. -/
def policyWords (asked : List GlobalOption) (stage : Stage) (root : String) : List String :=
  optionWords asked ++ ["policy", stage.name, "--root", root]

/-- A stage and a root are read as they are asked for. -/
theorem readPolicy_stage (configuration : Option Path) (stage : Stage) (root : String) :
    readPolicy configuration [stage.name, "--root", root] =
      some (.showPolicy configuration stage (some (Path.ofString root))) := by
  have plain : isOption stage.name = false ∧ stage.name ≠ endOfOptions := by
    cases stage <;> decide
  have option : isOption "--root" = true ∧ "--root" ≠ endOfOptions := by decide
  have named : Stage.ofName? stage.name = some stage := by
    cases stage <;> decide
  have behind : readRoot none ["--root", root] = some ([], some root) := by
    rw [readRoot, if_neg option.2, option.1]
    rfl
  have words : readRoot none [stage.name, "--root", root] = some ([stage.name], some root) := by
    rw [readRoot.eq_def]
    simp only [plain.1, plain.2, behind, if_false, Bool.not_false, if_true, Option.map_some]
  rw [readPolicy, words]
  simp only [Option.bind_eq_bind, Option.bind_some, named, Option.map_some]
  rfl

theorem ofWords_showPolicy (asked : List GlobalOption) (stage : Stage) (root : String) :
    Invocation.ofWords (policyWords asked stage root) =
      some (.showPolicy (requestedBy asked) stage (some (Path.ofString root))) := by
  have plain : isOption "policy" = false := by decide
  have unmarked : "policy" ≠ endOfOptions := by decide
  rw [policyWords, Invocation.ofWords, readOptions_append plain unmarked]
  simp only [Option.bind_eq_bind, Option.bind_some, foldl_addTo_version, readPolicy_stage]
  rfl

/-- What is shown of a policy. -/
def shownText (configuration : Config.Configuration) (policy : Policy)
    (which? : String → Option String) : String :=
  Json.indented (policyDocument configuration.launcher (policy.flags which?) policy) ++ "\n"

/-- A policy is shown and nothing else happens. -/
theorem run_policyWords {accounts : File.Homes} {environment : Config.Environment}
    {asked : List GlobalOption} {files : System} {configuration : Config.Configuration}
    {stage : Stage} {text : String} {root : Path} {policy : Policy}
    (send : Analysis.Request → Analysis.Response) (behaviours : List Child.Behaviour)
    (loads : Config.load files environment (homesOf accounts environment) (requestedBy asked) =
      .ok configuration)
    (resolves : files.resolve (Path.ofString text) = .ok root)
    (granted : stage.policy root configuration (homesOf accounts environment) = .ok policy) :
    run environment send (policyWords asked stage text) accounts (.start files behaviours) =
      (.ok 0, ⟨files, behaviours, [.printed (.verbatim .out (shownText configuration policy
        (files.which? (searchPathOf environment))))]⟩) := by
  simp only [run, ofWords_showPolicy, perform, configured, Run.get_bind_apply]
  rw [show (Session.start files behaviours).files = files from rfl, loads]
  -- Unfolded under the match, the command would be evaluated when the step is checked.
  show showPolicy accounts environment stage (some (Path.ofString text)) configuration
    (.start files behaviours) = _
  rw [showPolicy, Run.get_bind_apply, Option.getD_some]
  rw [show (Session.start files behaviours).files = files from rfl, resolves]
  have homes : (setupOf accounts environment configuration).homes =
      homesOf accounts environment := rfl
  simp only [Except.mapError, MonadExcept.ofExcept, Run.bind_apply, Run.pure_apply, homes, granted,
    Run.print_apply]
  rw [shownText]
  rfl

/-- What is shown is read as the words and the policy, if halves stand apart in all of
them. -/
theorem read_shownText {configuration : Config.Configuration} {policy : Policy}
    {which? : String → Option String}
    (words : ∀ word ∈ configuration.launcher ++ policy.flags which?, Apart word.toList)
    (plain : Json.Plain policy.document) :
    ∃ documented fields, policy.document = .object documented ∧ fields.Perm documented ∧
      Json.read (shownText configuration policy which?).toList =
        .ok (.object [("launcher_args",
          Policy.textList (configuration.launcher ++ policy.flags which?)),
            ("policy", .object fields)]) := by
  obtain ⟨documented, fields, document, sorted, same⟩ := policy.exists_sorted_document
  refine ⟨documented, fields, document, same, ?_⟩
  have whole : Json.Plain (policyDocument configuration.launcher (policy.flags which?) policy) := by
    apply Json.Plain.object
    · simp only [List.map_cons, List.map_nil]
      decide
    · simp only [List.forall_mem_cons, List.not_mem_nil, IsEmpty.forall_iff, implies_true, and_true]
      decide
    · simp only [List.forall_mem_cons, List.not_mem_nil, IsEmpty.forall_iff, implies_true, and_true]
      exact ⟨plain, Policy.plain_textList words⟩
  have ordered : Json.sorted (policyDocument configuration.launcher (policy.flags which?) policy) =
      .object [("launcher_args", Policy.textList (configuration.launcher ++ policy.flags which?)),
        ("policy", .object fields)] := by
    have behind : ¬ "policy" < "launcher_args" := by decide
    simp only [policyDocument, Json.sorted, Json.sortedFields, Json.insertField, behind, if_false,
      sorted, Policy.sorted_textList]
  rw [shownText, String.toList_append, Json.read_indented whole rfl, ordered]

/-! ## The process of a stage -/

/-- The process of a stage in a guarded run is started in the root that was found. -/
theorem exists_isStage_of_process? {accounts : File.Homes} {environment : Config.Environment}
    {given : List GlobalOption} {send : Analysis.Request → Analysis.Response}
    {arguments : List String} {files : System} {behaviours : List Child.Behaviour}
    {configuration : Config.Configuration} {stage : Stage} {process : Process}
    (loads : Config.load files environment (homesOf accounts environment) (requestedBy given) =
      .ok configuration)
    (intercepted : Route.ofArguments (forwarded arguments) = .ok .intercept)
    (reached : Pipeline.process? (course accounts environment send
      (optionWords given ++ "yarn" :: arguments) files behaviours).acts stage = some process) :
    ∃ root, files.findRoot Pipeline.manifest files.workingPath System.searchDepth =
        .ok (some root) ∧
      Pipeline.IsStage (setupOf accounts environment configuration) root (forwarded arguments)
        process.found stage process := by
  rw [course_eq given arguments send behaviours loads] at reached
  have guarded := Pipeline.guarded_course (setupOf accounts environment configuration)
    ((Analysis.Client.ofConfiguration configuration).check send) files.workingPath intercepted
    files behaviours
  exact guarded.exists_isStage reached

/-- What was shown of a stage, beside the process that a guarded run starts for it. -/
structure ShowsStage (accounts : File.Homes) (environment : Config.Environment)
    (configuration : Config.Configuration) (arguments : List String) (stage : Stage)
    (process : Process) (policy : Policy) (words : List String) (text : String) : Prop where
  /-- The stage runs under the policy. -/
  granted : stage.policy process.start.directory configuration (homesOf accounts environment) =
    .ok policy
  words_eq : words = configuration.launcher ++
    policy.flags (process.found.which? (searchPathOf environment))
  confined : process.start.command =
    words ++ configuration.packageManager :: Pipeline.stageArguments arguments stage
  /-- The text is read as these words and that policy. No process is given a word with a
  first half, so the condition holds of every process that comes to start. -/
  decoded (apart : ∀ word ∈ process.start.command, Apart word.toList) :
    ∃ documented fields, policy.document = .object documented ∧ fields.Perm documented ∧
      Json.read text.toList = .ok (.object
        [("launcher_args", Policy.textList words), ("policy", .object fields)])

/-- The words and the policy that are shown of a stage are those with which a guarded run in
the project starts it. The files that commands mean, seen from the project, are not exchanged
before the stage starts; and the program shows them in the project, or is told to look for
commands in absolute directories only. -/
theorem showsStage_of_process {accounts : File.Homes} {environment : Config.Environment}
    {asked given : List GlobalOption} {send : Analysis.Request → Analysis.Response}
    {arguments : List String} {shown files : System}
    {upcoming behaviours : List Child.Behaviour} {configuration : Config.Configuration}
    {stage : Stage} {process : Process} {root : String}
    (known : Config.load shown environment (homesOf accounts environment) (requestedBy asked) =
      .ok configuration)
    (loads : Config.load files environment (homesOf accounts environment) (requestedBy given) =
      .ok configuration)
    (absoluteRoot : (Path.ofString root).isAbsolute = true)
    (undotted : ".." ∉ (Path.ofString root).names)
    (within : files.workingPath = ⟨.root, (Path.ofString root).names⟩)
    (project : files.present (files.workingPath.child Pipeline.manifest) = .ok true)
    (intercepted : Route.ofArguments (forwarded arguments) = .ok .intercept)
    (reached : Pipeline.process? (course accounts environment send
      (optionWords given ++ "yarn" :: arguments) files behaviours).acts stage = some process)
    (unchanged : ∀ command ∈ [configuration.packageManager, configuration.runtime],
      (shown.seenFrom files.workingDirectory).meant (searchPathOf environment) command =
        process.found.meant (searchPathOf environment) command)
    (position : shown.workingDirectory = files.workingDirectory ∨
      System.IsRooted (searchPathOf environment)) :
    ∃ policy words text,
      run environment send (policyWords asked stage root) accounts (.start shown upcoming) =
        (.ok 0, ⟨shown, upcoming, [.printed (.verbatim .out text)]⟩) ∧
      ShowsStage accounts environment configuration (forwarded arguments) stage process policy
        words text := by
  obtain ⟨_, searched, isStage⟩ := exists_isStage_of_process? loads intercepted reached
  rw [System.findRoot_workingPath project] at searched
  cases searched
  obtain ⟨policy, granted, start⟩ := isStage.start_eq
  have same : ∀ command ∈ [configuration.packageManager, configuration.runtime],
      shown.meant (searchPathOf environment) command =
        process.found.meant (searchPathOf environment) command := by
    intro command member
    rw [← unchanged command member, System.meant_seenFrom position]
  have flags : policy.flags (shown.which? (searchPathOf environment)) =
      policy.flags (process.found.which? (searchPathOf environment)) :=
    Policy.flags_eq_of_policy granted same
  have resolves : shown.resolve (Path.ofString root) = .ok files.workingPath :=
    System.resolve_eq_ok absoluteRoot undotted within (by decide) project
  refine ⟨policy, configuration.launcher ++
    policy.flags (process.found.which? (searchPathOf environment)), _,
    run_policyWords send upcoming known resolves granted, ?_⟩
  have confined : process.start.command = (configuration.launcher ++
      policy.flags (process.found.which? (searchPathOf environment))) ++
        configuration.packageManager :: Pipeline.stageArguments (forwarded arguments) stage := by
    rw [start]
    rfl
  constructor
  case granted =>
    rw [start]
    exact granted
  case words_eq => rfl
  case confined => exact confined
  case decoded =>
    intro apart
    rw [confined] at apart
    have words : ∀ word ∈ configuration.launcher ++
        policy.flags (shown.which? (searchPathOf environment)), Apart word.toList := by
      rw [flags]
      intro word member
      exact apart word (List.mem_append_left _ member)
    have plain : Json.Plain policy.document := by
      apply Policy.plain_document_of_flags granted
      intro flag member
      exact words flag (List.mem_append_right _ member)
    rw [← flags]
    exact read_shownText words plain

/-! ## A project with a package manager of its own -/

/-- A project with a configuration, the package manager beside it and another one in it. -/
def site : System where
  nodes :=
    [(["site"], .directory), (["package.json", "site"], .file ⟨#[123, 125]⟩ false),
      (["tools", "site"], .directory), (["yarn", "tools", "site"], .file ⟨#[]⟩ true),
      (["bin"], .directory), (["yarn", "bin"], .file ⟨#[]⟩ true),
      (["settings.json"], .file ⟨#[123, 125]⟩ false)]
  workingDirectory := ["site"]

/-- The same files, seen from the root. -/
def aboveSite : System :=
  site.seenFrom []

def siteEnvironment (searchPath : String) : Config.Environment :=
  [("HOME", "/home/u"), ("PATH", searchPath)]

def siteOptions : List GlobalOption := [.configuration "/settings.json"]

def siteConfiguration : Config.Configuration :=
  { Config.Configuration.default with source := some (Path.ofString "/settings.json") }

theorem load_site (searchPath : String) :
    Config.load site (siteEnvironment searchPath)
        (homesOf .standard (siteEnvironment searchPath)) (requestedBy siteOptions) =
      .ok siteConfiguration := by
  with_unfolding_all rfl

theorem load_aboveSite (searchPath : String) :
    Config.load aboveSite (siteEnvironment searchPath)
        (homesOf .standard (siteEnvironment searchPath)) (requestedBy siteOptions) =
      .ok siteConfiguration := by
  with_unfolding_all rfl

theorem names_site :
    (Path.ofString "/site/").isAbsolute = true ∧ ".." ∉ (Path.ofString "/site/").names ∧
      site.workingPath = ⟨.root, (Path.ofString "/site/").names⟩ := by
  decide +kernel

theorem present_site : site.present (site.workingPath.child Pipeline.manifest) = .ok true := by
  decide +kernel

theorem captureState_site : Pipeline.captureState site site.workingPath =
    .ok [⟨site.workingPath.child Pipeline.lockfile, none⟩,
      ⟨site.workingPath.child Pipeline.manifest, some ⟨#[123, 125]⟩⟩] := by
  have ofLockfile : site.read (site.workingPath.child Pipeline.lockfile) =
      .error ⟨.notFound, (site.workingPath.child Pipeline.lockfile).toString⟩ := by
    with_unfolding_all rfl
  have ofManifest : site.read (site.workingPath.child Pipeline.manifest) =
      .ok ⟨#[123, 125]⟩ := by
    with_unfolding_all rfl
  simp only [Pipeline.captureState, File.Snapshot.capture, ofLockfile, ofManifest]
  rfl

/-- What the dry run of that project may do. -/
def sitePolicy : Policy where
  name := "dry-run"
  readAll := true
  writable := ["/home/u/.cache/node", "/home/u/.cache/yarn", "/home/u/.yarn", "/site", "/tmp"]
  runnable := .only ["yarn", "node"]
  network := true

theorem policy_site (searchPath : String) :
    Stage.dryRun.policy site.workingPath siteConfiguration
      (homesOf .standard (siteEnvironment searchPath)) = .ok sitePolicy := by
  show Stage.dryRun.policy site.workingPath siteConfiguration
    ⟨"/home/u", File.Homes.standardAccounts⟩ = .ok sitePolicy
  decide +kernel

/-- The words that confine the dry run of that project, seen from some files. -/
def siteWords (files : System) (searchPath : String) : List String :=
  siteConfiguration.launcher ++ sitePolicy.flags (files.which? searchPath)

/-- The words that a guarded run is given there. -/
def siteArguments : List String := ["add", "left-pad"]

theorem intercepted_siteArguments :
    Route.ofArguments (forwarded siteArguments) = .ok .intercept :=
  Route.ofArguments_eq_intercept_iff.mpr ⟨_, _, rfl, by decide⟩

/-- The dry run of that project comes to start, and finds the files as they are. -/
theorem exists_dryRun_site (searchPath : String) : ∃ process,
    Pipeline.process? (course .standard (siteEnvironment searchPath) absentService
      (optionWords siteOptions ++ "yarn" :: siteArguments) site []).acts .dryRun =
        some process ∧
    process.found = site ∧ process.start =
      ⟨siteWords site searchPath ++
        "yarn" :: Pipeline.stageArguments (forwarded siteArguments) .dryRun,
        site.workingPath⟩ := by
  have granted := policy_site searchPath
  have launcher : (setupOf .standard (siteEnvironment searchPath)
      siteConfiguration).configuration.launcher ≠ [] := List.cons_ne_nil _ _
  obtain ⟨start, reached⟩ := Pipeline.exists_dryRun_of_startable
    ((Analysis.Client.ofConfiguration siteConfiguration).check absentService) []
    intercepted_siteArguments (System.findRoot_workingPath present_site) captureState_site
    launcher ⟨_, granted⟩
  have ran : Pipeline.process? (course .standard (siteEnvironment searchPath) absentService
      (optionWords siteOptions ++ "yarn" :: siteArguments) site []).acts .dryRun =
        some (.ofBehaviour Child.idle start site) := by
    rw [course_eq siteOptions siteArguments absentService [] (load_site searchPath)]
    exact reached
  refine ⟨_, ran, rfl, ?_⟩
  obtain ⟨root, searched, isStage⟩ :=
    exists_isStage_of_process? (load_site searchPath) intercepted_siteArguments ran
  rw [System.findRoot_workingPath present_site] at searched
  cases searched
  obtain ⟨policy, same, started⟩ := isStage.start_eq
  cases same.symm.trans granted
  rw [started]
  rfl

/-- No word of that dry run has a half of a character, wherever it is looked for. -/
theorem apart_siteWords :
    (∀ word ∈ siteWords site "/bin", Apart word.toList) ∧
      (∀ word ∈ siteWords site "tools:/usr/bin", Apart word.toList) ∧
      (∀ word ∈ siteWords aboveSite "tools:/usr/bin", Apart word.toList) ∧
      ∀ word ∈ "yarn" :: Pipeline.stageArguments (forwarded siteArguments) .dryRun,
        Apart word.toList := by
  decide +kernel

/-- From above, the policy of that dry run is shown with the words that confine it. -/
theorem showsStage_site : ∃ process,
    Config.load aboveSite (siteEnvironment "/bin")
        (homesOf .standard (siteEnvironment "/bin")) (requestedBy siteOptions) =
      .ok siteConfiguration ∧
    Config.load site (siteEnvironment "/bin")
        (homesOf .standard (siteEnvironment "/bin")) (requestedBy siteOptions) =
      .ok siteConfiguration ∧
    (Path.ofString "/site/").isAbsolute = true ∧ ".." ∉ (Path.ofString "/site/").names ∧
    site.workingPath = ⟨.root, (Path.ofString "/site/").names⟩ ∧
    site.present (site.workingPath.child Pipeline.manifest) = .ok true ∧
    Route.ofArguments (forwarded siteArguments) = .ok .intercept ∧
    Pipeline.process? (course .standard (siteEnvironment "/bin") absentService
      (optionWords siteOptions ++ "yarn" :: siteArguments) site []).acts .dryRun =
        some process ∧
    (∀ command ∈ [siteConfiguration.packageManager, siteConfiguration.runtime],
      (aboveSite.seenFrom site.workingDirectory).meant
          (searchPathOf (siteEnvironment "/bin")) command =
        process.found.meant (searchPathOf (siteEnvironment "/bin")) command) ∧
    System.IsRooted (searchPathOf (siteEnvironment "/bin")) ∧
    (∀ word ∈ process.start.command, Apart word.toList) ∧
    ∃ policy words text,
      run (siteEnvironment "/bin") absentService (policyWords siteOptions .dryRun "/site/")
          .standard (.start aboveSite []) =
        (.ok 0, ⟨aboveSite, [], [.printed (.verbatim .out text)]⟩) ∧
      ShowsStage .standard (siteEnvironment "/bin") siteConfiguration (forwarded siteArguments)
        .dryRun process policy words text := by
  obtain ⟨process, reached, found, start⟩ := exists_dryRun_site "/bin"
  obtain ⟨absoluteRoot, undotted, within⟩ := names_site
  have unchanged : ∀ command ∈ [siteConfiguration.packageManager, siteConfiguration.runtime],
      (aboveSite.seenFrom site.workingDirectory).meant
          (searchPathOf (siteEnvironment "/bin")) command =
        process.found.meant (searchPathOf (siteEnvironment "/bin")) command := by
    intro command member
    rw [found]
    rfl
  have rooted : System.IsRooted (searchPathOf (siteEnvironment "/bin")) :=
    .inr (by decide +kernel)
  have apart : ∀ word ∈ process.start.command, Apart word.toList := by
    rw [start]
    exact List.forall_mem_append.mpr ⟨apart_siteWords.1, apart_siteWords.2.2.2⟩
  exact ⟨process, load_aboveSite "/bin", load_site "/bin", absoluteRoot, undotted, within,
    present_site, intercepted_siteArguments, reached, unchanged, rooted, apart,
    showsStage_of_process (load_aboveSite "/bin") (load_site "/bin") absoluteRoot undotted within
      present_site intercepted_siteArguments reached unchanged (.inr rooted)⟩

/-- From above, a package manager is not found that the project has in a relative directory
of the search path. -/
theorem siteWords_ne : siteWords aboveSite "tools:/usr/bin" ≠ siteWords site "tools:/usr/bin" := by
  decide +kernel

theorem text_eq_of_printed {files : System} {upcoming : List Child.Behaviour} {text other : String}
    (same : ((.ok 0, ⟨files, upcoming, [.printed (.verbatim .out text)]⟩) :
        Except Departure Int × Session) =
      (.ok 0, ⟨files, upcoming, [.printed (.verbatim .out other)]⟩)) : text = other := by
  simpa using same

/-- Seen from another directory, a policy need not be shown with the words that confine the
stage, even if no file is changed at all. -/
theorem not_forall_showsStage :
    ¬ ∀ accounts environment asked given send arguments files place upcoming behaviours
        configuration stage process root,
      Config.load (files.seenFrom place) environment (homesOf accounts environment)
        (requestedBy asked) = .ok configuration →
      Config.load files environment (homesOf accounts environment) (requestedBy given) =
        .ok configuration →
      (Path.ofString root).isAbsolute = true →
      ".." ∉ (Path.ofString root).names →
      files.workingPath = ⟨.root, (Path.ofString root).names⟩ →
      files.present (files.workingPath.child Pipeline.manifest) = .ok true →
      Route.ofArguments (forwarded arguments) = .ok .intercept →
      Pipeline.process? (course accounts environment send
        (optionWords given ++ "yarn" :: arguments) files behaviours).acts stage =
          some process →
      process.found = files →
      ∃ policy words text,
        run environment send (policyWords asked stage root) accounts
            (.start (files.seenFrom place) upcoming) =
          (.ok 0, ⟨files.seenFrom place, upcoming, [.printed (.verbatim .out text)]⟩) ∧
        ShowsStage accounts environment configuration (forwarded arguments) stage process policy
          words text := by
  intro shows
  obtain ⟨process, reached, found, start⟩ := exists_dryRun_site "tools:/usr/bin"
  obtain ⟨absoluteRoot, undotted, within⟩ := names_site
  obtain ⟨policy, words, text, ran, seen⟩ := shows .standard (siteEnvironment "tools:/usr/bin")
    siteOptions siteOptions absentService siteArguments site [] [] [] siteConfiguration
    .dryRun process "/site/" (load_aboveSite _) (load_site _) absoluteRoot undotted within
    present_site intercepted_siteArguments reached found
  have granted := seen.granted
  rw [start, policy_site] at granted
  cases granted
  -- What is printed is read as the words that are found from above.
  have resolves : aboveSite.resolve (Path.ofString "/site/") = .ok site.workingPath :=
    System.resolve_eq_ok absoluteRoot undotted within (by decide) present_site
  have printed := run_policyWords absentService [] (load_aboveSite "tools:/usr/bin") resolves
    (policy_site "tools:/usr/bin")
  have apart : ∀ word ∈ siteWords aboveSite "tools:/usr/bin", Apart word.toList :=
    apart_siteWords.2.2.1
  have plain : Json.Plain sitePolicy.document :=
    Policy.plain_document_of_flags (policy_site "tools:/usr/bin")
      fun flag member => apart flag (List.mem_append_right _ member)
  obtain ⟨_, _, -, -, fromAbove⟩ := read_shownText apart plain
  -- The stage is started with those that are found from the project.
  obtain ⟨_, _, -, -, ofStage⟩ := seen.decoded (by
    rw [start]
    exact List.forall_mem_append.mpr ⟨apart_siteWords.2.1, apart_siteWords.2.2.2⟩)
  have text_eq : text = shownText siteConfiguration sitePolicy
      (aboveSite.which? "tools:/usr/bin") :=
    text_eq_of_printed (ran.symm.trans printed)
  have words_eq : words = siteWords site "tools:/usr/bin" := by
    rw [seen.words_eq, found]
    rfl
  rw [text_eq, fromAbove, words_eq] at ofStage
  injection ofStage with document
  injection document with fields
  injection fields with launcher
  injection launcher with _ launcher
  exact siteWords_ne (Policy.textList_injective launcher)

end GuardedInstall.CommandLine
