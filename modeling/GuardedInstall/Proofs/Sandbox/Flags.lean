import GuardedInstall.Proofs.Sandbox.Privileges
import GuardedInstall.Proofs.Text.Sorted

/-!
# Flags that are read back

A launcher reads its flags from left to right, and takes the word behind some of them for
their value. The flags of a policy are read to their end and give back what the policy grants,
even where a path or a command is written like a flag. The document of a policy holds the same
data. Neither of them depends on the order in which paths are given, nor on repetitions.
-/

namespace GuardedInstall.Sandbox

open GuardedInstall.Text.Sorted (Ascending)

/-! ## A reader of flags -/

/-- The ways in which a file is used. -/
inductive Access where
  | read
  | write
  | run
  deriving DecidableEq, Repr

/-- What one flag grants: the use of a file, the environment, or the network. -/
inductive Grant where
  | use (access : Access) (file : String)
  | environment
  | network
  deriving DecidableEq, Repr

namespace Grant

/-- Read flags from left to right. The flags for the use of a file take the word behind them
for the file, whatever it is. -/
def ofFlags : List String → Option (List Grant)
  | [] => some []
  | "--allow-read" :: file :: rest => (ofFlags rest).map (use .read file :: ·)
  | "--allow-write" :: file :: rest => (ofFlags rest).map (use .write file :: ·)
  | "--allow-run" :: file :: rest => (ofFlags rest).map (use .run file :: ·)
  | "--allow-env" :: rest => (ofFlags rest).map (environment :: ·)
  | "--allow-net" :: rest => (ofFlags rest).map (network :: ·)
  | _ => none

/-- The files that are granted for a use, in the order of their flags. -/
def files (access : Access) (grants : List Grant) : List String :=
  grants.filterMap fun grant => match grant with
    | use other file => if other = access then some file else none
    | _ => none

/-- The words that grant something. -/
def words : Grant → List String
  | use .read file => ["--allow-read", file]
  | use .write file => ["--allow-write", file]
  | use .run file => ["--allow-run", file]
  | environment => ["--allow-env"]
  | network => ["--allow-net"]

theorem ofFlags_words_append (grant : Grant) (rest : List String) :
    ofFlags (grant.words ++ rest) = (ofFlags rest).map (grant :: ·) := by
  rcases grant with ⟨_ | _ | _, file⟩ | _ | _ <;> rfl

/-- Flags are read as they were written. -/
theorem ofFlags_flatMap_words (grants : List Grant) :
    ofFlags (grants.flatMap words) = some grants := by
  induction grants with
  | nil => rfl
  | cons grant rest ih => rw [List.flatMap_cons, ofFlags_words_append, ih, Option.map_some]

theorem files_append (access : Access) (first second : List Grant) :
    files access (first ++ second) = files access first ++ files access second :=
  List.filterMap_append

theorem files_map_use (access other : Access) (names : List String) :
    files access (names.map (use other)) = if other = access then names else [] := by
  induction names with
  | nil => simp [files]
  | cons name rest ih =>
      by_cases same : other = access
      · simp_all [files]
      · simp_all [files]

end Grant

/-! ## The grants of a policy -/

namespace Policy

open Grant (ofFlags files use)

variable {which? : String → Option String} {policy other : Policy}

/-- What a policy grants, in the order of its flags. -/
def granted (which? : String → Option String) (policy : Policy) : List Grant :=
  (if policy.readAll then ["/"] else []).map (use .read) ++
    (Text.Sorted.ofList policy.writable).map (use .write) ++
    (runValues which? policy.runnable).map (use .run) ++
    [.environment] ++
    (if policy.network then [.network] else [])

theorem flags_eq (which? : String → Option String) (policy : Policy) :
    policy.flags which? = (policy.granted which?).flatMap Grant.words := by
  have writing (files : List String) :
      grants "--allow-write" files = (files.map (use .write)).flatMap Grant.words := by
    rw [List.flatMap_map]
    rfl
  have running (files : List String) :
      grants "--allow-run" files = (files.map (use .run)).flatMap Grant.words := by
    rw [List.flatMap_map]
    rfl
  simp only [flags, granted, writing, running, List.flatMap_append]
  cases policy.readAll <;> cases policy.network <;> rfl

/-- The commands of a policy as they are rendered: the files of the run flags, and the entry of
the document. A set of commands is rendered in order, by the files that they name where they
name one, and in the document as they are. -/
inductive RendersCommands (which? : String → Option String) :
    Runnable → List String → Json.Value → Prop where
  | anything : RendersCommands which? .anything ["/"] (.text "all")
  | only {commands names : List String} (ascending : Ascending names)
      (same : ∀ command, command ∈ names ↔ command ∈ commands) :
      RendersCommands which? (.only commands)
        (names.map fun command => (which? command).getD command) (textList names)

/-- What is read from the flags of a policy, and what its document says. -/
structure Rendered (which? : String → Option String) (policy : Policy) (grants : List Grant)
    (run : Json.Value) : Prop where
  reading : files .read grants = if policy.readAll then ["/"] else []
  ascending : Ascending (files .write grants)
  writing (path : String) : path ∈ files .write grants ↔ path ∈ policy.writable
  running : RendersCommands which? policy.runnable (files .run grants) run
  environment : .environment ∈ grants
  network : .network ∈ grants ↔ policy.network = true
  document : policy.document = .object
    [("name", .text policy.name),
      ("read", .text (if files .read grants = [] then "none" else "all")),
      ("write", textList (files .write grants)),
      ("run", run),
      ("net", .boolean (decide (.network ∈ grants)))]

/-- The same commands may be run. -/
inductive RunsAlike : Runnable → Runnable → Prop where
  | anything : RunsAlike .anything .anything
  | only {commands names : List String}
      (same : ∀ command, command ∈ names ↔ command ∈ commands) :
      RunsAlike (.only commands) (.only names)

/-- Two policies grant the same, whatever the order in which they list it. -/
structure Alike (policy other : Policy) : Prop where
  name : other.name = policy.name
  readAll : other.readAll = policy.readAll
  writable (path : String) : path ∈ other.writable ↔ path ∈ policy.writable
  runnable : RunsAlike policy.runnable other.runnable
  network : other.network = policy.network

theorem files_granted (access : Access) (which? : String → Option String) (policy : Policy) :
    files access (policy.granted which?) =
      match access with
      | .read => if policy.readAll then ["/"] else []
      | .write => Text.Sorted.ofList policy.writable
      | .run => runValues which? policy.runnable := by
  have rest : files access ([.environment] ++ if policy.network then [.network] else []) = [] := by
    cases policy.network <;> rfl
  rw [granted, List.append_assoc _ [Grant.environment], Grant.files_append, rest]
  simp only [Grant.files_append, Grant.files_map_use]
  cases access <;> simp

theorem network_mem_granted_iff :
    .network ∈ policy.granted which? ↔ policy.network = true := by
  cases allowed : policy.network <;> simp [granted, allowed]

/-- The commands of a policy are rendered by the flags and by the document. -/
theorem exists_rendersCommands (which? : String → Option String) (policy : Policy) :
    ∃ run, RendersCommands which? policy.runnable (runValues which? policy.runnable) run ∧
      policy.document = .object
        [("name", .text policy.name),
          ("read", .text (if policy.readAll then "all" else "none")),
          ("write", textList (Text.Sorted.ofList policy.writable)),
          ("run", run),
          ("net", .boolean policy.network)] := by
  cases runnable : policy.runnable with
  | anything => exact ⟨_, .anything, by simp only [document, runnable]⟩
  | only commands =>
      exact ⟨_, .only (Text.Sorted.ascending_ofList commands) fun _ => Text.Sorted.mem_ofList_iff,
        by simp only [document, runnable]⟩

theorem exists_rendered (which? : String → Option String) (policy : Policy) :
    ∃ run, Rendered which? policy (policy.granted which?) run := by
  obtain ⟨run, running, document⟩ := exists_rendersCommands which? policy
  refine ⟨run, ?_⟩
  constructor
  case reading => exact files_granted .read which? policy
  case ascending =>
    rw [files_granted]
    exact Text.Sorted.ascending_ofList _
  case writing =>
    intro path
    rw [files_granted]
    exact Text.Sorted.mem_ofList_iff
  case running => rwa [files_granted]
  case environment => simp [granted]
  case network => exact network_mem_granted_iff
  case document =>
    rw [document, files_granted, files_granted]
    simp only [network_mem_granted_iff, Bool.decide_eq_true]
    cases policy.readAll <;> rfl

/-- Policies that grant the same are rendered alike. -/
theorem Alike.rendered_eq (alike : Alike policy other) :
    other.flags which? = policy.flags which? ∧ other.document = policy.document := by
  have writable : Text.Sorted.ofList other.writable = Text.Sorted.ofList policy.writable :=
    Text.Sorted.ofList_congr alike.writable
  obtain ⟨name, readAll, paths, runnable, network⟩ := policy
  obtain ⟨_, _, others, _, _⟩ := other
  obtain ⟨rfl, rfl, -, runsAlike, rfl⟩ := alike
  simp only at writable
  cases runsAlike with
  | anything => simp only [flags, document, writable, and_self]
  | only same =>
      simp only [flags, document, runValues, writable, Text.Sorted.ofList_congr same, and_self]

/-- What the two renderings of a policy tell of it. -/
structure TellsPolicy (which? : String → Option String) (policy : Policy) : Prop where
  /-- The flags are read to their end, and give back the policy. -/
  rendered : ∃ grants run, ofFlags (policy.flags which?) = some grants ∧
    Rendered which? policy grants run
  /-- Neither rendering depends on how the paths and the commands are listed. -/
  unordered {other : Policy} (alike : Alike policy other) :
    other.flags which? = policy.flags which? ∧ other.document = policy.document
  /-- In the policy of a stage they do not depend on how the configuration lists its paths. -/
  rearranged {stage : Stage} {root : File.Path} {configuration : Config.Configuration}
    {homes : File.Homes} {extra : List String}
    (granted : stage.policy root configuration homes = .ok policy)
    (same : ∀ path, path ∈ extra ↔ path ∈ configuration.extraWritable) :
    ∃ other, stage.policy root { configuration with extraWritable := extra } homes = .ok other ∧
      other.flags which? = policy.flags which? ∧ other.document = policy.document

end Policy

/-- A stage has a policy for paths in another order, and it grants the same. -/
theorem Stage.exists_alike_policy {stage : Stage} {root : File.Path}
    {configuration : Config.Configuration} {homes : File.Homes} {extra : List String}
    {policy : Policy} (granted : stage.policy root configuration homes = .ok policy)
    (same : ∀ path, path ∈ extra ↔ path ∈ configuration.extraWritable) :
    ∃ other, stage.policy root { configuration with extraWritable := extra } homes = .ok other ∧
      policy.Alike other := by
  have asked (path : String) : path ∈ stage.writablePaths root extra ↔
      path ∈ stage.writablePaths root configuration.extraWritable := by
    cases stage <;> simp [Stage.writablePaths, same]
  obtain ⟨other, also⟩ : ∃ other,
      stage.policy root { configuration with extraWritable := extra } homes = .ok other := by
    rw [Stage.exists_policy_iff]
    intro path member
    exact Stage.exists_policy_iff.mp ⟨policy, granted⟩ path ((asked path).mp member)
  refine ⟨other, also, ?_⟩
  have writable (path : String) : path ∈ other.writable ↔ path ∈ policy.writable := by
    rw [Stage.mem_writable_iff also, Stage.mem_writable_iff granted]
    simp only [asked]
  obtain ⟨_, -, rfl⟩ := Stage.policy_eq_ok granted
  obtain ⟨_, -, rfl⟩ := Stage.policy_eq_ok also
  refine ⟨rfl, rfl, writable, ?_, rfl⟩
  cases stage with
  | build => exact .anything
  | dryRun => exact .only fun _ => Iff.rfl
  | cache => exact .only fun _ => Iff.rfl

/-- The flags and the document of a policy tell what it grants, and nothing else. -/
theorem Policy.tellsPolicy (which? : String → Option String) (policy : Policy) :
    TellsPolicy which? policy := by
  constructor
  case rendered =>
    obtain ⟨run, rendered⟩ := exists_rendered which? policy
    refine ⟨policy.granted which?, run, ?_, rendered⟩
    rw [flags_eq, Grant.ofFlags_flatMap_words]
  case unordered =>
    intro other alike
    exact alike.rendered_eq
  case rearranged =>
    intro stage root configuration homes extra granted same
    obtain ⟨other, also, alike⟩ := Stage.exists_alike_policy granted same
    exact ⟨other, also, alike.rendered_eq⟩

/-- A policy of paths and commands that are written like flags. -/
def flagLike : Policy where
  name := "cache"
  readAll := false
  writable := ["--allow-net", "--allow-run", "--allow-net"]
  runnable := .only ["--allow-env", "--allow-write"]
  network := false

example : Grant.ofFlags (flagLike.flags fun _ => none) =
    some [.use .write "--allow-net", .use .write "--allow-run", .use .run "--allow-env",
      .use .run "--allow-write", .environment] := by
  decide +kernel

end GuardedInstall.Sandbox
