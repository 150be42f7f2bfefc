import GuardedInstall.CommandLine.Run
import GuardedInstall.Proofs.Run.Routes

/-!
# The words that the package manager is given

Options of the program in front of its command are read one by one, and the words behind
the command are left over by the reading of options, whatever they look like: none is
interpreted, moved or cut, since the command declares no options. Only the first double
dash among them is lost. With these words the program does what the pipeline does, and
nothing else.
-/

namespace GuardedInstall.CommandLine

open GuardedInstall.File (System)
open GuardedInstall.Pipeline (handedProcess)

/-! ## Options in front of the command -/

/-- An option of the program, as it is written. -/
inductive GlobalOption where
  | configuration (path : String)
  | verbose
  | shortVerbose
  deriving DecidableEq, Repr

namespace GlobalOption

/-- The words of an option. -/
def words : GlobalOption → List String
  | configuration path => ["--config", path]
  | verbose => ["--verbose"]
  | shortVerbose => ["-v"]

/-- What an option adds to those before it. -/
def addTo (options : Options) : GlobalOption → Options
  | configuration path => { options with configuration := some path }
  | verbose => options
  | shortVerbose => options

end GlobalOption

/-- The words of options in order. -/
def optionWords (given : List GlobalOption) : List String :=
  given.flatMap GlobalOption.words

/-- The configuration file that options ask for. The last one wins. -/
def requestedBy (given : List GlobalOption) : Option File.Path :=
  (given.foldl GlobalOption.addTo {}).configuration.map File.Path.ofString

/-- A word that asks for more to be logged is passed over. -/
theorem readOptions_isVerbose {word : String} (verbose : isVerbose word = true)
    (plain : isOption word = true ∧ word ∉ [endOfOptions, "--config", "--version"])
    (options : Options) (rest : List String) :
    readOptions options (word :: rest) = readOptions options rest := by
  obtain ⟨option, others⟩ := plain
  simp only [List.mem_cons, List.not_mem_nil, or_false, not_or] at others
  obtain ⟨unmarked, unconfigured, unversioned⟩ := others
  rw [readOptions.eq_def]
  simp only [unmarked, option, unconfigured, unversioned, verbose, if_true, if_false,
    Bool.not_true, Bool.false_eq_true]

theorem readOptions_option (options : Options) (option : GlobalOption) (rest : List String) :
    readOptions options (option.words ++ rest) = readOptions (option.addTo options) rest := by
  cases option with
  | configuration path => rfl
  | verbose => exact readOptions_isVerbose (by decide) (by decide) options rest
  | shortVerbose => exact readOptions_isVerbose (by decide) (by decide) options rest

/-- Options are read up to the first word that is none. -/
theorem readOptions_append {command : String} (plain : isOption command = false)
    (unmarked : command ≠ endOfOptions) (given : List GlobalOption) (options : Options)
    (rest : List String) :
    readOptions options (optionWords given ++ command :: rest) =
      some (given.foldl GlobalOption.addTo options, command :: rest) := by
  induction given generalizing options with
  | nil =>
      show readOptions options (command :: rest) = _
      unfold readOptions
      rw [if_neg unmarked, plain]
      rfl
  | cons option given ih =>
      rw [optionWords, List.flatMap_cons, List.append_assoc, readOptions_option]
      exact ih (option.addTo options)

theorem addTo_version (option : GlobalOption) (options : Options) :
    (option.addTo options).version = options.version := by
  cases option with
  | configuration path => rfl
  | verbose => rfl
  | shortVerbose => rfl

/-- No such option asks for the version. -/
theorem foldl_addTo_version (given : List GlobalOption) (options : Options) :
    (given.foldl GlobalOption.addTo options).version = options.version := by
  induction given generalizing options with
  | nil => rfl
  | cons option given ih =>
      rw [List.foldl_cons, ih, addTo_version]

theorem ofWords_runPackageManager (given : List GlobalOption) (arguments : List String) :
    Invocation.ofWords (optionWords given ++ "yarn" :: arguments) =
      some (.runPackageManager (requestedBy given) (forwarded arguments)) := by
  have plain : isOption "yarn" = false := by decide
  have unmarked : "yarn" ≠ endOfOptions := by decide
  rw [Invocation.ofWords, readOptions_append plain unmarked]
  simp only [Option.bind_eq_bind, Option.bind_some, foldl_addTo_version]
  rfl

/-! ## The words behind the command -/

/-- A command without options leaves every option over. -/
theorem leftOfOption_eq {word : String} (option : isOption word = true) :
    leftOfOption word = [word] := by
  have unknown (name : String) : name ∉ declared := List.not_mem_nil
  rw [isOption, Bool.and_eq_true, beq_iff_eq, bne_iff_ne] at option
  obtain ⟨dash, single⟩ := option
  obtain ⟨letters, chars⟩ := List.head?_eq_some_iff.mp dash
  have written : word = String.ofList ('-' :: letters) := by
    rw [← chars, String.ofList_toList]
  have nonempty : letters ≠ [] := by
    rintro rfl
    exact single written
  have kept : letters.filter (fun letter => String.ofList ['-', letter] ∉ declared) = letters :=
    List.filter_eq_self.mpr fun letter _ => decide_eq_true (unknown _)
  unfold leftOfOption
  rw [if_neg (unknown _)]
  split
  · rfl
  · simp only [chars, List.drop_succ_cons, List.drop_zero, kept, if_neg nonempty, ← written]

/-- What is left over are all words but the first end of options. -/
theorem leftOver_eq (gathered words : List String) :
    leftOver gathered words = gathered ++ words.erase endOfOptions := by
  -- The loop goes on with more words gathered, so they are general in the induction.
  induction words generalizing gathered with
  | nil => exact (List.append_nil gathered).symm
  | cons word rest ih =>
      rw [leftOver]
      by_cases marked : word = endOfOptions
      · rw [if_pos marked, marked, List.erase_cons_head]
      · rw [if_neg marked, List.erase_cons_tail (by simpa using marked)]
        by_cases option : isOption word = true
        · rw [if_pos option, ih, leftOfOption_eq option, List.append_assoc, List.singleton_append]
        · rw [if_neg option, ih, List.append_assoc, List.singleton_append]

theorem forwarded_eq_erase (words : List String) : forwarded words = words.erase endOfOptions :=
  leftOver_eq [] words

/-- Without a double dash all words are handed on. -/
theorem forwarded_eq_self {words : List String} (unmarked : "--" ∉ words) :
    forwarded words = words := by
  rw [forwarded_eq_erase]
  exact List.erase_of_not_mem unmarked

/-- Of the words, the first double dash is lost. -/
theorem forwarded_append {before : List String} (unmarked : "--" ∉ before)
    (after : List String) : forwarded (before ++ "--" :: after) = before ++ after := by
  rw [forwarded_eq_erase, endOfOptions, List.erase_append_right _ unmarked,
    List.erase_cons_head]

/-- A cluster and a long option with a value come out as they went in. -/
example : forwarded ["run", "-ab=c", "--deep=x", "--", "-v", "--"] =
    ["run", "-ab=c", "--deep=x", "-v", "--"] := by
  decide +kernel

/-! ## What the program does -/

/-- What can be seen of the program from outside. -/
structure Course where
  acts : List Act
  files : System
  result : Except Departure Int

/-- The course of the program, given the behaviours of the processes to come. -/
def course (accounts : File.Homes) (environment : Config.Environment)
    (send : Analysis.Request → Analysis.Response) (words : List String) (files : System)
    (behaviours : List Child.Behaviour) : Course :=
  let ended := run environment send words accounts (.start files behaviours)
  ⟨Event.acts behaviours ended.2.events, ended.2.files, ended.1⟩

/-- What a departure from the pipeline is to the program. -/
def toldAs (departure : Departure) : Except Departure Int :=
  if departure.isNotStarted then .ok ExitCode.usage.number
  else
    match departure with
    | .process (.interrupted _) => .ok interruptedStatus
    | other => .error other

/-- What the result of the pipeline is to the program. -/
def concluded (preserveNative : Bool) : Except Departure Outcome → Except Departure Int
  | .ok outcome => .ok (outcome.exitStatus preserveNative)
  | .error departure => toldAs departure

theorem told_ensures (departure : Departure) (session : Session) :
    (told departure).Ensures session fun acts files result =>
      acts = [] ∧ files = session.files ∧ result = toldAs departure := by
  unfold told toldAs
  by_cases unstarted : departure.isNotStarted = true
  · rw [if_pos unstarted, if_pos unstarted]
    apply (Run.tells_say _ _).ensures_bind
    intro later same
    exact Run.ensures_pure ⟨rfl, same, rfl⟩
  · rw [if_neg unstarted, if_neg unstarted]
    cases departure with
    | process failure =>
        cases failure with
        | interrupted detail => exact Run.ensures_pure ⟨rfl, rfl, rfl⟩
        | notFound => exact Run.ensures_throw ⟨rfl, rfl, rfl⟩
        | notPermitted => exact Run.ensures_throw ⟨rfl, rfl, rfl⟩
        | broken detail => exact Run.ensures_throw ⟨rfl, rfl, rfl⟩
    | _ => exact Run.ensures_throw ⟨rfl, rfl, rfl⟩

section

variable {accounts : File.Homes} {environment : Config.Environment}
  {send : Analysis.Request → Analysis.Response} {configuration : Config.Configuration}
  {arguments : List String} {files : System} {behaviours : List Child.Behaviour}

/-- The course of the pipeline that the program runs. -/
def pipelineCourse (accounts : File.Homes) (environment : Config.Environment)
    (send : Analysis.Request → Analysis.Response) (configuration : Config.Configuration)
    (arguments : List String) (files : System) (behaviours : List Child.Behaviour) :
    Pipeline.Course :=
  Pipeline.course (setupOf accounts environment configuration)
    ((Analysis.Client.ofConfiguration configuration).check send) arguments files.workingPath
    files behaviours

theorem runPackageManager_ensures (accounts : File.Homes) (environment : Config.Environment)
    (send : Analysis.Request → Analysis.Response) (configuration : Config.Configuration)
    (arguments : List String) (files : System) (behaviours : List Child.Behaviour) :
    (runPackageManager accounts environment send arguments configuration).Ensures
      (.start files behaviours) fun acts left result =>
        let seen :=
          pipelineCourse accounts environment send configuration arguments files behaviours
        acts = seen.acts ∧ left = seen.files ∧
          result = concluded configuration.preserveNative seen.result := by
  have ran := Pipeline.run_ensures_course (setupOf accounts environment configuration)
    ((Analysis.Client.ofConfiguration configuration).check send) arguments files.workingPath
    files behaviours
  change Run.Ensures _ _ fun acts left result => (⟨acts, left, result⟩ : Pipeline.Course) =
    pipelineCourse accounts environment send configuration arguments files behaviours at ran
  unfold runPackageManager
  apply Run.ensures_get_bind
  generalize pipelineCourse accounts environment send configuration arguments files behaviours =
    seen at ran ⊢
  let report : Run.Report Int := fun acts left result => acts = seen.acts ∧ left = seen.files ∧
    result = seen.result.map (·.exitStatus configuration.preserveNative)
  have status : (do
      let outcome ← Pipeline.run (setupOf accounts environment configuration)
        ((Analysis.Client.ofConfiguration configuration).check send) arguments files.workingPath
      pure (outcome.exitStatus configuration.preserveNative) : Run Int).Ensures
        (.start files behaviours) report := by
    apply ran.bind
    · rintro acts left departure rfl
      exact ⟨rfl, rfl, rfl⟩
    · rintro acts later outcome rfl
      exact Run.ensures_pure ⟨List.append_nil acts, rfl, rfl⟩
  apply status.tryCatch
  · rintro acts left status ⟨rfl, rfl, ended⟩
    refine ⟨rfl, rfl, ?_⟩
    cases result : seen.result with
    | error departure => simp [result, Except.map] at ended
    | ok outcome => simpa [result, Except.map, concluded] using ended
  · rintro acts later departure ⟨rfl, left, ended⟩
    have departed : seen.result = .error departure := by
      cases result : seen.result with
      | error other => simpa [result, Except.map, eq_comm] using ended
      | ok outcome => simp [result, Except.map] at ended
    apply (told_ensures departure later).weaken
    rintro more files result ⟨rfl, rfl, rfl⟩
    exact ⟨List.append_nil _, left, by rw [departed, concluded]⟩

/-- With a configuration, the program does what the pipeline does with the words that are
handed on. -/
theorem course_eq (given : List GlobalOption) (arguments : List String)
    (send : Analysis.Request → Analysis.Response) (behaviours : List Child.Behaviour)
    (loads : Config.load files environment (homesOf accounts environment) (requestedBy given) =
      .ok configuration) :
    let seen := pipelineCourse accounts environment send configuration (forwarded arguments)
      files behaviours
    course accounts environment send (optionWords given ++ "yarn" :: arguments) files behaviours =
      ⟨seen.acts, seen.files, concluded configuration.preserveNative seen.result⟩ := by
  have ensures : (run environment send (optionWords given ++ "yarn" :: arguments) accounts).Ensures
      (.start files behaviours) fun acts left result =>
        let seen := pipelineCourse accounts environment send configuration
          (forwarded arguments) files behaviours
        acts = seen.acts ∧ left = seen.files ∧
          result = concluded configuration.preserveNative seen.result := by
    simp only [run, ofWords_runPackageManager, perform, configured]
    apply Run.ensures_get_bind
    rw [show (Session.start files behaviours).files = files from rfl, loads]
    exact runPackageManager_ensures accounts environment send configuration
      (forwarded arguments) files behaviours
  obtain ⟨acts, continues, rfl, left, result⟩ := ensures
  simp only [course, continues.acts_eq, left, result]

/-- An invocation that is handed through is one process, with the words that are handed
on. -/
theorem exists_process_of_passthrough (given : List GlobalOption)
    (send : Analysis.Request → Analysis.Response) (behaviours : List Child.Behaviour)
    (loads : Config.load files environment (homesOf accounts environment) (requestedBy given) =
      .ok configuration)
    (passed : Route.ofArguments (forwarded arguments) = .ok .passthrough) :
    ∃ process,
      (course accounts environment send (optionWords given ++ "yarn" :: arguments) files
        behaviours).acts = [.ran process] ∧
      process.start = ⟨configuration.packageManager :: forwarded arguments,
        files.workingPath⟩ := by
  have follows := Pipeline.followsProcess_of_passthrough
    (setupOf accounts environment configuration)
    ((Analysis.Client.ofConfiguration configuration).check send) files.workingPath passed
    files behaviours
  refine ⟨handedProcess (setupOf accounts environment configuration) (forwarded arguments)
    files.workingPath files behaviours, ?_, rfl⟩
  rw [course_eq given arguments send behaviours loads]
  exact follows.acts_eq

end

/-- What the program does with the words behind its command. -/
structure HandsOver (accounts : File.Homes) (environment : Config.Environment)
    (send : Analysis.Request → Analysis.Response) (given : List GlobalOption)
    (arguments : List String) (files : System) (behaviours : List Child.Behaviour)
    (configuration : Config.Configuration) (seen : Course) : Prop where
  /-- The program does what the pipeline does with the words that are handed on. -/
  seen_eq :
    let course := pipelineCourse accounts environment send configuration
      (forwarded arguments) files behaviours
    seen = ⟨course.acts, course.files, concluded configuration.preserveNative course.result⟩
  verbatim (unmarked : "--" ∉ arguments) : forwarded arguments = arguments
  marked (before after : List String) (words : arguments = before ++ "--" :: after)
    (unmarked : "--" ∉ before) : forwarded arguments = before ++ after
  passed (passed : Route.ofArguments (forwarded arguments) = .ok .passthrough) :
    ∃ process, seen.acts = [.ran process] ∧
      process.start = ⟨configuration.packageManager :: forwarded arguments, files.workingPath⟩

/-- A program whose configuration loads hands the words behind its command over as they
are, but for the first double dash. -/
theorem handsOver_of_loaded {accounts : File.Homes} {environment : Config.Environment}
    {given : List GlobalOption} {files : System} {configuration : Config.Configuration}
    (loads : Config.load files environment (homesOf accounts environment) (requestedBy given) =
      .ok configuration) (send : Analysis.Request → Analysis.Response)
    (arguments : List String) (behaviours : List Child.Behaviour) :
    HandsOver accounts environment send given arguments files behaviours configuration
      (course accounts environment send (optionWords given ++ "yarn" :: arguments) files
        behaviours) := by
  constructor
  case seen_eq => exact course_eq given arguments send behaviours loads
  case verbatim => exact forwarded_eq_self
  case marked =>
    rintro before after rfl unmarked
    exact forwarded_append unmarked after
  case passed => exact exists_process_of_passthrough given send behaviours loads

/-! ## A double dash -/

/-- A project with an empty configuration. -/
def configuredProject : System where
  nodes := [(["settings.json"], .file "\x7b\x7d".toUTF8 false)]
  workingDirectory := []

/-- Options that ask for the configuration of the project. -/
def projectOptions : List GlobalOption := [.shortVerbose, .configuration "settings.json"]

/-- The configuration of the project. -/
def projectConfiguration : Config.Configuration :=
  { Config.Configuration.default with source := some (File.Path.ofString "settings.json") }

theorem load_configuredProject :
    Config.load configuredProject [] (homesOf .standard []) (requestedBy projectOptions) =
      .ok projectConfiguration := by
  with_unfolding_all rfl

/-- A service that is not there. -/
def absentService : Analysis.Request → Analysis.Response :=
  fun _ => .unreachable "no connection"

theorem handsOver_configuredProject :
    Config.load configuredProject [] (homesOf .standard []) (requestedBy projectOptions) =
      .ok projectConfiguration ∧
    HandsOver .standard [] absentService projectOptions ["run", "--config", "--", "--help"]
      configuredProject [] projectConfiguration
      (course .standard [] absentService
        ["-v", "--config", "settings.json", "yarn", "run", "--config", "--", "--help"]
        configuredProject []) :=
  ⟨load_configuredProject,
    handsOver_of_loaded load_configuredProject absentService
      ["run", "--config", "--", "--help"] []⟩

/-- Not all words reach the process of an invocation that is handed through. -/
theorem not_forall_verbatim :
    ¬ ∀ accounts environment send given arguments files behaviours configuration,
      Config.load files environment (homesOf accounts environment) (requestedBy given) =
        .ok configuration →
      Route.ofArguments arguments = .ok .passthrough →
      ∃ process,
        (course accounts environment send (optionWords given ++ "yarn" :: arguments) files
          behaviours).acts = [.ran process] ∧
        process.start.command = configuration.packageManager :: arguments := by
  intro verbatim
  have given : Route.ofArguments ["run", "--", "x"] = .ok .passthrough := by
    with_unfolding_all rfl
  have left : Route.ofArguments (forwarded ["run", "--", "x"]) = .ok .passthrough := by
    with_unfolding_all rfl
  obtain ⟨process, ran, started⟩ :=
    verbatim .standard [] absentService projectOptions _ _ [] _ load_configuredProject given
  obtain ⟨actual, actuallyRan, start⟩ :=
    exists_process_of_passthrough projectOptions absentService [] load_configuredProject left
  rw [ran] at actuallyRan
  cases actuallyRan
  rw [start] at started
  revert started
  decide

end GuardedInstall.CommandLine
