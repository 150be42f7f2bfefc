import GuardedInstall.Proofs.CommandLine.Forwarding
import GuardedInstall.Proofs.Config.Faults
import GuardedInstall.Proofs.Lockfile.Reading

/-!
# A program without a configuration

An invocation that needs a configuration and gets none does nothing at all. A refusal ends
the program with the status of wrong usage. A fault of loading is no status but a departure,
and it comes from nowhere but the faults of loading: a home directory that is none, a path
that is too long, a number that is too large, a launcher with open quotes. Documents may
nest to any depth: a limit on the recursion of their readers is left aside.
-/

namespace GuardedInstall.CommandLine

open GuardedInstall.File (System)

/-- The configuration file that an invocation asks for, if it needs a configuration. -/
def Invocation.configuration? : Invocation → Option (Option File.Path)
  | .showVersion => none
  | .runPackageManager requested _ => some requested
  | .showPolicy requested _ _ => some requested

/-- The words of a command line need a configuration, from a requested file or from any. -/
def NeedsConfiguration (words : List String) (requested : Option File.Path) : Prop :=
  (Invocation.ofWords words).bind Invocation.configuration? = some requested

/-- What a program without a configuration comes to. -/
def unconfigured : Config.Failure → Except Departure Int
  | .refused _ => .ok ExitCode.usage.number
  | .fault fault => .error (.configuration fault)

section

variable {accounts : File.Homes} {environment : Config.Environment}
  {send : Analysis.Request → Analysis.Response} {requested : Option File.Path}
  {failure : Config.Failure} {words : List String} {files : System}
  {behaviours : List Child.Behaviour}

theorem configured_ensures_of_failed
    (failed : Config.load files environment (homesOf accounts environment) requested =
      .error failure)
    (body : Config.Configuration → Run Int) (behaviours : List Child.Behaviour) :
    (configured accounts environment requested body).Ensures (.start files behaviours)
      fun acts left result => acts = [] ∧ left = files ∧ result = unconfigured failure := by
  unfold configured
  apply Run.ensures_get_bind
  rw [show (Session.start files behaviours).files = files from rfl, failed]
  cases failure with
  | refused refusal =>
      apply (Run.tells_say _ _).ensures_bind
      intro later same
      exact Run.ensures_pure ⟨rfl, same, rfl⟩
  | fault fault => exact Run.ensures_throw ⟨rfl, rfl, rfl⟩

/-- Without its configuration a program starts no process and changes no file. -/
theorem course_of_failed
    (failed : Config.load files environment (homesOf accounts environment) requested =
      .error failure)
    (needs : NeedsConfiguration words requested) (send : Analysis.Request → Analysis.Response)
    (behaviours : List Child.Behaviour) :
    course accounts environment send words files behaviours =
      ⟨[], files, unconfigured failure⟩ := by
  have ensures : (run environment send words accounts).Ensures (.start files behaviours)
      fun acts left result => acts = [] ∧ left = files ∧ result = unconfigured failure := by
    unfold NeedsConfiguration at needs
    obtain ⟨invocation, invoked, asks⟩ := Option.bind_eq_some_iff.mp needs
    simp only [run, invoked]
    cases invocation with
    | showVersion => cases asks
    | runPackageManager asked arguments =>
        cases asks
        exact configured_ensures_of_failed failed _ behaviours
    | showPolicy asked stage root =>
        cases asks
        exact configured_ensures_of_failed failed _ behaviours
  obtain ⟨acts, continues, rfl, left, result⟩ := ensures
  simp only [course, continues.acts_eq, left, result]

end

/-- What comes of a configuration that cannot be loaded. -/
structure TellsUnloadable (accounts : File.Homes) (files : System)
    (environment : Config.Environment) (requested : Option File.Path) : Prop where
  /-- Loading is at fault for the faults of loading, and for nothing else. -/
  fault_iff (fault : Config.Fault) :
    Config.load files environment (homesOf accounts environment) requested =
        .error (.fault fault) ↔
      Config.Faulty files environment (homesOf accounts environment) requested fault
  /-- A refusal is the status of wrong usage. -/
  refused {refusal : Config.Refusal}
    (refused : Config.load files environment (homesOf accounts environment) requested =
      .error (.refused refusal))
    {words : List String} (needs : NeedsConfiguration words requested)
    (send : Analysis.Request → Analysis.Response) (behaviours : List Child.Behaviour) :
    course accounts environment send words files behaviours = ⟨[], files, .ok 125⟩
  /-- A fault is no status. -/
  departed {fault : Config.Fault}
    (faulty : Config.Faulty files environment (homesOf accounts environment) requested fault)
    {words : List String} (needs : NeedsConfiguration words requested)
    (send : Analysis.Request → Analysis.Response) (behaviours : List Child.Behaviour) :
    course accounts environment send words files behaviours =
      ⟨[], files, .error (.configuration fault)⟩

/-- A configuration is loaded, or refused with a status, or at fault, whatever stands in the
files and in the environment. -/
theorem tellsUnloadable (accounts : File.Homes) (files : System)
    (environment : Config.Environment) (requested : Option File.Path) :
    TellsUnloadable accounts files environment requested := by
  constructor
  case fault_iff =>
    intro fault
    exact Config.load_eq_fault_iff
  case refused =>
    intro refusal refused words needs send behaviours
    exact course_of_failed refused needs send behaviours
  case departed =>
    intro fault faulty words needs send behaviours
    exact course_of_failed (Config.load_eq_fault_iff.mpr faulty) needs send behaviours

/-! ## A number that is too large -/

/-- The text of a configuration whose limit of time is a power of ten. -/
def patientText (zeros : Nat) : List Char :=
  "\x7b\"analysis\":\x7b\"timeout\":1".toList ++ List.replicate zeros '0' ++ "\x7d\x7d".toList

/-- A project with such a configuration. -/
def patientProject (zeros : Nat) : System where
  nodes :=
    [(["settings.json"], .file (String.ofList (patientText zeros)).toUTF8 false)]
  workingDirectory := []

/-- The configuration file of the project. -/
def settingsPath : File.Path := File.Path.ofString "settings.json"

/-- An environment with a home directory and nothing else. -/
def homeEnvironment : Config.Environment := [("HOME", "/home/u")]

theorem holdsText_patientProject (zeros : Nat) :
    Config.HoldsText (patientProject zeros) settingsPath (patientText zeros) := by
  refine ⟨_, String.ofList (patientText zeros), ?_, Lockfile.fromUTF8?_toUTF8 _, ?_⟩
  · with_unfolding_all rfl
  · rw [String.toList_ofList]

theorem faulty_patientProject :
    Config.Faulty (patientProject 309) homeEnvironment (homesOf .standard homeEnvironment)
      (some settingsPath) .numberTooLarge := by
  have failed : Config.ofText settingsPath (patientText 309) = .error (.fault .numberTooLarge) := by
    -- The text is read by the kernel, which compares the limit with all floating-point numbers.
    rw [← Config.fault?_eq_some_iff]
    decide +kernel
  exact .document (.asked rfl) (holdsText_patientProject 309)
    (Config.ofText_eq_fault_iff.mp failed)

/-- With a home directory and a file that can be read, loading may fail without a refusal. -/
theorem not_forall_refused_or_loaded :
    ¬ ∀ accounts files environment requested failure,
      (∃ home, environment.lookup "HOME" = some home) →
      Config.load files environment (homesOf accounts environment) requested = .error failure →
      ∃ refusal, failure = .refused refusal := by
  intro refuses
  have failed := Config.load_eq_fault_iff.mpr faulty_patientProject
  obtain ⟨refusal, refused⟩ := refuses _ _ _ _ _ ⟨"/home/u", rfl⟩ failed
  cases refused

end GuardedInstall.CommandLine
