import GuardedInstall.Proofs.Config.Document

/-!
# The order in which sources count

One file wins, and no other file counts, whatever it holds: two file systems that agree on the
file that wins and on what is there give the same configuration, or fail alike. Four variables
come before the document of that file, and the document before the defaults. The variables touch
nothing but the parts that they give, and a second look at them changes nothing.
-/

namespace GuardedInstall.Config

open GuardedInstall.Stepwise

/-! ## Two file systems -/

/-- Two file systems have the same at a path, as far as it can be read: nothing, a path that is
too long to be looked at, a directory, or files with the same content. -/
inductive SameAt (files files' : File.System) (path : File.Path) : Prop where
  | absent (absent : files.present path = .ok false) (absent' : files'.present path = .ok false)
  | tooLong (tooLong : files.IsTooLong path) (tooLong' : files'.IsTooLong path)
  | directory (stands : files.status path.toString = .ok .directory)
      (stands' : files'.status path.toString = .ok .directory)
  | file {content : File.Bytes} {executable executable' : Bool}
      (stands : files.status path.toString = .ok (.file content executable))
      (stands' : files'.status path.toString = .ok (.file content executable'))

/-- Two file systems agree on the file that wins and on what is there, or on that none wins. -/
inductive AgreeOnWinner (files files' : File.System) (environment : Environment)
    (homes : File.Homes) (requested : Option File.Path) : Prop where
  | file {path : File.Path} (wins : Wins files environment homes requested path)
      (wins' : Wins files' environment homes requested path) (same : SameAt files files' path)
  | nothing (unset : ∀ path, ¬ Wins files environment homes requested path)
      (unset' : ∀ path, ¬ Wins files' environment homes requested path)

variable {files files' : File.System} {environment environment' : Environment}
  {homes : File.Homes} {requested : Option File.Path} {path : File.Path}
  {configuration configuration' : Configuration}

theorem SameAt.present_eq (same : SameAt files files' path) :
    present files path = present files' path := by
  unfold present
  cases same with
  | absent absent absent' => rw [absent, absent']
  | tooLong tooLong tooLong' =>
      rw [File.System.present_eq_error_iff.mpr ⟨tooLong, rfl⟩,
        File.System.present_eq_error_iff.mpr ⟨tooLong', rfl⟩]
  | directory stands stands' => simp only [File.System.present, stands, stands']
  | file stands stands' => simp only [File.System.present, stands, stands']

theorem SameAt.loadFile_eq (same : SameAt files files' path)
    (there : files.present path = .ok true) : loadFile files path = loadFile files' path := by
  have read_eq : files.read path = files'.read path := by
    cases same with
    | absent absent => cases there.symm.trans absent
    | tooLong tooLong =>
        cases there.symm.trans (File.System.present_eq_error_iff.mpr ⟨tooLong, rfl⟩)
    | directory stands stands' => simp only [File.System.read, stands, stands']
    | file stands stands' =>
        simp only [File.System.read, stands, stands']
        rfl
  simp only [loadFile, read_eq]

/-- No file counts but the one that wins. -/
theorem load_eq_of_agreeOnWinner
    (agree : AgreeOnWinner files files' environment homes requested) :
    load files environment homes requested = load files' environment homes requested := by
  rw [load_eq, load_eq]
  congr 1
  unfold recorded
  cases agree with
  | @file path wins wins' same =>
      rw [source_of_wins wins, source_of_wins wins', same.present_eq]
      cases looked : present files' path with
      | error failure => rfl
      | ok there =>
          cases there with
          | false => rfl
          | true =>
              rw [← same.present_eq] at looked
              exact same.loadFile_eq (present_eq_ok_iff.mp looked)
  | nothing unset unset' =>
      rw [source_of_unset unset, source_of_unset unset']
      cases candidates environment homes <;> rfl

/-- While the preferred one of the standard files is there, nothing else counts: not what the
other one holds, nor whether that can be read. -/
theorem load_eq_of_preferred {base : File.Path} (unasked : asked? environment requested = none)
    (known : directory environment homes = .ok base)
    (there : files.present (base.child "config.toml") = .ok true)
    (same : SameAt files files' (base.child "config.toml")) :
    load files environment homes requested = load files' environment homes requested := by
  have candidates : candidates environment homes =
      .ok [base.child "config.toml", base.child "config.json"] := by
    rw [Config.candidates, known]
    rfl
  have there' : files'.present (base.child "config.toml") = .ok true := by
    rw [← present_eq_ok_iff, ← same.present_eq, present_eq_ok_iff]
    exact there
  exact load_eq_of_agreeOnWinner (.file (.standard unasked candidates .here (by simp [there]))
    (.standard unasked candidates .here (by simp [there'])) same)

/-! ## Variables that replace settings -/

/-- The variables that replace settings of a document. -/
def replacing : List String :=
  ["LOCKGUARD_API_URL", "LOCKGUARD_API_TOKEN", "LOCKGUARD_SANDBOX", "LOCKGUARD_PACKAGE_MANAGER"]

/-- Two environments agree on all variables that replace no setting. -/
def AgreeBesides (environment environment' : Environment) : Prop :=
  ∀ name, name ∉ replacing → environment.lookup name = environment'.lookup name

/-- Two configurations are the same in all parts that no variable replaces. -/
structure SameRest (configuration configuration' : Configuration) : Prop where
  runtime : configuration.runtime = configuration'.runtime
  extraWritable : configuration.extraWritable = configuration'.extraWritable
  apiTimeout : configuration.apiTimeout = configuration'.apiTimeout
  project : configuration.project = configuration'.project
  preserveNative : configuration.preserveNative = configuration'.preserveNative
  source : configuration.source = configuration'.source

theorem AgreeBesides.given?_eq (agree : AgreeBesides environment environment') {name : String}
    (other : name ∉ replacing) : environment.given? name = environment'.given? name := by
  rw [Environment.given?, Environment.given?, agree name other]

/-- The file and its document do not depend on the variables that replace settings. -/
theorem AgreeBesides.recorded_eq (agree : AgreeBesides environment environment') :
    recorded files environment homes requested = recorded files environment' homes requested := by
  have named : environment.given? "LOCKGUARD_CONFIG" = environment'.given? "LOCKGUARD_CONFIG" :=
    agree.given?_eq (by decide)
  have base : environment.given? "XDG_CONFIG_HOME" = environment'.given? "XDG_CONFIG_HOME" :=
    agree.given?_eq (by decide)
  simp only [recorded, source, candidates, directory, named, base]

/-- Variables replace four parts, and leave the rest as it is. -/
theorem sameRest_of_override
    (replaces : override environment configuration = .ok configuration') :
    SameRest configuration configuration' := by
  obtain ⟨launcher, -, rfl⟩ := override_eq_ok_iff.mp replaces
  exact ⟨rfl, rfl, rfl, rfl, rfl, rfl⟩

theorem sameRest_of_load (agree : AgreeBesides environment environment')
    (loaded : load files environment homes requested = .ok configuration)
    (loaded' : load files environment' homes requested = .ok configuration') :
    SameRest configuration configuration' := by
  rw [load_eq, bind_eq_ok_iff] at loaded loaded'
  obtain ⟨before, recorded, replaces⟩ := loaded
  obtain ⟨before', recorded', replaces'⟩ := loaded'
  rw [agree.recorded_eq] at recorded
  cases recorded.symm.trans recorded'
  have rest := sameRest_of_override replaces
  have rest' := sameRest_of_override replaces'
  exact ⟨rest.runtime.symm.trans rest'.runtime, rest.extraWritable.symm.trans rest'.extraWritable,
    rest.apiTimeout.symm.trans rest'.apiTimeout, rest.project.symm.trans rest'.project,
    rest.preserveNative.symm.trans rest'.preserveNative, rest.source.symm.trans rest'.source⟩

theorem replaced_replaced (launcher : Option (List String)) :
    replaced environment launcher (replaced environment launcher configuration) =
      replaced environment launcher configuration := by
  have getD_getD {α : Type} (given? : Option α) (default : α) :
      given?.getD (given?.getD default) = given?.getD default := by
    cases given? <;> rfl
  have orElse_orElse (given? default : Option String) :
      (given? <|> given? <|> default) = (given? <|> default) := by
    cases given? <;> rfl
  simp only [replaced, getD_getD, orElse_orElse]

/-- Replacing settings again changes nothing. -/
theorem override_override (environment : Environment) (configuration : Configuration) :
    override environment configuration >>= override environment =
      override environment configuration := by
  cases replaces : override environment configuration with
  | error failure => rfl
  | ok after =>
      obtain ⟨launcher, named, rfl⟩ := override_eq_ok_iff.mp replaces
      exact override_eq_ok_iff.mpr ⟨launcher, named, (replaced_replaced launcher).symm⟩

/-! ## Precedence -/

/-- The order in which the sources of a configuration count. -/
structure FollowsPrecedence (environment : Environment) (homes : File.Homes)
    (requested : Option File.Path) : Prop where
  /-- Only the file that wins counts. -/
  winner {files files' : File.System}
    (agree : AgreeOnWinner files files' environment homes requested) :
    load files environment homes requested = load files' environment homes requested
  /-- A configuration is loaded if a document decides on it and is accepted, and the launcher
  that the environment names has words. -/
  loads_iff (files : File.System) :
    (∃ configuration, load files environment homes requested = .ok configuration) ↔
      Loads files environment homes requested
  /-- Four variables come before the document, and the document before the defaults. -/
  chosen {files : File.System} {configuration : Configuration}
    (loaded : load files environment homes requested = .ok configuration)
    {origin : Option File.Path} {settings : Table}
    (decides : Decides files environment homes requested origin settings) :
    Chooses environment origin settings configuration
  /-- The four variables touch nothing but their own parts. -/
  rest {files : File.System} {environment' : Environment}
    {configuration configuration' : Configuration}
    (agree : AgreeBesides environment environment')
    (loaded : load files environment homes requested = .ok configuration)
    (loaded' : load files environment' homes requested = .ok configuration') :
    SameRest configuration configuration'
  /-- Replacing settings again changes nothing. -/
  again (configuration : Configuration) :
    override environment configuration >>= override environment =
      override environment configuration

/-- The sources of a configuration count in the same order in every environment. -/
theorem followsPrecedence (environment : Environment) (homes : File.Homes)
    (requested : Option File.Path) : FollowsPrecedence environment homes requested := by
  constructor
  case winner =>
    intro files files' agree
    exact load_eq_of_agreeOnWinner agree
  case loads_iff =>
    intro files
    exact succeeds_load_iff
  case chosen =>
    intro files configuration loaded origin settings decides
    exact decides.chooses loaded
  case rest =>
    intro files environment' configuration configuration' agree loaded loaded'
    exact sameRest_of_load agree loaded loaded'
  case again =>
    intro configuration
    exact override_override environment configuration

end GuardedInstall.Config
