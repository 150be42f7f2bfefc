import GuardedInstall.Proofs.Config.Faults

/-!
# What a configuration is taken from

One file wins: the one that is asked for, or else the first of the standard ones that is there.
Its document is read, and without such a file a document that sets nothing. Every part of a
configuration is what its setting in the document says, or its default, before the environment
replaces it.
-/

namespace GuardedInstall.Config

open GuardedInstall.Stepwise

/-! ## Settings -/

namespace Setting

/-- The text of a setting that is one and is not empty. -/
def filledText? (setting : Setting) : Option String :=
  setting.text?.filter (· ≠ "")

/-- The text of a setting that may also say that there is none. -/
def optionalText? : Setting → Option (Option String)
  | null => some none
  | setting => setting.filledText?.map some

/-- The texts of a setting that is a list of them. -/
def texts? : Setting → Option (List String)
  | list items => items.mapM text?
  | _ => none

/-- The number of a setting that is not at most zero. -/
def positive? : Setting → Option Float
  | integer value => if value ≤ 0 then none else Decimal.realOfInteger? value
  | real value => if value ≤ 0 then none else some value
  | _ => none

/-- The flag of a setting that is one. -/
def flag? : Setting → Option Bool
  | flag value => some value
  | _ => none

/-- The entries of a setting that is a table. -/
def entries : Setting → Table
  | table entries => entries
  | _ => []

end Setting

/-- A value that a reading takes from a setting, or that is the default without a setting. -/
inductive Taken {α : Type} (reading : Setting → Option α) (default : α) :
    Option Setting → α → Prop where
  | unset : Taken reading default none default
  | set {setting : Setting} {value : α} (read : reading setting = some value) :
      Taken reading default (some setting) value

namespace Table

variable {settings : Table} {name : String}

/-- The setting at a name in a section of a document. -/
def within (settings : Table) (part name : String) : Option Setting :=
  (GuardedInstall.Table.find? part settings).bind fun setting =>
    GuardedInstall.Table.find? name setting.entries

theorem find?_of_tableAt {part : String} {entries : Table}
    (found : settings.tableAt part = .ok entries) (name : String) :
    GuardedInstall.Table.find? name entries = settings.within part name := by
  unfold tableAt at found
  unfold within
  split at found
  case h_1 missing =>
    cases found
    simp [missing, GuardedInstall.Table.find?]
  case h_2 there =>
    cases found
    simp [there, Setting.entries]
  case h_3 => cases found

theorem taken_of_textAt {default value : String}
    (found : settings.textAt name default = .ok value) :
    Taken Setting.filledText? default (GuardedInstall.Table.find? name settings) value := by
  unfold textAt at found
  generalize GuardedInstall.Table.find? name settings = setting? at found ⊢
  rcases setting? with _ | setting
  · dsimp only at found
    split at found <;> cases found
    exact .unset
  · cases setting with
    | text value =>
        dsimp only at found
        split at found
        case isTrue => cases found
        case isFalse filled =>
          cases found
          exact .set (by simp [Setting.filledText?, Setting.text?, filled])
    | _ => cases found

theorem taken_of_optionalTextAt {value : Option String}
    (found : settings.optionalTextAt name = .ok value) :
    Taken Setting.optionalText? none (GuardedInstall.Table.find? name settings) value := by
  have filled {text : String} (given : settings.textAt name "" = .ok text) :=
    taken_of_textAt given
  unfold optionalTextAt at found
  generalize settings.textAt name "" = given at found filled
  generalize GuardedInstall.Table.find? name settings = setting? at found filled ⊢
  rcases setting? with _ | setting
  · cases found
    exact .unset
  · cases setting with
    | null =>
        cases found
        exact .set rfl
    | _ =>
        cases given with
        | error unusable => cases found
        | ok text =>
            cases found
            cases filled rfl with
            | set read => exact .set (by simp [Setting.optionalText?, read])

theorem taken_of_textListAt {default value : List String}
    (found : settings.textListAt name default = .ok value) :
    Taken Setting.texts? default (GuardedInstall.Table.find? name settings) value := by
  unfold textListAt at found
  generalize GuardedInstall.Table.find? name settings = setting? at found ⊢
  rcases setting? with _ | setting
  · cases found
    exact .unset
  · cases setting with
    | list items =>
        dsimp only at found
        split at found
        case h_1 read =>
          cases found
          exact .set read
        case h_2 => cases found
    | _ => cases found

theorem taken_of_positiveAt {default value : Float}
    (found : settings.positiveAt name default = .ok value) :
    Taken Setting.positive? default (GuardedInstall.Table.find? name settings) value := by
  unfold positiveAt at found
  generalize GuardedInstall.Table.find? name settings = setting? at found ⊢
  rcases setting? with _ | setting
  · cases found
    exact .unset
  · cases setting with
    | integer amount =>
        dsimp only at found
        split at found
        case isTrue => cases found
        case isFalse above =>
          split at found
          case h_1 converted =>
            cases found
            exact .set (by simpa [Setting.positive?, above] using converted)
          case h_2 => cases found
    | real amount =>
        dsimp only at found
        split at found
        case isTrue => cases found
        case isFalse above =>
          cases found
          exact .set (by simp [Setting.positive?, above])
    | _ => cases found

theorem taken_of_flagAt {default value : Bool}
    (found : settings.flagAt name default = .ok value) :
    Taken Setting.flag? default (GuardedInstall.Table.find? name settings) value := by
  unfold flagAt at found
  generalize GuardedInstall.Table.find? name settings = setting? at found ⊢
  rcases setting? with _ | setting
  · cases found
    exact .unset
  · cases setting with
    | flag value =>
        cases found
        exact .set rfl
    | _ => cases found

end Table

/-! ## Documents and variables -/

/-- A value that a variable gives if it is set, and that is else taken from a setting. -/
inductive Chosen {α : Type} (parse : String → Option α) (reading : Setting → Option α)
    (default : α) : Option String → Option Setting → α → Prop where
  | environment {text : String} {setting? : Option Setting} {value : α}
      (parsed : parse text = some value) :
      Chosen parse reading default (some text) setting? value
  | document {setting? : Option Setting} {value : α}
      (taken : Taken reading default setting? value) :
      Chosen parse reading default none setting? value

/-- What an environment and a document make of a configuration. Four parts are given by
variables if these are set. Every other part, and each of the four without its variable, is what
its setting says, or its default. The configuration remembers the file of the document. -/
structure Chooses (environment : Environment) (origin : Option File.Path) (settings : Table)
    (configuration : Configuration) : Prop where
  packageManager : Chosen some Setting.filledText? Configuration.default.packageManager
    (environment.given? "LOCKGUARD_PACKAGE_MANAGER")
    (GuardedInstall.Table.find? "package_manager" settings) configuration.packageManager
  launcher : Chosen (fun text => (Text.Words.split text).toOption) Setting.texts?
    Configuration.default.launcher (environment.given? "LOCKGUARD_SANDBOX")
    (settings.within "sandbox" "launcher") configuration.launcher
  apiUrl : ∃ text, configuration.apiUrl = Configuration.trimSlashes text ∧
    Chosen some Setting.filledText? Configuration.default.apiUrl
      (environment.given? "LOCKGUARD_API_URL") (settings.within "analysis" "api_url") text
  apiToken : Chosen (fun text => some (some text)) Setting.optionalText?
    Configuration.default.apiToken (environment.given? "LOCKGUARD_API_TOKEN")
    (settings.within "analysis" "api_token") configuration.apiToken
  runtime : Taken Setting.filledText? Configuration.default.runtime
    (GuardedInstall.Table.find? "runtime" settings) configuration.runtime
  extraWritable : Taken Setting.texts? Configuration.default.extraWritable
    (settings.within "sandbox" "extra_writable") configuration.extraWritable
  apiTimeout : Taken Setting.positive? Configuration.default.apiTimeout
    (settings.within "analysis" "timeout") configuration.apiTimeout
  project : Taken Setting.optionalText? Configuration.default.project
    (settings.within "analysis" "project") configuration.project
  preserveNative : Taken Setting.flag? Configuration.default.preserveNative
    (settings.within "exit_codes" "preserve_native") configuration.preserveNative
  source : configuration.source = origin

variable {files : File.System} {environment : Environment} {homes : File.Homes}
  {requested : Option File.Path} {path : File.Path} {origin : Option File.Path}
  {settings : Table} {configuration before after : Configuration}

/-- Before the environment is looked at, the document alone decides. -/
theorem chooses_of_ofTable
    (made : Configuration.ofTable settings origin = .ok configuration) :
    Chooses [] origin settings configuration := by
  obtain ⟨sandbox, hasSandbox, made⟩ := bind_eq_ok_iff.mp made
  obtain ⟨analysis, hasAnalysis, made⟩ := bind_eq_ok_iff.mp made
  obtain ⟨exitCodes, hasExitCodes, made⟩ := bind_eq_ok_iff.mp made
  obtain ⟨packageManager, hasManager, made⟩ := bind_eq_ok_iff.mp made
  obtain ⟨runtime, hasRuntime, made⟩ := bind_eq_ok_iff.mp made
  obtain ⟨launcher, hasLauncher, made⟩ := bind_eq_ok_iff.mp made
  obtain ⟨writable, hasWritable, made⟩ := bind_eq_ok_iff.mp made
  obtain ⟨apiUrl, hasUrl, made⟩ := bind_eq_ok_iff.mp made
  obtain ⟨apiToken, hasToken, made⟩ := bind_eq_ok_iff.mp made
  obtain ⟨apiTimeout, hasTimeout, made⟩ := bind_eq_ok_iff.mp made
  obtain ⟨project, hasProject, made⟩ := bind_eq_ok_iff.mp made
  obtain ⟨preserveNative, hasFlag, made⟩ := bind_eq_ok_iff.mp made
  cases made
  have inSandbox := Table.find?_of_tableAt hasSandbox
  have inAnalysis := Table.find?_of_tableAt hasAnalysis
  have inExitCodes := Table.find?_of_tableAt hasExitCodes
  exact {
    packageManager := .document (Table.taken_of_textAt hasManager)
    launcher := .document (inSandbox _ ▸ Table.taken_of_textListAt hasLauncher)
    apiUrl := ⟨apiUrl, rfl, .document (inAnalysis _ ▸ Table.taken_of_textAt hasUrl)⟩
    apiToken := .document (inAnalysis _ ▸ Table.taken_of_optionalTextAt hasToken)
    runtime := Table.taken_of_textAt hasRuntime
    extraWritable := inSandbox _ ▸ Table.taken_of_textListAt hasWritable
    apiTimeout := inAnalysis _ ▸ Table.taken_of_positiveAt hasTimeout
    project := inAnalysis _ ▸ Table.taken_of_optionalTextAt hasProject
    preserveNative := inExitCodes _ ▸ Table.taken_of_flagAt hasFlag
    source := rfl }

/-- A document that sets nothing leaves every part at its default. -/
theorem ofTable_nil : Configuration.ofTable [] none = .ok Configuration.default := by
  rfl

/-- The configuration with the parts that variables give. -/
def replaced (environment : Environment) (launcher : Option (List String))
    (configuration : Configuration) : Configuration :=
  { configuration with
    apiUrl := ((environment.given? "LOCKGUARD_API_URL").map Configuration.trimSlashes).getD
      configuration.apiUrl
    apiToken := environment.given? "LOCKGUARD_API_TOKEN" <|> configuration.apiToken
    launcher := launcher.getD configuration.launcher
    packageManager := (environment.given? "LOCKGUARD_PACKAGE_MANAGER").getD
      configuration.packageManager }

/-- A launcher is named by the words of a text, if there are any. -/
theorem launcherOf_eq_ok_iff {text : String} {words : List String} :
    launcherOf text = .ok words ↔ Text.Words.split text = .ok words ∧ words ≠ [] := by
  unfold launcherOf
  cases Text.Words.split text with
  | error error => simp [Except.mapError]
  | ok found =>
      cases found with
      | nil =>
          refine iff_of_false (by rintro ⟨⟩) ?_
          rintro ⟨⟨⟩, nonempty⟩
          exact nonempty rfl
      | cons word rest =>
          constructor
          · rintro ⟨⟩
            exact ⟨rfl, by simp⟩
          · rintro ⟨⟨⟩, -⟩
            rfl

/-- The environment replaces parts of a configuration if the launcher that it names has words. -/
theorem override_eq_ok_iff :
    override environment before = .ok after ↔
      ∃ launcher, (environment.given? "LOCKGUARD_SANDBOX").mapM launcherOf = .ok launcher ∧
        after = replaced environment launcher before := by
  refine bind_eq_ok_iff.trans (exists_congr fun launcher => and_congr_right fun _ => ?_)
  exact ⟨fun same => (Except.ok.inj same).symm, fun same => congrArg Except.ok same.symm⟩

/-- A variable replaces what a document gives, if it is set. -/
theorem Chosen.replace {α : Type} {parse : String → Option α} {reading : Setting → Option α}
    {default before after : α} {given? : Option String} {setting? : Option Setting}
    (chosen : Chosen parse reading default none setting? before)
    (given : ∀ text, given? = some text → parse text = some after)
    (unset : given? = none → after = before) :
    Chosen parse reading default given? setting? after := by
  cases given? with
  | none =>
      rw [unset rfl]
      exact chosen
  | some text => exact .environment (given text rfl)

/-- Behind a document, the environment decides on the parts that it gives. -/
theorem Chooses.override (chooses : Chooses [] origin settings before)
    (replaces : override environment before = .ok after) :
    Chooses environment origin settings after := by
  obtain ⟨launcher, named, rfl⟩ := override_eq_ok_iff.mp replaces
  constructor
  case packageManager =>
    refine chooses.packageManager.replace ?_ ?_
    · intro text given
      simp [replaced, given]
    · intro unset
      simp [replaced, unset]
  case launcher =>
    rcases option_mapM_eq_ok_iff.mp named with ⟨unset, rfl⟩ | ⟨text, words, given, cut, rfl⟩
    · exact chooses.launcher.replace (by simp [unset]) fun _ => rfl
    · rw [given]
      exact .environment (by simp [replaced, (launcherOf_eq_ok_iff.mp cut).1, Except.toOption])
  case apiUrl =>
    obtain ⟨text, trimmed, chosen⟩ := chooses.apiUrl
    refine ⟨(environment.given? "LOCKGUARD_API_URL").getD text, ?_, chosen.replace ?_ ?_⟩
    · cases given : environment.given? "LOCKGUARD_API_URL" with
      | none => simp [replaced, given, trimmed]
      | some address => simp [replaced, given]
    · intro address given
      simp [given]
    · intro unset
      simp [unset]
  case apiToken =>
    refine chooses.apiToken.replace ?_ ?_
    · intro text given
      simp [replaced, given]
    · intro unset
      simp [replaced, unset]
  case runtime => exact chooses.runtime
  case extraWritable => exact chooses.extraWritable
  case apiTimeout => exact chooses.apiTimeout
  case project => exact chooses.project
  case preserveNative => exact chooses.preserveNative
  case source => exact chooses.source

/-! ## The file that wins -/

/-- The file that wins: the one that is asked for, or else the first of the standard ones that
is there, or of which it cannot be told. -/
inductive Wins (files : File.System) (environment : Environment) (homes : File.Homes)
    (requested : Option File.Path) (path : File.Path) : Prop where
  | asked (asked : asked? environment requested = some path)
  | standard {paths : List File.Path} (unasked : asked? environment requested = none)
      (known : candidates environment homes = .ok paths) (reached : IsReached files path paths)
      (found : files.present path ≠ .ok false)

/-- The document that a configuration is taken from, and its file: that of the file that wins,
and without one a document that sets nothing. -/
inductive Decides (files : File.System) (environment : Environment) (homes : File.Homes)
    (requested : Option File.Path) : Option File.Path → Table → Prop where
  | document {path : File.Path} {text : List Char} {settings : Table}
      (wins : Wins files environment homes requested path) (holds : HoldsText files path text)
      (decoded : decode (formatOf path) text = .ok (some settings)) :
      Decides files environment homes requested (some path) settings
  | nothing {paths : List File.Path} (known : candidates environment homes = .ok paths)
      (unset : ∀ path, ¬ Wins files environment homes requested path) :
      Decides files environment homes requested none []

theorem IsReached.eq {other : File.Path} {paths : List File.Path}
    (reached : IsReached files path paths) (found : files.present path ≠ .ok false)
    (reached' : IsReached files other paths) (found' : files.present other ≠ .ok false) :
    path = other := by
  induction reached with
  | here =>
      cases reached' with
      | here => rfl
      | later absent => exact absurd absent found
  | later absent _ ih =>
      cases reached' with
      | here => exact absurd absent found'
      | later _ later => exact ih later

/-- At most one file wins. -/
theorem Wins.eq {other : File.Path} (wins : Wins files environment homes requested path)
    (wins' : Wins files environment homes requested other) : path = other := by
  rcases wins with asked | ⟨unasked, known, reached, found⟩ <;>
    rcases wins' with asked' | ⟨unasked', known', reached', found'⟩
  · exact Option.some.inj (asked.symm.trans asked')
  · cases asked.symm.trans unasked'
  · cases unasked.symm.trans asked'
  · cases known.symm.trans known'
    exact reached.eq found reached' found'

theorem HoldsText.eq {text text' : List Char} (holds : HoldsText files path text)
    (holds' : HoldsText files path text') : text = text' := by
  obtain ⟨content, whole, read, decoded, rfl⟩ := holds
  obtain ⟨content', whole', read', decoded', rfl⟩ := holds'
  cases read.symm.trans read'
  cases decoded.symm.trans decoded'
  rfl

theorem HoldsText.present {text : List Char} (holds : HoldsText files path text) :
    files.present path = .ok true := by
  obtain ⟨content, -, read, -⟩ := holds
  exact File.System.present_of_read read

/-- At most one document decides. -/
theorem Decides.eq {origin' : Option File.Path} {settings' : Table}
    (decides : Decides files environment homes requested origin settings)
    (decides' : Decides files environment homes requested origin' settings') :
    origin = origin' ∧ settings = settings' := by
  rcases decides with ⟨wins, holds, decoded⟩ | ⟨-, unset⟩ <;>
    rcases decides' with ⟨wins', holds', decoded'⟩ | ⟨-, unset'⟩
  · cases wins.eq wins'
    cases holds.eq holds'
    cases decoded.symm.trans decoded'
    exact ⟨rfl, rfl⟩
  · exact absurd wins (unset' _)
  · exact absurd wins' (unset _)
  · exact ⟨rfl, rfl⟩

/-- A search looks at the first path that is not absent. -/
theorem firstPresent_of_reached {paths : List File.Path}
    (reached : IsReached files path paths) (found : files.present path ≠ .ok false) :
    firstPresent files paths = present files path >>= fun there =>
      if there then .ok (some path) else .error (.refused (.notFound path.toString)) := by
  induction reached with
  | here =>
      rw [firstPresent_cons]
      cases looked : present files path with
      | error failure => rfl
      | ok there =>
          cases there with
          | true => rfl
          | false => exact absurd (present_eq_ok_iff.mp looked) found
  | later absent _ ih =>
      rw [firstPresent_cons, present_eq_ok_iff.mpr absent]
      exact ih

/-- A search comes to a path, unless all of them are absent. -/
theorem firstPresent_of_unreached {paths : List File.Path}
    (unreached : ∀ path, IsReached files path paths → files.present path = .ok false) :
    firstPresent files paths = .ok none := by
  induction paths with
  | nil => rfl
  | cons other rest ih =>
      have absent := unreached other .here
      rw [firstPresent_cons, present_eq_ok_iff.mpr absent]
      exact ih fun path reached => unreached path (.later absent reached)

/-- The file that wins is read if it is there. -/
theorem source_of_wins (wins : Wins files environment homes requested path) :
    source files environment homes requested = present files path >>= fun there =>
      if there then .ok (some path) else .error (.refused (.notFound path.toString)) := by
  cases wins with
  | asked asked => exact source_of_asked asked
  | standard unasked known reached found =>
      rw [source_of_unasked unasked, known]
      exact firstPresent_of_reached reached found

/-- Without a file that wins, no file is read. -/
theorem source_of_unset (unset : ∀ path, ¬ Wins files environment homes requested path) :
    source files environment homes requested =
      candidates environment homes >>= fun _ => .ok none := by
  have unasked : asked? environment requested = none := by
    cases asked : asked? environment requested with
    | none => rfl
    | some path => exact absurd (.asked asked) (unset path)
  rw [source_of_unasked unasked]
  cases known : candidates environment homes with
  | error failure => rfl
  | ok paths =>
      refine firstPresent_of_unreached fun path reached => ?_
      by_contra found
      exact unset path (.standard unasked known reached found)

/-- A file is read if it wins and is there. -/
theorem wins_of_source
    (found : source files environment homes requested = .ok (some path)) :
    Wins files environment homes requested path := by
  by_cases won : ∃ winner, Wins files environment homes requested winner
  · obtain ⟨winner, wins⟩ := won
    rw [source_of_wins wins, bind_eq_ok_iff] at found
    obtain ⟨there, -, found⟩ := found
    cases there <;> cases found
    exact wins
  · rw [source_of_unset (not_exists.mp won), bind_eq_ok_iff] at found
    obtain ⟨-, -, ⟨⟩⟩ := found

/-- No file is read if none wins. -/
theorem decides_of_source
    (found : source files environment homes requested = .ok none) :
    Decides files environment homes requested none [] := by
  have unset (path : File.Path) : ¬ Wins files environment homes requested path := by
    intro wins
    rw [source_of_wins wins, bind_eq_ok_iff] at found
    obtain ⟨there, -, found⟩ := found
    cases there <;> cases found
  rw [source_of_unset unset, bind_eq_ok_iff] at found
  obtain ⟨paths, known, -⟩ := found
  exact .nothing known unset

/-! ## Loading -/

theorem ofDocument_eq_ok_iff {document : Option Table} :
    ofDocument path document = .ok configuration ↔
      ∃ settings, document = some settings ∧
        Configuration.ofTable settings (some path) = .ok configuration := by
  cases document with
  | none => simp [ofDocument]
  | some settings =>
      simp only [ofDocument, Option.some.injEq, exists_eq_left']
      cases Configuration.ofTable settings (some path) with
      | ok made => simp
      | error unusable => cases unusable <;> simp

theorem ofText_eq_ok_iff {text : List Char} :
    ofText path text = .ok configuration ↔
      ∃ settings, decode (formatOf path) text = .ok (some settings) ∧
        Configuration.ofTable settings (some path) = .ok configuration := by
  unfold ofText
  cases decode (formatOf path) text with
  | ok document => simp [ofDocument_eq_ok_iff]
  | error error => cases error <;> simp

/-- A file gives a configuration if it holds a text that does. -/
theorem loadFile_eq_ok_iff :
    loadFile files path = .ok configuration ↔
      ∃ text, HoldsText files path text ∧ ofText path text = .ok configuration := by
  constructor
  · intro loaded
    obtain ⟨text, holds⟩ : ∃ text, HoldsText files path text := by
      cases read : files.read path with
      | error error =>
          simp only [loadFile, read] at loaded
          split at loaded <;> cases loaded
      | ok content =>
          cases decoded : String.fromUTF8? content with
          | none => simp [loadFile, read, decoded] at loaded
          | some whole => exact ⟨whole.toList, content, whole, read, decoded, rfl⟩
    exact ⟨text, holds, holds.loadFile_eq ▸ loaded⟩
  · rintro ⟨text, holds, made⟩
    rw [holds.loadFile_eq, made]

/-- What the environment does not replace is what the document makes that decides. -/
theorem recorded_eq_ok_iff :
    recorded files environment homes requested = .ok configuration ↔
      ∃ origin settings, Decides files environment homes requested origin settings ∧
        Configuration.ofTable settings origin = .ok configuration := by
  rw [recorded, bind_eq_ok_iff]
  constructor
  · rintro ⟨chosen, found, loaded⟩
    cases chosen with
    | none =>
        cases loaded
        exact ⟨none, [], decides_of_source found, ofTable_nil⟩
    | some path =>
        obtain ⟨text, holds, made⟩ := loadFile_eq_ok_iff.mp loaded
        obtain ⟨settings, decoded, made⟩ := ofText_eq_ok_iff.mp made
        exact ⟨some path, settings, .document (wins_of_source found) holds decoded, made⟩
  · rintro ⟨origin, settings, decides, made⟩
    cases decides with
    | @document path text settings wins holds decoded =>
        refine ⟨some path, ?_, loadFile_eq_ok_iff.mpr ⟨text, holds, ?_⟩⟩
        · rw [source_of_wins wins, present_eq_ok_iff.mpr holds.present]
          rfl
        · exact ofText_eq_ok_iff.mpr ⟨settings, decoded, made⟩
    | nothing known unset =>
        cases ofTable_nil.symm.trans made
        refine ⟨none, ?_, rfl⟩
        rw [source_of_unset unset, known]
        rfl

/-- A configuration can be loaded: a document decides on it and is accepted, and the launcher
that the environment names has words. -/
structure Loads (files : File.System) (environment : Environment) (homes : File.Homes)
    (requested : Option File.Path) : Prop where
  document : ∃ origin settings, Decides files environment homes requested origin settings ∧
    Succeeds (Configuration.ofTable settings origin)
  launcher (text : String) (given : environment.given? "LOCKGUARD_SANDBOX" = some text) :
    ∃ words, Text.Words.split text = .ok words ∧ words ≠ []

theorem succeeds_load_iff :
    Succeeds (load files environment homes requested) ↔
      Loads files environment homes requested := by
  constructor
  · rintro ⟨configuration, loaded⟩
    rw [load_eq, bind_eq_ok_iff] at loaded
    obtain ⟨before, loaded, replaces⟩ := loaded
    obtain ⟨origin, settings, decides, made⟩ := recorded_eq_ok_iff.mp loaded
    refine ⟨⟨origin, settings, decides, before, made⟩, ?_⟩
    intro text given
    obtain ⟨launcher, named, -⟩ := override_eq_ok_iff.mp replaces
    rcases option_mapM_eq_ok_iff.mp named with ⟨unset, -⟩ | ⟨other, words, given', cut, -⟩
    · cases given.symm.trans unset
    · cases given.symm.trans given'
      exact ⟨words, launcherOf_eq_ok_iff.mp cut⟩
  · rintro ⟨⟨origin, settings, decides, before, made⟩, worded⟩
    obtain ⟨launcher, named⟩ :
        ∃ launcher, (environment.given? "LOCKGUARD_SANDBOX").mapM launcherOf = .ok launcher := by
      cases given : environment.given? "LOCKGUARD_SANDBOX" with
      | none => exact ⟨none, rfl⟩
      | some text =>
          obtain ⟨words, cut⟩ := worded text given
          exact ⟨some words, option_mapM_eq_ok_iff.mpr
            (.inr ⟨text, words, rfl, launcherOf_eq_ok_iff.mpr cut, rfl⟩)⟩
    refine ⟨replaced environment launcher before, ?_⟩
    rw [load_eq, bind_eq_ok_iff]
    exact ⟨before, recorded_eq_ok_iff.mpr ⟨origin, settings, decides, made⟩,
      override_eq_ok_iff.mpr ⟨launcher, named, rfl⟩⟩

/-- A configuration is what the environment and the document say that decide on it. -/
theorem exists_decides_of_load
    (loaded : load files environment homes requested = .ok configuration) :
    ∃ origin settings, Decides files environment homes requested origin settings ∧
      Chooses environment origin settings configuration := by
  rw [load_eq, bind_eq_ok_iff] at loaded
  obtain ⟨before, loaded, replaces⟩ := loaded
  obtain ⟨origin, settings, decides, made⟩ := recorded_eq_ok_iff.mp loaded
  exact ⟨origin, settings, decides, (chooses_of_ofTable made).override replaces⟩

theorem Decides.chooses (decides : Decides files environment homes requested origin settings)
    (loaded : load files environment homes requested = .ok configuration) :
    Chooses environment origin settings configuration := by
  obtain ⟨origin', settings', decides', chooses⟩ := exists_decides_of_load loaded
  obtain ⟨rfl, rfl⟩ := decides.eq decides'
  exact chooses

end GuardedInstall.Config
