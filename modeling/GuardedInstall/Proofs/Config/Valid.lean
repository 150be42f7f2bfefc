import GuardedInstall.Proofs.Config.Document
import GuardedInstall.Proofs.Decimal.Positive
import GuardedInstall.Proofs.Lockfile.Reading

/-!
# What a loaded configuration fulfils

Every configuration that is loaded names a package manager and a runtime, has no slash at the
end of its address, and no token and no project that is empty. Its limit of time is positive and
its address is not empty, but for two settings that pass their checks: a limit that is written as
no number is not at most zero, and nothing is left of an address of slashes.
-/

namespace GuardedInstall.Config

open GuardedInstall.Stepwise

/-! ## Addresses -/

/-- Nothing is left of a text of slashes, and of no other. -/
theorem trimSlashes_eq_empty_iff (text : String) :
    Configuration.trimSlashes text = "" ↔ ∀ c ∈ text.toList, c = '/' := by
  rw [Configuration.trimSlashes, Text.trimEnd_eq_rdropWhile, String.ofList_eq_empty_iff,
    List.rdropWhile_eq_nil_iff]
  simp

theorem getLast?_trimSlashes_ne (text : String) :
    (Configuration.trimSlashes text).toList.getLast? ≠ some '/' := by
  rw [Configuration.trimSlashes, String.toList_ofList, Text.trimEnd_eq_rdropWhile]
  intro last
  have nonempty : text.toList.rdropWhile (· == '/') ≠ [] := by
    intro empty
    simp [empty] at last
  rw [List.getLast?_eq_some_getLast nonempty, Option.some.injEq] at last
  exact List.rdropWhile_last_not _ _ nonempty (by simp [last])

variable {files : File.System} {environment : Environment} {homes : File.Homes}
  {requested : Option File.Path} {origin : Option File.Path} {settings : Table}
  {configuration : Configuration}

/-- The text that the address is taken from, unless the default holds. -/
def addressText? (environment : Environment) (settings : Table) : Option String :=
  environment.given? "LOCKGUARD_API_URL" <|>
    (settings.within "analysis" "api_url").bind Setting.text?

/-- The address is given as a text of slashes. -/
def GivesSlashes (environment : Environment) (settings : Table) : Prop :=
  ∃ text, addressText? environment settings = some text ∧ ∀ c ∈ text.toList, c = '/'

/-! ## Settings that pass their checks -/

theorem Setting.ne_empty_of_filledText? {setting : Setting} {text : String}
    (read : setting.filledText? = some text) : text ≠ "" := by
  simpa using (Option.filter_eq_some_iff.mp read).2

theorem Setting.ne_some_empty_of_optionalText? {setting : Setting} {text? : Option String}
    (read : setting.optionalText? = some text?) : text? ≠ some "" := by
  rintro rfl
  cases setting with
  | null => cases read
  | _ =>
      simp only [optionalText?, Option.map_eq_some_iff] at read
      obtain ⟨text, filled, same⟩ := read
      exact ne_empty_of_filledText? filled (Option.some.inj same)

theorem Environment.ne_empty_of_given? {name text : String}
    (given : environment.given? name = some text) : text ≠ "" := by
  simpa using (Option.filter_eq_some_iff.mp given).2

theorem Taken.ne_empty {default text : String} {setting? : Option Setting}
    (taken : Taken Setting.filledText? default setting? text) (filled : default ≠ "") :
    text ≠ "" := by
  cases taken with
  | unset => exact filled
  | set read => exact Setting.ne_empty_of_filledText? read

theorem Taken.ne_some_empty {text? : Option String} {setting? : Option Setting}
    (taken : Taken Setting.optionalText? none setting? text?) : text? ≠ some "" := by
  cases taken with
  | unset => simp
  | set read => exact Setting.ne_some_empty_of_optionalText? read

theorem Chosen.ne_empty {name default text : String} {setting? : Option Setting}
    (chosen : Chosen some Setting.filledText? default (environment.given? name) setting? text)
    (filled : default ≠ "") : text ≠ "" := by
  generalize given : environment.given? name = given? at chosen
  cases chosen with
  | environment parsed =>
      cases parsed
      exact Environment.ne_empty_of_given? given
  | document taken => exact taken.ne_empty filled

theorem Chosen.ne_some_empty {name : String} {text? : Option String} {setting? : Option Setting}
    (chosen : Chosen (fun text => some (some text)) Setting.optionalText? none
      (environment.given? name) setting? text?) : text? ≠ some "" := by
  generalize given : environment.given? name = given? at chosen
  cases chosen with
  | environment parsed =>
      cases parsed
      simpa using Environment.ne_empty_of_given? given
  | document taken => exact taken.ne_some_empty

/-- A text that is chosen is one that is given, or the default. -/
theorem Chosen.eq_getD {default text : String} {given? : Option String}
    {setting? : Option Setting}
    (chosen : Chosen some Setting.filledText? default given? setting? text) :
    text = (given? <|> setting?.bind Setting.text?).getD default := by
  cases chosen with
  | environment parsed =>
      cases parsed
      rfl
  | document taken =>
      cases taken with
      | unset => rfl
      | set read => simp [(Option.filter_eq_some_iff.mp read).1]

/-! ## The limit of time -/

/-- The limit of time is written as what is no number. -/
def WritesNoNumber (settings : Table) : Prop :=
  ∃ value, settings.within "analysis" "timeout" = some (.real value) ∧ value.isNaN = true

/-- A limit of time is positive, unless it is written as what is no number. -/
theorem Taken.pos_iff {value default : Float} {setting? : Option Setting}
    (taken : Taken Setting.positive? default setting? value) (positive : 0 < default) :
    0 < value ↔ ¬ ∃ value, setting? = some (.real value) ∧ value.isNaN = true := by
  cases taken with
  | unset => simp [positive]
  | @set setting value read =>
      cases setting with
      | integer amount =>
          simp only [Setting.positive?] at read
          split at read
          case isTrue => cases read
          case isFalse above =>
            have pos : 0 < value := Decimal.pos_of_realOfInteger? (by omega) read
            simp [pos]
      | real amount =>
          simp only [Setting.positive?] at read
          split at read
          case isTrue => cases read
          case isFalse above =>
            cases read
            cases number : value.isNaN with
            | true =>
                exact iff_of_false (Decimal.not_pos_of_isNaN number)
                  (not_not_intro ⟨value, rfl, number⟩)
            | false =>
                refine iff_of_true (Decimal.pos_of_not_nonpos above number) ?_
                rintro ⟨other, same, none⟩
                cases same
                cases number.symm.trans none
      | _ => cases read

/-! ## Loaded configurations -/

/-- What a configuration fulfils that is taken from an environment and a document. -/
structure IsValid (environment : Environment) (settings : Table)
    (configuration : Configuration) : Prop where
  packageManager : configuration.packageManager ≠ ""
  runtime : configuration.runtime ≠ ""
  apiUrl_last : configuration.apiUrl.toList.getLast? ≠ some '/'
  apiUrl_eq_empty_iff : configuration.apiUrl = "" ↔ GivesSlashes environment settings
  apiTimeout_pos_iff : 0 < configuration.apiTimeout ↔ ¬ WritesNoNumber settings
  apiToken : configuration.apiToken ≠ some ""
  project : configuration.project ≠ some ""

theorem Chooses.isValid (chooses : Chooses environment origin settings configuration) :
    IsValid environment settings configuration := by
  obtain ⟨address, trimmed, chosen⟩ := chooses.apiUrl
  constructor
  case packageManager => exact chooses.packageManager.ne_empty (by decide)
  case runtime => exact chooses.runtime.ne_empty (by decide)
  case apiUrl_last =>
    rw [trimmed]
    exact getLast?_trimSlashes_ne address
  case apiUrl_eq_empty_iff =>
    rw [trimmed, trimSlashes_eq_empty_iff, chosen.eq_getD, GivesSlashes, addressText?]
    cases environment.given? "LOCKGUARD_API_URL" <|>
        (settings.within "analysis" "api_url").bind Setting.text? with
    | none =>
        have letter : 'h' ∈ Configuration.default.apiUrl.toList := by decide
        exact iff_of_false (fun slashes => absurd (slashes 'h' letter) (by decide)) (by simp)
    | some text => simp
  case apiTimeout_pos_iff => exact chooses.apiTimeout.pos_iff (by decide)
  case apiToken => exact chooses.apiToken.ne_some_empty
  case project => exact chooses.project.ne_some_empty

/-- A document decides on every configuration that is loaded, and the configuration is valid,
but for the two settings. -/
theorem isValid_of_load
    (loaded : load files environment homes requested = .ok configuration) :
    (∃ origin settings, Decides files environment homes requested origin settings) ∧
      ∀ origin settings, Decides files environment homes requested origin settings →
        IsValid environment settings configuration := by
  obtain ⟨origin, settings, decides, -⟩ := exists_decides_of_load loaded
  refine ⟨⟨origin, settings, decides⟩, ?_⟩
  intro origin settings decides
  exact (decides.chooses loaded).isValid

/-! ## Two settings that pass their checks -/

/-- The text of a configuration whose address is all slashes and whose limit is no number. -/
def carelessText : List Char :=
  "\x7b\"analysis\":\x7b\"api_url\":\"//\",\"timeout\":NaN\x7d\x7d".toList

/-- A project with such a configuration. -/
def carelessProject : File.System where
  nodes := [(["lockguard.json"], .file (String.ofList carelessText).toUTF8 false)]
  workingDirectory := []

/-- The configuration file of the project. -/
def carelessPath : File.Path := File.Path.ofString "lockguard.json"

theorem holdsText_careless : HoldsText carelessProject carelessPath carelessText := by
  refine ⟨_, String.ofList carelessText, ?_, Lockfile.fromUTF8?_toUTF8 _, ?_⟩
  · with_unfolding_all rfl
  · rw [String.toList_ofList]

/-- The configuration is loaded, without an address and with a limit that is no number. -/
theorem exists_load_careless (homes : File.Homes) :
    ∃ configuration, load carelessProject [] homes (some carelessPath) = .ok configuration ∧
      configuration.apiUrl = "" ∧ configuration.apiTimeout.isNaN = true := by
  have read : (ofText carelessPath carelessText).toOption.any
      (fun configuration => configuration.apiUrl == "" && configuration.apiTimeout.isNaN) =
        true := by
    decide +kernel
  cases made : ofText carelessPath carelessText with
  | error failure =>
      rw [made] at read
      cases read
  | ok configuration =>
      rw [made] at read
      obtain ⟨noAddress, noNumber⟩ := Bool.and_eq_true_iff.mp read
      obtain ⟨settings, decoded, accepted⟩ := ofText_eq_ok_iff.mp made
      refine ⟨replaced [] none configuration, ?_, eq_of_beq noAddress, noNumber⟩
      rw [load_eq, recorded_eq_ok_iff.mpr
        ⟨_, settings, .document (.asked rfl) holdsText_careless decoded, accepted⟩]
      rfl

/-- The careless configuration is valid but for its two settings. -/
theorem isValid_of_careless :
    ∃ configuration,
      load carelessProject [] ⟨"/home/u", []⟩ (some carelessPath) = .ok configuration ∧
      (∃ origin settings,
        Decides carelessProject [] ⟨"/home/u", []⟩ (some carelessPath) origin settings) ∧
      ∀ origin settings,
        Decides carelessProject [] ⟨"/home/u", []⟩ (some carelessPath) origin settings →
          IsValid [] settings configuration := by
  obtain ⟨configuration, loaded, -⟩ := exists_load_careless ⟨"/home/u", []⟩
  exact ⟨configuration, loaded, isValid_of_load loaded⟩

/-- Some configurations that are loaded have no address, or a limit that is not positive. -/
theorem not_forall_address_and_limit :
    (¬ ∀ files environment homes requested configuration,
      load files environment homes requested = .ok configuration → configuration.apiUrl ≠ "") ∧
    ¬ ∀ files environment homes requested configuration,
      load files environment homes requested = .ok configuration →
        0 < configuration.apiTimeout := by
  obtain ⟨configuration, loaded, noAddress, noNumber⟩ := exists_load_careless ⟨"/home/u", []⟩
  constructor
  · intro addressed
    exact addressed _ _ _ _ _ loaded noAddress
  · intro limited
    exact Decimal.not_pos_of_isNaN noNumber (limited _ _ _ _ _ loaded)

end GuardedInstall.Config
