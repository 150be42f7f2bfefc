import GuardedInstall.Config.Load
import GuardedInstall.Proofs.File.Search
import GuardedInstall.Proofs.Stepwise
import GuardedInstall.Proofs.Text.Lines

/-!
# Faults of loading the configuration

A configuration that cannot be used is refused, except in five cases that are no refusal but
a fault: the home directory is none, a path is too long to be looked at, a document writes
an integer with too many digits, its limit of time is an integer beyond all floating-point
numbers, or the launcher that the environment names has open quotes. Two of them are in the
hands of whoever writes a file that is looked for: no other content of a file is at fault.
Documents may nest to any depth here; that an interpreter limits the recursion of its
readers, and fails on a document that nests deeper, is left aside.
-/

namespace GuardedInstall.File

namespace System

variable {files : System} {path : Path}

theorem present_of_read {content : Bytes} (read : files.read path = .ok content) :
    files.present path = .ok true := by
  rw [present_eq_true_iff]
  cases found : files.status path.toString with
  | ok node => exact ⟨node, rfl⟩
  | error failure => simp [System.read, access, found, bind, Except.bind, Except.mapError] at read

/-- Only a directory stands at a path and cannot be read. -/
theorem read_of_present (there : files.present path = .ok true) :
    (∃ content, files.read path = .ok content) ∨
      files.read path = .error ⟨.isADirectory, path.toString⟩ := by
  obtain ⟨node, found⟩ := present_eq_true_iff.mp there
  cases node with
  | directory => exact .inr (by simp only [System.read, access, found]; rfl)
  | file content executable => exact .inl ⟨content, by simp only [System.read, access, found]; rfl⟩

end System

variable {homes : Homes} {error : HomeError}

/-- Slashes at the end of a text do not change what it begins with. -/
theorem startsWith_trimmed_iff (text : String) :
    (String.ofList (Text.trimEnd (· == '/') text.toList)).startsWith "~" = true ↔
      text.startsWith "~" = true := by
  simp only [String.startsWith_string_iff, String.toList_ofList]
  constructor
  · intro front
    exact front.trans (List.rdropWhile_prefix _ _)
  · rintro ⟨rest, whole⟩
    have kept : Text.trimEnd (· == '/') ([] ++ '~' :: rest) =
        [] ++ '~' :: Text.trimEnd (· == '/') rest := Text.trimEnd_append_cons (by decide) [] rest
    rw [← whole]
    exact ⟨_, kept.symm⟩

theorem Homes.directory_tilde (homes : Homes) :
    homes.directory "~" =
      let text := String.ofList (Text.trimEnd (· == '/') homes.own.toList)
      if (if text = "" then "/" else text).startsWith "~" then .error .unknown
      else .ok (if text = "" then "/" else text) := by
  have own : homes.home (String.ofList ("~".toList.drop 1)) = .ok homes.own := by simp [Homes.home]
  simp only [Homes.directory, own, Stepwise.ok_bind]
  rfl

/-- The home directory of the user is known unless it begins with a tilde itself. -/
theorem Homes.expand_tilde_eq_error_iff :
    homes.expand (Path.ofString "~") = .error error ↔
      error = .unknown ∧ homes.own.startsWith "~" = true := by
  have alone : Path.ofString "~" = ⟨.relative, ["~"]⟩ := by decide
  have marked : "~".startsWith "~" = true := by simp [String.startsWith_string_iff]
  rw [← startsWith_trimmed_iff, alone]
  simp only [Homes.expand, marked, if_true, Homes.directory_tilde]
  generalize String.ofList (Text.trimEnd (· == '/') homes.own.toList) = text
  -- Nothing is left of a home directory of slashes, and the root takes its place.
  by_cases empty : text = ""
  · have slash : "/".startsWith "~" ≠ true := by simp [String.startsWith_string_iff]
    have nothing : "".startsWith "~" ≠ true := by simp [String.startsWith_string_iff]
    simp [empty, slash, nothing, Except.map]
  · by_cases tilde : text.startsWith "~" = true
    · simp [empty, tilde, Except.map, eq_comm]
    · simp [empty, tilde, Except.map]

end GuardedInstall.File

namespace GuardedInstall.Config

open GuardedInstall.Stepwise

/-! ## Settings of a document -/

namespace Table

variable {settings : Table} {name : String}

theorem avoids_tableAt (settings : Table) (name : String) :
    Avoids .numberTooLarge (settings.tableAt name) := by
  unfold tableAt
  split
  · exact .ok _
  · exact .ok _
  · exact .of_ne Unusable.noConfusion

theorem avoids_textAt (settings : Table) (name default : String) :
    Avoids .numberTooLarge (settings.textAt name default) := by
  unfold textAt
  split
  · split
    · exact .of_ne Unusable.noConfusion
    · exact .ok _
  · split
    · exact .of_ne Unusable.noConfusion
    · exact .ok _
  · exact .of_ne Unusable.noConfusion

theorem avoids_optionalTextAt (settings : Table) (name : String) :
    Avoids .numberTooLarge (settings.optionalTextAt name) := by
  unfold optionalTextAt
  split
  · exact .ok _
  · exact .ok _
  · exact (avoids_textAt settings name "").map some

theorem avoids_textListAt (settings : Table) (name : String) (default : List String) :
    Avoids .numberTooLarge (settings.textListAt name default) := by
  unfold textListAt
  split
  · exact .ok _
  · split
    · exact .ok _
    · exact .of_ne Unusable.noConfusion
  · exact .of_ne Unusable.noConfusion

theorem avoids_flagAt (settings : Table) (name : String) (default : Bool) :
    Avoids .numberTooLarge (settings.flagAt name default) := by
  unfold flagAt
  split
  · exact .ok _
  · exact .ok _
  · exact .of_ne Unusable.noConfusion

/-- A number is too large as a positive integer beyond the floating-point numbers. -/
theorem positiveAt_eq_numberTooLarge_iff {default : Float} :
    settings.positiveAt name default = .error .numberTooLarge ↔
      ∃ amount, GuardedInstall.Table.find? name settings = some (.integer amount) ∧
        0 < amount ∧ Decimal.realOfInteger? amount = none := by
  unfold positiveAt
  cases found : GuardedInstall.Table.find? name settings with
  | none => simp
  | some setting =>
      cases setting with
      | integer amount =>
          by_cases negative : amount ≤ 0
          · simp [negative, Int.not_lt.mpr negative]
          · have positive : 0 < amount := by omega
            cases converted : Decimal.realOfInteger? amount <;> simp [negative, positive, converted]
      | real amount =>
          by_cases negative : amount ≤ 0 <;> simp [negative]
      | _ => simp

end Table

/-- The settings of a document with a limit of time that is too large. All that is looked at
before the limit is in order. -/
structure ExceedsLimit (settings : Table) : Prop where
  sandbox : ∃ sandbox, settings.tableAt "sandbox" = .ok sandbox ∧
    Succeeds (sandbox.textListAt "launcher" Configuration.default.launcher) ∧
    Succeeds (sandbox.textListAt "extra_writable" Configuration.default.extraWritable)
  exitCodes : Succeeds (settings.tableAt "exit_codes")
  packageManager : Succeeds (settings.textAt "package_manager" Configuration.default.packageManager)
  runtime : Succeeds (settings.textAt "runtime" Configuration.default.runtime)
  analysis : ∃ analysis, settings.tableAt "analysis" = .ok analysis ∧
    Succeeds (analysis.textAt "api_url" Configuration.default.apiUrl) ∧
    Succeeds (analysis.optionalTextAt "api_token") ∧
    ∃ amount, GuardedInstall.Table.find? "timeout" analysis = some (.integer amount) ∧
      0 < amount ∧ Decimal.realOfInteger? amount = none

theorem ofTable_eq_numberTooLarge_iff {settings : Table} {source : Option File.Path} :
    Configuration.ofTable settings source = .error .numberTooLarge ↔ ExceedsLimit settings := by
  constructor
  · intro failed
    -- No setting before the limit can be at fault for a number, so each of them is in order.
    obtain ⟨sandbox, hasSandbox, failed⟩ :=
      (Table.avoids_tableAt settings "sandbox").bind_eq_error_iff.mp failed
    obtain ⟨analysis, hasAnalysis, failed⟩ :=
      (Table.avoids_tableAt settings "analysis").bind_eq_error_iff.mp failed
    obtain ⟨exitCodes, hasExitCodes, failed⟩ :=
      (Table.avoids_tableAt settings "exit_codes").bind_eq_error_iff.mp failed
    obtain ⟨packageManager, hasManager, failed⟩ :=
      (Table.avoids_textAt settings _ _).bind_eq_error_iff.mp failed
    obtain ⟨runtime, hasRuntime, failed⟩ :=
      (Table.avoids_textAt settings _ _).bind_eq_error_iff.mp failed
    obtain ⟨launcher, hasLauncher, failed⟩ :=
      (Table.avoids_textListAt sandbox _ _).bind_eq_error_iff.mp failed
    obtain ⟨writable, hasWritable, failed⟩ :=
      (Table.avoids_textListAt sandbox _ _).bind_eq_error_iff.mp failed
    obtain ⟨apiUrl, hasUrl, failed⟩ :=
      (Table.avoids_textAt analysis _ _).bind_eq_error_iff.mp failed
    obtain ⟨apiToken, hasToken, failed⟩ :=
      (Table.avoids_optionalTextAt analysis _).bind_eq_error_iff.mp failed
    rcases bind_eq_error_iff.mp failed with exceeds | ⟨apiTimeout, -, later⟩
    · exact ⟨⟨sandbox, hasSandbox, ⟨launcher, hasLauncher⟩, ⟨writable, hasWritable⟩⟩,
        ⟨exitCodes, hasExitCodes⟩, ⟨packageManager, hasManager⟩, ⟨runtime, hasRuntime⟩,
        ⟨analysis, hasAnalysis, ⟨apiUrl, hasUrl⟩, ⟨apiToken, hasToken⟩,
          Table.positiveAt_eq_numberTooLarge_iff.mp exceeds⟩⟩
    · refine absurd later (Avoids.bind (Table.avoids_optionalTextAt analysis _) fun project => ?_)
      exact .bind (Table.avoids_flagAt exitCodes _ _) fun preserveNative => .pure _
  · rintro ⟨⟨sandbox, hasSandbox, ⟨launcher, hasLauncher⟩, ⟨writable, hasWritable⟩⟩,
      ⟨exitCodes, hasExitCodes⟩, ⟨packageManager, hasManager⟩, ⟨runtime, hasRuntime⟩,
      ⟨analysis, hasAnalysis, ⟨apiUrl, hasUrl⟩, ⟨apiToken, hasToken⟩, exceeds⟩⟩
    have failed : analysis.positiveAt "timeout" Configuration.default.apiTimeout = _ :=
      Table.positiveAt_eq_numberTooLarge_iff.mpr exceeds
    simp only [Configuration.ofTable, hasSandbox, hasAnalysis, hasExitCodes, hasManager, hasRuntime,
      hasLauncher, hasWritable, hasUrl, hasToken, failed, ok_bind, error_bind]

/-! ## Files that are looked for -/

variable {files : File.System} {environment : Environment} {homes : File.Homes}
  {requested : Option File.Path} {path : File.Path} {configuration : Configuration}
  {fault : Fault}

/-- The file that is asked for, by a request or else by the environment. -/
def asked? (environment : Environment) (requested : Option File.Path) : Option File.Path :=
  requested <|> (environment.given? "LOCKGUARD_CONFIG").map File.Path.ofString

theorem present_eq_error_iff {failure : Failure} :
    present files path = .error failure ↔
      files.IsTooLong path ∧ failure = .fault (.access ⟨.nameTooLong, path.toString⟩) := by
  rw [present, mapError_eq_error_iff]
  constructor
  · rintro ⟨error, failed, rfl⟩
    obtain ⟨tooLong, rfl⟩ := File.System.present_eq_error_iff.mp failed
    exact ⟨tooLong, rfl⟩
  · rintro ⟨tooLong, rfl⟩
    exact ⟨_, File.System.present_eq_error_iff.mpr ⟨tooLong, rfl⟩, rfl⟩

theorem present_eq_ok_iff {there : Bool} :
    present files path = .ok there ↔ files.present path = .ok there := by
  rw [present]
  cases files.present path with
  | error error => simp [Except.mapError]
  | ok found => simp [Except.mapError]

/-- A path of a list is come to, since those before it are absent. -/
inductive IsReached (files : File.System) (path : File.Path) : List File.Path → Prop where
  | here {rest : List File.Path} : IsReached files path (path :: rest)
  | later {other : File.Path} {rest : List File.Path}
      (absent : files.present other = .ok false) (reached : IsReached files path rest) :
      IsReached files path (other :: rest)

theorem isReached_cons_iff {other : File.Path} {rest : List File.Path} :
    IsReached files path (other :: rest) ↔
      path = other ∨ files.present other = .ok false ∧ IsReached files path rest := by
  constructor
  · intro reached
    cases reached with
    | here => exact .inl rfl
    | later absent reached => exact .inr ⟨absent, reached⟩
  · rintro (rfl | ⟨absent, reached⟩)
    · exact .here
    · exact .later absent reached

theorem firstPresent_cons (other : File.Path) (rest : List File.Path) :
    firstPresent files (other :: rest) = present files other >>= fun there =>
      if there then .ok (some other) else firstPresent files rest := by
  rfl

/-- A search ends with the first path that is not absent, if that is there. -/
theorem firstPresent_eq_ok_some_iff {paths : List File.Path} :
    firstPresent files paths = .ok (some path) ↔
      IsReached files path paths ∧ files.present path = .ok true := by
  induction paths with
  | nil =>
      simp only [firstPresent, Except.ok.injEq, reduceCtorEq, false_iff, not_and]
      rintro ⟨⟩
  | cons other rest ih =>
      rw [firstPresent_cons, isReached_cons_iff, bind_eq_ok_iff]
      constructor
      · rintro ⟨there, looked, found⟩
        rw [present_eq_ok_iff] at looked
        cases there with
        | true =>
            cases found
            exact ⟨.inl rfl, looked⟩
        | false =>
            obtain ⟨reached, stands⟩ := ih.mp found
            exact ⟨.inr ⟨looked, reached⟩, stands⟩
      · rintro ⟨rfl | ⟨absent, reached⟩, stands⟩
        · exact ⟨true, present_eq_ok_iff.mpr stands, rfl⟩
        · exact ⟨false, present_eq_ok_iff.mpr absent, ih.mpr ⟨reached, stands⟩⟩

/-- A search fails at the first path that is not absent, if that is too long. -/
theorem firstPresent_eq_error_iff {paths : List File.Path} {failure : Failure} :
    firstPresent files paths = .error failure ↔
      ∃ path, IsReached files path paths ∧ files.IsTooLong path ∧
        failure = .fault (.access ⟨.nameTooLong, path.toString⟩) := by
  induction paths with
  | nil =>
      simp only [firstPresent, reduceCtorEq, false_iff, not_exists, not_and]
      rintro path ⟨⟩
  | cons other rest ih =>
      rw [firstPresent_cons, bind_eq_error_iff]
      constructor
      · rintro (failed | ⟨there, looked, failed⟩)
        · obtain ⟨tooLong, rfl⟩ := present_eq_error_iff.mp failed
          exact ⟨other, .here, tooLong, rfl⟩
        · rw [present_eq_ok_iff] at looked
          cases there with
          | true => cases failed
          | false =>
              obtain ⟨path, reached, tooLong, rfl⟩ := ih.mp failed
              exact ⟨path, .later looked reached, tooLong, rfl⟩
      · rintro ⟨path, reached, tooLong, rfl⟩
        cases reached with
        | here => exact .inl (present_eq_error_iff.mpr ⟨tooLong, rfl⟩)
        | later absent reached =>
            exact .inr ⟨false, present_eq_ok_iff.mpr absent, ih.mpr ⟨path, reached, tooLong, rfl⟩⟩

/-- A path is looked for: the one that is asked for, and without one the first of the
standard ones that are not absent. -/
inductive Sought (files : File.System) (environment : Environment) (homes : File.Homes)
    (requested : Option File.Path) (path : File.Path) : Prop where
  | asked (asked : asked? environment requested = some path)
  | standard {paths : List File.Path} (unasked : asked? environment requested = none)
      (known : candidates environment homes = .ok paths) (reached : IsReached files path paths)

/-- The home directory is needed and unknown: it begins with a tilde itself. -/
structure LacksHome (environment : Environment) (homes : File.Homes) : Prop where
  unset : environment.given? "XDG_CONFIG_HOME" = none
  unknown : homes.own.startsWith "~" = true

theorem directory_eq_error_iff {failure : Failure} :
    directory environment homes = .error failure ↔
      LacksHome environment homes ∧ failure = .fault (.home .unknown) := by
  unfold directory
  cases set : environment.given? "XDG_CONFIG_HOME" with
  | some base =>
      have needless : ¬ LacksHome environment homes := by
        rintro ⟨unset, -⟩
        cases set.symm.trans unset
      simp [needless]
  | none =>
      have lacks_iff : LacksHome environment homes ↔ homes.own.startsWith "~" = true :=
        ⟨LacksHome.unknown, fun unknown => ⟨set, unknown⟩⟩
      rw [lacks_iff]
      cases expanded : homes.expand (File.Path.ofString "~") with
      | ok home =>
          have known : homes.own.startsWith "~" ≠ true := by
            intro unknown
            have failed := File.Homes.expand_tilde_eq_error_iff.mpr ⟨rfl, unknown⟩
            cases expanded.symm.trans failed
          simp [known]
      | error error =>
          obtain ⟨rfl, unknown⟩ := File.Homes.expand_tilde_eq_error_iff.mp expanded
          simp [unknown, eq_comm]

theorem candidates_eq_error_iff {failure : Failure} :
    candidates environment homes = .error failure ↔
      LacksHome environment homes ∧ failure = .fault (.home .unknown) := by
  rw [← directory_eq_error_iff]
  cases known : directory environment homes with
  | error other => simp [candidates, known]
  | ok base => simp [candidates, known, pure, Except.pure]

theorem source_of_asked (asked : asked? environment requested = some path) :
    source files environment homes requested = present files path >>= fun there =>
      if there then .ok (some path) else .error (.refused (.notFound path.toString)) := by
  unfold asked? at asked
  simp only [source, asked]
  rfl

theorem source_of_unasked (unasked : asked? environment requested = none) :
    source files environment homes requested =
      candidates environment homes >>= firstPresent files := by
  unfold asked? at unasked
  simp only [source, unasked]

/-- The file that is read is looked for and there. -/
theorem source_eq_ok_some_iff :
    source files environment homes requested = .ok (some path) ↔
      Sought files environment homes requested path ∧ files.present path = .ok true := by
  cases asked : asked? environment requested with
  | some other =>
      rw [source_of_asked asked, bind_eq_ok_iff]
      constructor
      · rintro ⟨there, looked, found⟩
        cases there with
        | false => cases found
        | true =>
            cases found
            exact ⟨.asked asked, present_eq_ok_iff.mp looked⟩
      · rintro ⟨sought, stands⟩
        cases sought with
        | asked again =>
            cases asked.symm.trans again
            exact ⟨true, present_eq_ok_iff.mpr stands, rfl⟩
        | standard unasked => cases asked.symm.trans unasked
  | none =>
      rw [source_of_unasked asked, bind_eq_ok_iff]
      constructor
      · rintro ⟨paths, known, found⟩
        obtain ⟨reached, stands⟩ := firstPresent_eq_ok_some_iff.mp found
        exact ⟨.standard asked known reached, stands⟩
      · rintro ⟨sought, stands⟩
        cases sought with
        | asked again => cases asked.symm.trans again
        | standard unasked known reached =>
            exact ⟨_, known, firstPresent_eq_ok_some_iff.mpr ⟨reached, stands⟩⟩

/-- Looking for a file fails for want of a home directory or at a path that is too long. -/
theorem source_eq_fault_iff :
    source files environment homes requested = .error (.fault fault) ↔
      (asked? environment requested = none ∧ LacksHome environment homes ∧
        fault = .home .unknown) ∨
      ∃ path, Sought files environment homes requested path ∧ files.IsTooLong path ∧
        fault = .access ⟨.nameTooLong, path.toString⟩ := by
  cases asked : asked? environment requested with
  | some other =>
      rw [source_of_asked asked, bind_eq_error_iff]
      constructor
      · rintro (failed | ⟨there, looked, failed⟩)
        · obtain ⟨tooLong, told⟩ := present_eq_error_iff.mp failed
          cases told
          exact .inr ⟨other, .asked asked, tooLong, rfl⟩
        · cases there with
          | true => cases failed
          | false => cases failed
      · rintro (⟨⟨⟩, -⟩ | ⟨path, sought, tooLong, rfl⟩)
        cases sought with
        | asked again =>
            cases asked.symm.trans again
            exact .inl (present_eq_error_iff.mpr ⟨tooLong, rfl⟩)
        | standard unasked => cases asked.symm.trans unasked
  | none =>
      rw [source_of_unasked asked, bind_eq_error_iff]
      constructor
      · rintro (failed | ⟨paths, known, failed⟩)
        · obtain ⟨lacks, told⟩ := candidates_eq_error_iff.mp failed
          cases told
          exact .inl ⟨rfl, lacks, rfl⟩
        · obtain ⟨path, reached, tooLong, told⟩ := firstPresent_eq_error_iff.mp failed
          cases told
          exact .inr ⟨path, .standard asked known reached, tooLong, rfl⟩
      · rintro (⟨-, lacks, rfl⟩ | ⟨path, sought, tooLong, rfl⟩)
        · exact .inl (candidates_eq_error_iff.mpr ⟨lacks, rfl⟩)
        · cases sought with
          | asked again => cases asked.symm.trans again
          | standard unasked known reached =>
              exact .inr ⟨_, known, firstPresent_eq_error_iff.mpr ⟨path, reached, tooLong, rfl⟩⟩

/-! ## A file and its document -/

/-- A path holds a file whose bytes write a text. -/
def HoldsText (files : File.System) (path : File.Path) (text : List Char) : Prop :=
  ∃ content whole, files.read path = .ok content ∧ String.fromUTF8? content = some whole ∧
    text = whole.toList

/-- What the document in a text is at fault for. -/
inductive FaultyDocument (format : Format) (text : List Char) : Fault → Prop where
  | digits {count : Nat} (failed : decode format text = .error (.tooManyDigits count)) :
      FaultyDocument format text (.tooManyDigits count)
  | number {settings : Table} (decoded : decode format text = .ok (some settings))
      (exceeds : ExceedsLimit settings) : FaultyDocument format text .numberTooLarge

/-- The configuration in the text of a file. -/
def ofText (path : File.Path) (text : List Char) : Except Failure Configuration :=
  match decode (formatOf path) text with
  | .ok document => ofDocument path document
  | .error .malformed => .error (.refused (.malformed (formatOf path) path.toString))
  | .error (.tooManyDigits count) => .error (.fault (.tooManyDigits count))

variable {text : List Char}

theorem HoldsText.loadFile_eq (holds : HoldsText files path text) :
    loadFile files path = ofText path text := by
  obtain ⟨content, whole, read, decoded, rfl⟩ := holds
  simp only [loadFile, read, decoded]
  rfl

/-- A file that is there and holds no text is refused. -/
theorem loadFile_ne_fault_of_textless (there : files.present path = .ok true)
    (textless : ∀ text, ¬ HoldsText files path text) :
    loadFile files path ≠ .error (.fault fault) := by
  rcases File.System.read_of_present there with ⟨content, read⟩ | unreadable
  · cases decoded : String.fromUTF8? content with
    | none => simp [loadFile, read, decoded]
    | some whole => exact absurd ⟨content, whole, read, decoded, rfl⟩ (textless whole.toList)
  · simp [loadFile, unreadable]

theorem ofDocument_eq_fault_iff {document : Option Table} :
    ofDocument path document = .error (.fault fault) ↔
      ∃ settings, document = some settings ∧ ExceedsLimit settings ∧ fault = .numberTooLarge := by
  cases document with
  | none => simp [ofDocument]
  | some settings =>
      have exceeds_iff : Configuration.ofTable settings (some path) = .error .numberTooLarge ↔
          ExceedsLimit settings :=
        ofTable_eq_numberTooLarge_iff
      simp only [ofDocument, Option.some.injEq, exists_eq_left', ← exceeds_iff]
      cases Configuration.ofTable settings (some path) with
      | ok configuration => simp
      | error unusable => cases unusable <;> simp [eq_comm]

theorem ofText_eq_fault_iff :
    ofText path text = .error (.fault fault) ↔ FaultyDocument (formatOf path) text fault := by
  unfold ofText
  constructor
  · intro failed
    cases document : decode (formatOf path) text with
    | ok settings =>
        simp only [document] at failed
        obtain ⟨settings, rfl, exceeds, rfl⟩ := ofDocument_eq_fault_iff.mp failed
        exact .number document exceeds
    | error error =>
        simp only [document] at failed
        cases error with
        | malformed => cases failed
        | tooManyDigits count =>
            cases failed
            exact .digits document
  · intro faulty
    cases faulty with
    | digits failed => simp only [failed]
    | number document exceeds =>
        simp only [document]
        exact ofDocument_eq_fault_iff.mpr ⟨_, rfl, exceeds, rfl⟩

/-- A file that is there is at fault for the document that its text is. -/
theorem loadFile_eq_fault_iff (there : files.present path = .ok true) :
    loadFile files path = .error (.fault fault) ↔
      ∃ text, HoldsText files path text ∧ FaultyDocument (formatOf path) text fault := by
  constructor
  · intro failed
    by_cases held : ∃ text, HoldsText files path text
    · obtain ⟨text, holds⟩ := held
      rw [holds.loadFile_eq] at failed
      exact ⟨text, holds, ofText_eq_fault_iff.mp failed⟩
    · exact absurd failed (loadFile_ne_fault_of_textless there (not_exists.mp held))
  · rintro ⟨text, holds, faulty⟩
    rw [holds.loadFile_eq]
    exact ofText_eq_fault_iff.mpr faulty

/-! ## Loading -/

/-- The configuration before the environment replaces settings of it. -/
def recorded (files : File.System) (environment : Environment) (homes : File.Homes)
    (requested : Option File.Path) : Except Failure Configuration := do
  match ← source files environment homes requested with
  | some path => loadFile files path
  | none => pure Configuration.default

theorem load_eq (files : File.System) (environment : Environment) (homes : File.Homes)
    (requested : Option File.Path) :
    load files environment homes requested =
      recorded files environment homes requested >>= override environment := by
  simp only [load, recorded, bind_assoc]
  congr
  funext chosen
  cases chosen with
  | none => rfl
  | some path => rfl

theorem launcherOf_eq_fault_iff {text : String} :
    launcherOf text = .error (.fault fault) ↔
      ∃ error, Text.Words.split text = .error error ∧ fault = .words error := by
  unfold launcherOf
  cases Text.Words.split text with
  | error error => simp [Except.mapError, eq_comm]
  | ok words =>
      refine iff_of_false ?_ (by simp)
      cases words with
      | nil => rintro ⟨⟩
      | cons word rest => rintro ⟨⟩

/-- Of the variables that replace settings, only the launcher can be at fault. -/
theorem override_eq_fault_iff :
    override environment configuration = .error (.fault fault) ↔
      ∃ text error, environment.given? "LOCKGUARD_SANDBOX" = some text ∧
        Text.Words.split text = .error error ∧ fault = .words error := by
  have replaced : override environment configuration = .error (.fault fault) ↔
      (environment.given? "LOCKGUARD_SANDBOX").mapM launcherOf = .error (.fault fault) := by
    refine bind_eq_error_iff.trans (or_iff_left ?_)
    rintro ⟨launcher, -, ⟨⟩⟩
  rw [replaced]
  cases environment.given? "LOCKGUARD_SANDBOX" with
  | none => simp [pure, Except.pure]
  | some text =>
      rw [Option.mapM_some, map_eq_error_iff, launcherOf_eq_fault_iff]
      simp

/-- What makes loading a configuration come to a fault. -/
inductive Faulty (files : File.System) (environment : Environment) (homes : File.Homes)
    (requested : Option File.Path) : Fault → Prop where
  | home (unasked : asked? environment requested = none)
      (lacks : LacksHome environment homes) :
      Faulty files environment homes requested (.home .unknown)
  | path {path : File.Path} (sought : Sought files environment homes requested path)
      (tooLong : files.IsTooLong path) :
      Faulty files environment homes requested (.access ⟨.nameTooLong, path.toString⟩)
  | document {path : File.Path} {text : List Char} {fault : Fault}
      (sought : Sought files environment homes requested path)
      (holds : HoldsText files path text)
      (faulty : FaultyDocument (formatOf path) text fault) :
      Faulty files environment homes requested fault
  | launcher {text : String} {error : Text.Words.Error}
      (recorded : Succeeds (recorded files environment homes requested))
      (given : environment.given? "LOCKGUARD_SANDBOX" = some text)
      (unsplit : Text.Words.split text = .error error) :
      Faulty files environment homes requested (.words error)

theorem recorded_eq_fault_iff :
    recorded files environment homes requested = .error (.fault fault) ↔
      source files environment homes requested = .error (.fault fault) ∨
      ∃ path text, Sought files environment homes requested path ∧ HoldsText files path text ∧
        FaultyDocument (formatOf path) text fault := by
  rw [recorded, bind_eq_error_iff]
  refine or_congr_right ⟨?_, ?_⟩
  · rintro ⟨chosen, found, failed⟩
    cases chosen with
    | none => cases failed
    | some path =>
        obtain ⟨sought, there⟩ := source_eq_ok_some_iff.mp found
        obtain ⟨text, holds, faulty⟩ := (loadFile_eq_fault_iff there).mp failed
        exact ⟨path, text, sought, holds, faulty⟩
  · rintro ⟨path, text, sought, holds, faulty⟩
    have there : files.present path = .ok true := by
      obtain ⟨content, whole, read, -⟩ := holds
      exact File.System.present_of_read read
    exact ⟨some path, source_eq_ok_some_iff.mpr ⟨sought, there⟩,
      (loadFile_eq_fault_iff there).mpr ⟨text, holds, faulty⟩⟩

/-- The faults of loading, whatever stands in the files and in the environment. -/
theorem load_eq_fault_iff :
    load files environment homes requested = .error (.fault fault) ↔
      Faulty files environment homes requested fault := by
  rw [load_eq, bind_eq_error_iff, recorded_eq_fault_iff, source_eq_fault_iff]
  constructor
  · rintro (((⟨unasked, lacks, rfl⟩ | ⟨path, sought, tooLong, rfl⟩) |
      ⟨path, text, sought, holds, faulty⟩) | ⟨configuration, loads, failed⟩)
    · exact .home unasked lacks
    · exact .path sought tooLong
    · exact .document sought holds faulty
    · obtain ⟨text, error, given, unsplit, rfl⟩ := override_eq_fault_iff.mp failed
      exact .launcher ⟨configuration, loads⟩ given unsplit
  · intro faulty
    cases faulty with
    | home unasked lacks => exact .inl (.inl (.inl ⟨unasked, lacks, rfl⟩))
    | path sought tooLong => exact .inl (.inl (.inr ⟨_, sought, tooLong, rfl⟩))
    | document sought holds atFault => exact .inl (.inr ⟨_, _, sought, holds, atFault⟩)
    | launcher loads given unsplit =>
        obtain ⟨configuration, loads⟩ := loads
        exact .inr ⟨configuration, loads,
          override_eq_fault_iff.mpr ⟨_, _, given, unsplit, rfl⟩⟩

/-- The fault that a result is. -/
def fault? : Except Failure Configuration → Option Fault
  | .error (.fault fault) => some fault
  | _ => none

theorem fault?_eq_some_iff {result : Except Failure Configuration} :
    fault? result = some fault ↔ result = .error (.fault fault) := by
  rcases result with (refusal | other) | configuration <;> simp [fault?]

end GuardedInstall.Config
