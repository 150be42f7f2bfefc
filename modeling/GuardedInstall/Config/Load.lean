import GuardedInstall.Config.Basic
import GuardedInstall.File.Home
import GuardedInstall.File.System
import GuardedInstall.Json.Reader
import GuardedInstall.Program
import GuardedInstall.Text.Lines
import GuardedInstall.Text.Words
import GuardedInstall.Toml.Reader

/-!
# Loading the configuration

The configuration is read from one file: the one that is asked for, the one
that the environment names, or the first of two in the configuration directory.
Variables of the environment then replace single settings. A file that is asked
for must be there; without any file the defaults hold.
-/

namespace GuardedInstall.Config

/-- The variables of an environment. -/
abbrev Environment := List (String × String)

/-- The value of a variable that is set and not empty. -/
def Environment.given? (environment : Environment) (name : String) : Option String :=
  (environment.lookup name).filter (· ≠ "")

/-- The two formats of configuration files. -/
inductive Format where
  | json
  | toml
  deriving DecidableEq, Repr

/-- The name of a format. -/
def Format.name : Format → String
  | json => "JSON"
  | toml => "TOML"

/-- Why a configuration is refused. -/
inductive Refusal where
  | notFound (path : String)
  | malformed (format : Format) (path : String)
  | unreadable (path : String) (error : File.AccessError)
  | notATable (path : String)
  | invalid (path : String) (reason : Invalid)
  | emptyLauncher
  deriving DecidableEq, Repr

/-- The message of a refusal. -/
def Refusal.message : Refusal → String
  | notFound path => s!"Config file not found: {path}"
  | malformed format path => s!"Malformed {format.name} config at {path}: <detail>"
  | unreadable path error => s!"Failed to read config {path}: {error.message}"
  | notATable path => s!"Invalid config structure in {path}: top level must be a table"
  | invalid path reason => s!"Invalid config structure in {path}: {reason.message}"
  | emptyLauncher => "LOCKGUARD_SANDBOX is set but empty"

/-- A fault of loading that is not told as a refusal: a file that cannot be
looked at, a number that is too large, a launcher with open quotes, or a home
directory that is unknown. -/
inductive Fault where
  | access (error : File.AccessError)
  | tooManyDigits (count : Nat)
  | numberTooLarge
  | words (error : Text.Words.Error)
  | home (error : File.HomeError)
  deriving DecidableEq, Repr

/-- The message of a fault. -/
def Fault.message : Fault → String
  | access error => error.message
  | tooManyDigits count => Json.tooManyDigitsMessage count
  | numberTooLarge => "int too large to convert to float"
  | words error => error.message
  | home error => error.message

/-- Why there is no configuration. -/
inductive Failure where
  | refused (refusal : Refusal)
  | fault (fault : Fault)
  deriving DecidableEq, Repr

/-- The format of a file, told by the ending of its name. -/
def formatOf (path : File.Path) : Format :=
  if path.suffix = ".json" then .json else .toml

/-- Decode a text in a format. A document that is no table has no settings. -/
def decode (format : Format) (text : List Char) : Except Json.ReadError (Option Table) :=
  match format with
  | .json => do
      match ← Json.read (Text.normaliseNewlines text) with
      | .object fields => pure (some (Setting.ofJsonFields fields))
      | _ => pure none
  | .toml => do pure (some (Setting.ofTomlEntries (← Toml.read text)))

/-- The configuration of a document. -/
def ofDocument (path : File.Path) (document : Option Table) : Except Failure Configuration :=
  match document with
  | none => .error (.refused (.notATable path.toString))
  | some settings =>
      match Configuration.ofTable settings (some path) with
      | .ok configuration => .ok configuration
      | .error (.invalid reason) => .error (.refused (.invalid path.toString reason))
      | .error .numberTooLarge => .error (.fault .numberTooLarge)

/-- The configuration of a file. -/
def loadFile (files : File.System) (path : File.Path) : Except Failure Configuration :=
  let format := formatOf path
  let malformed : Except Failure Configuration :=
    .error (.refused (.malformed format path.toString))
  match files.read path with
  | .error error =>
      if error.failure = .nullByte ∨ error.failure = .half then .error (.fault (.access error))
      else .error (.refused (.unreadable path.toString error))
  | .ok content =>
      match String.fromUTF8? content with
      | none => malformed
      | some text =>
          match decode format text.toList with
          | .ok document => ofDocument path document
          | .error .malformed => malformed
          | .error (.tooManyDigits count) => .error (.fault (.tooManyDigits count))

/-- The directory of the configuration files. -/
def directory (environment : Environment) (homes : File.Homes) : Except Failure File.Path :=
  match environment.given? "XDG_CONFIG_HOME" with
  | some base => .ok ((File.Path.ofString base).child Program.name)
  | none =>
      match homes.expand (File.Path.ofString "~") with
      | .ok home => .ok ((home.child ".config").child Program.name)
      | .error error => .error (.fault (.home error))

/-- Whether something stands at a path. -/
def present (files : File.System) (path : File.Path) : Except Failure Bool :=
  (files.present path).mapError fun error => .fault (.access error)

/-- The first of the given files that is there. -/
def firstPresent (files : File.System) : List File.Path → Except Failure (Option File.Path)
  | [] => .ok none
  | path :: rest => do
      if ← present files path then pure (some path) else firstPresent files rest

/-- The files that are looked for when none is asked for. -/
def candidates (environment : Environment) (homes : File.Homes) :
    Except Failure (List File.Path) := do
  let directory ← directory environment homes
  pure [directory.child "config.toml", directory.child "config.json"]

/-- The file that the configuration is read from. -/
def source (files : File.System) (environment : Environment) (homes : File.Homes)
    (requested : Option File.Path) : Except Failure (Option File.Path) :=
  match requested <|> (environment.given? "LOCKGUARD_CONFIG").map File.Path.ofString with
  | some path => do
      if ← present files path then pure (some path)
      else throw (.refused (.notFound path.toString))
  | none => do firstPresent files (← candidates environment homes)

/-- The launcher that a text names. -/
def launcherOf (text : String) : Except Failure (List String) := do
  match ← (Text.Words.split text).mapError fun error => .fault (.words error) with
  | [] => throw (.refused .emptyLauncher)
  | words => pure words

/-- Replace the settings that the environment gives. -/
def override (environment : Environment) (configuration : Configuration) :
    Except Failure Configuration := do
  let apiUrl := (environment.given? "LOCKGUARD_API_URL").map Configuration.trimSlashes
  let apiToken := environment.given? "LOCKGUARD_API_TOKEN"
  let launcher ← (environment.given? "LOCKGUARD_SANDBOX").mapM launcherOf
  let packageManager := environment.given? "LOCKGUARD_PACKAGE_MANAGER"
  pure
    { configuration with
      apiUrl := apiUrl.getD configuration.apiUrl
      apiToken := apiToken <|> configuration.apiToken
      launcher := launcher.getD configuration.launcher
      packageManager := packageManager.getD configuration.packageManager }

/-- Load the configuration. -/
def load (files : File.System) (environment : Environment) (homes : File.Homes)
    (requested : Option File.Path) : Except Failure Configuration := do
  let configuration ← match ← source files environment homes requested with
    | some path => loadFile files path
    | none => pure Configuration.default
  override environment configuration

end GuardedInstall.Config
