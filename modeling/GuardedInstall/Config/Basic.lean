import GuardedInstall.Config.Setting
import GuardedInstall.File.Path

/-!
# The configuration

What a run needs to know: the package manager and its runtime, the launcher of
the sandbox, how to reach the analysis service, and which exit codes to give.
Each part has a default, and a document may set it.
-/

namespace GuardedInstall.Config

/-- A resolved configuration. -/
structure Configuration where
  packageManager : String
  runtime : String
  launcher : List String
  extraWritable : List String
  apiUrl : String
  apiToken : Option String
  apiTimeout : Float
  project : Option String
  preserveNative : Bool
  /-- The file that the configuration was read from. -/
  source : Option File.Path

namespace Configuration

/-- The configuration of a run for which nothing is set. -/
def default : Configuration where
  packageManager := "yarn"
  runtime := "node"
  launcher := ["phylum", "sandbox"]
  extraWritable := []
  apiUrl := "https://api.phylum.io/api/v0"
  apiToken := none
  apiTimeout := 300
  project := none
  preserveNative := false
  source := none

/-- Drop the slashes at the end of an address. -/
def trimSlashes (text : String) : String :=
  String.ofList (Text.trimEnd (· == '/') text.toList)

/-- The configuration that a document sets. -/
def ofTable (settings : Table) (source : Option File.Path) : Except Unusable Configuration := do
  let sandbox ← settings.tableAt "sandbox"
  let analysis ← settings.tableAt "analysis"
  let exitCodes ← settings.tableAt "exit_codes"
  let packageManager ← settings.textAt "package_manager" default.packageManager
  let runtime ← settings.textAt "runtime" default.runtime
  let launcher ← sandbox.textListAt "launcher" default.launcher
  let extraWritable ← sandbox.textListAt "extra_writable" default.extraWritable
  let apiUrl ← analysis.textAt "api_url" default.apiUrl
  let apiToken ← analysis.optionalTextAt "api_token"
  let apiTimeout ← analysis.positiveAt "timeout" default.apiTimeout
  let project ← analysis.optionalTextAt "project"
  let preserveNative ← exitCodes.flagAt "preserve_native" default.preserveNative
  pure
    { packageManager, runtime, launcher, extraWritable
      apiUrl := trimSlashes apiUrl
      apiToken, apiTimeout, project, preserveNative, source }

end Configuration

end GuardedInstall.Config
