import GuardedInstall.CommandLine.Invocation
import GuardedInstall.Config.Load
import GuardedInstall.Json.Printer
import GuardedInstall.Pipeline

/-!
# Running an invocation

The configuration is loaded first. Then either the package manager is run
through the guarded pipeline, or the policy of a stage is shown. The result is
the exit status of the program.
-/

namespace GuardedInstall.CommandLine

open GuardedInstall.Sandbox (Stage)

/-- The exit status for a command line that cannot be understood. -/
def usageStatus : Int := 2

/-- The exit status after an interruption. -/
def interruptedStatus : Int := 130

/-- The directories that programs are looked for in when the environment names
none. -/
def defaultSearchPath : String := "/bin:/usr/bin"

/-- The home directories in an environment. The accounts of the system are given; the
user's own directory is that of the account, unless the environment names another. -/
def homesOf (accounts : File.Homes) (environment : Config.Environment) : File.Homes :=
  { accounts with own := (environment.lookup "HOME").getD accounts.own }

/-- The search path in an environment. -/
def searchPathOf (environment : Config.Environment) : String :=
  (environment.lookup "PATH").getD defaultSearchPath

/-- What a run is given by an environment. -/
def setupOf (accounts : File.Homes) (environment : Config.Environment)
    (configuration : Config.Configuration) : Pipeline.Setup where
  configuration
  homes := homesOf accounts environment
  searchPath := searchPathOf environment

/-- Load the configuration. A refusal is told and ends the run with a status. -/
def configured (accounts : File.Homes) (environment : Config.Environment)
    (requested : Option File.Path) (body : Config.Configuration → Run Int) : Run Int := do
  match Config.load (← get).files environment (homesOf accounts environment) requested with
  | .ok configuration => body configuration
  | .error (.refused refusal) =>
      Run.say .error refusal.message
      pure ExitCode.usage.number
  | .error (.fault fault) => throw (.configuration fault)

/-- Tell that a command could not be started. Other departures stay, except that
an interruption is a status of its own. -/
def told (departure : Departure) : Run Int := do
  if departure.isNotStarted then
    Run.say .error departure.message
    pure ExitCode.usage.number
  else
    match departure with
    | .process (.interrupted _) => pure interruptedStatus
    | other => throw other

/-- Run the package manager in the working directory. -/
def runPackageManager (accounts : File.Homes) (environment : Config.Environment)
    (send : Analysis.Request → Analysis.Response) (arguments : List String)
    (configuration : Config.Configuration) : Run Int := do
  let analyzer := (Analysis.Client.ofConfiguration configuration).check send
  let setup := setupOf accounts environment configuration
  let directory := (← get).files.workingPath
  let status : Run Int := do
    let outcome ← Pipeline.run setup analyzer arguments directory
    pure (outcome.exitStatus configuration.preserveNative)
  tryCatch status told

/-- The document that shows a policy and the command line of its launcher. -/
def policyDocument (launcher flags : List String) (policy : Sandbox.Policy) : Json.Value :=
  .object
    [("policy", policy.document),
      ("launcher_args", Sandbox.Policy.textList (launcher ++ flags))]

/-- Show the policy of a stage below a root. -/
def showPolicy (accounts : File.Homes) (environment : Config.Environment) (stage : Stage)
    (root : Option File.Path) (configuration : Config.Configuration) : Run Int := do
  let files := (← get).files
  let setup := setupOf accounts environment configuration
  let root ← MonadExcept.ofExcept
    ((files.resolve (root.getD files.workingPath)).mapError Departure.access)
  match stage.policy root configuration setup.homes with
  | .error error => throw (.home error)
  | .ok policy =>
      let flags := policy.flags (files.which? setup.searchPath)
      let document := policyDocument configuration.launcher flags policy
      Run.print (.verbatim .out (Json.indented document ++ "\n"))
      pure ExitCode.ok.number

/-- Do what an invocation asks for. -/
def perform (accounts : File.Homes) (environment : Config.Environment)
    (send : Analysis.Request → Analysis.Response) : Invocation → Run Int
  | .showVersion => do
      Run.print (.verbatim .out (Program.version ++ "\n"))
      pure ExitCode.ok.number
  | .runPackageManager requested arguments =>
      configured accounts environment requested
        (runPackageManager accounts environment send arguments)
  | .showPolicy requested stage root =>
      configured accounts environment requested (showPolicy accounts environment stage root)

/-- Run the program with the words of a command line. -/
def run (environment : Config.Environment) (send : Analysis.Request → Analysis.Response)
    (words : List String) (accounts : File.Homes := .standard) : Run Int :=
  match Invocation.ofWords words with
  | some invocation => perform accounts environment send invocation
  | none => pure usageStatus

end GuardedInstall.CommandLine
