import GuardedInstall.CommandLine.Run
import GuardedInstall.File.Tree

/-!
# The outer layer

The program reads the environment and the files that a run may look at, runs,
writes what was printed, and exits with the status. It has no way to start a
process or to send a request, so a process is never found and the service is
never reached. It does not read the accounts of the system either, and takes
those that a system comes with.
-/

namespace GuardedInstall.Outer

/-- The variables of the environment that a run looks at. -/
def variableNames : List String :=
  ["HOME", "PATH", "XDG_CONFIG_HOME", "LOCKGUARD_CONFIG", "LOCKGUARD_API_URL",
    "LOCKGUARD_API_TOKEN", "LOCKGUARD_SANDBOX", "LOCKGUARD_PACKAGE_MANAGER"]

/-- The accounts that are taken for those of the system. -/
def accounts : File.Homes := .standard

/-- The environment, as far as a run looks at it. -/
def readEnvironment : IO Config.Environment := do
  let found ← variableNames.mapM fun name => do
    pure ((← IO.getEnv name).map fun value => (name, value))
  pure (found.filterMap id)

/-- What stands at a path. The content of a file is read only on request. -/
def contentAt (path : File.Path) (whole : Bool) : IO File.Content := do
  let place := (← IO.currentDir) / path.toString
  try
    match (← place.metadata).type with
    | .dir => pure .directory
    | _ =>
        if whole then pure (.bytes (← IO.FS.readBinFile place))
        else pure (.program true)
  catch _ => pure .absent

/-- Put what stands at paths into a file system. -/
def readAll (files : File.System) (paths : List File.Path) (whole : Bool) : IO File.System :=
  paths.foldlM (fun files path => do
    match ← contentAt path whole with
    | .absent => pure files
    | content => pure (files.change path content)) files

/-- The configuration file that a command line asks for. -/
def askedFor (words : List String) : Option File.Path :=
  (CommandLine.readOptions {} words).bind fun (options, _) =>
    options.configuration.map File.Path.ofString

/-- The configuration files that may be read. -/
def configurationPaths (environment : Config.Environment) (words : List String) :
    List File.Path :=
  let named := (environment.given? "LOCKGUARD_CONFIG").map File.Path.ofString
  let homes := CommandLine.homesOf accounts environment
  let standard := match Config.candidates environment homes with
    | .ok paths => paths
    | .error _ => []
  (askedFor words).toList ++ named.toList ++ standard

/-- The files of a project, at a directory and at those above it. -/
def projectPaths : Nat → File.Path → List File.Path
  | 0, _ => []
  | depth + 1, here =>
      here.child Pipeline.manifest :: here.child Pipeline.lockfile ::
        projectPaths depth here.parent

/-- The files that commands may name on the search path. -/
def commandPaths (searchPath : String) (commands : List String) : List File.Path :=
  commands.flatMap fun command =>
    (File.System.searchDirectories searchPath).map fun directory =>
      File.Path.ofString (File.System.commandIn directory command)

/-- The files that a run may look at. -/
def readFiles (environment : Config.Environment) (words : List String) : IO File.System := do
  let directory := File.Path.ofString (← IO.currentDir).toString
  let place := directory.names.reverse
  let start := File.System.makeDirectory ⟨[], place⟩ place
  let files ← readAll start (configurationPaths environment words) true
  let files ← readAll files (projectPaths File.System.searchDepth directory) true
  let homes := CommandLine.homesOf accounts environment
  match Config.load files environment homes (askedFor words) with
  | .error _ => pure files
  | .ok configuration =>
      let setup := CommandLine.setupOf accounts environment configuration
      let commands := [configuration.packageManager, configuration.runtime]
      readAll files (commandPaths setup.searchPath commands) false

/-- A process that is never found. -/
def absent : Child.Behaviour := fun _ files => (files, .failed .notFound)

/-- A service that is never reached. -/
def unreached : Analysis.Request → Analysis.Response :=
  fun _ => .unreachable "no connection"

/-- The status with which an operating system is told of a status. -/
def statusByte (status : Int) : UInt32 :=
  UInt32.ofNat (status.emod 256).toNat

end GuardedInstall.Outer

open GuardedInstall

/-- Run the program. -/
def main (words : List String) : IO UInt32 := do
  let environment ← Outer.readEnvironment
  let files ← Outer.readFiles environment words
  let session := Session.start files [Outer.absent]
  let (result, session) :=
    (CommandLine.run environment Outer.unreached words Outer.accounts).run.run session
  (← IO.getStdout).putStr (Console.transcript false .out session.prints)
  (← IO.getStderr).putStr (Console.transcript false .err session.prints)
  match result with
  | .ok status => pure (Outer.statusByte status)
  | .error departure =>
      (← IO.getStderr).putStrLn departure.message
      pure 1
