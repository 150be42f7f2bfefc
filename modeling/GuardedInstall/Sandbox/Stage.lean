import GuardedInstall.Config.Basic
import GuardedInstall.File.Home
import GuardedInstall.Sandbox.Policy

/-!
# The policies of the stages

Each stage of a guarded run gets the least that it needs. The network is there
while the lockfile is resolved and the cache is filled, when no package code
runs; the build, in which package code runs, has no network and writes below
the project and the temporary directory only.
-/

namespace GuardedInstall.Sandbox

/-- The stages of a guarded run. -/
inductive Stage where
  | dryRun
  | cache
  | build
  deriving DecidableEq, Repr

namespace Stage

/-- The name of a stage. -/
def name : Stage → String
  | dryRun => "dry-run"
  | cache => "cache"
  | build => "build"

/-- Every stage, in the order of a run. -/
def all : List Stage := [dryRun, cache, build]

/-- The stage of a name. -/
def ofName? (text : String) : Option Stage :=
  all.find? fun stage => stage.name = text

/-- The message for a name that is no stage. -/
def unknownMessage (text : String) : String :=
  s!"{Text.Quoted.literal text} is not a valid Stage"

/-- The directory for temporary files. -/
def temporaryDirectory : String := "/tmp"

/-- The directories in which the package manager keeps its caches. -/
def cacheDirectories : List String :=
  ["~/.cache/node", "~/.cache/yarn", "~/.yarn"]

/-- The further cache directory of another system. -/
def libraryCache : String := "~/Library/Caches/Yarn"

/-- The paths that a stage may write below, before home directories are put in
for tildes. -/
def writablePaths (stage : Stage) (root : File.Path) (extra : List String) : List String :=
  match stage with
  | dryRun => cacheDirectories ++ [root.toString, temporaryDirectory] ++ extra
  | cache => cacheDirectories ++ [root.toString, libraryCache, temporaryDirectory] ++ extra
  | build => [temporaryDirectory, root.toString]

/-- The commands that a stage may run. -/
def runnable (stage : Stage) (configuration : Config.Configuration) : Runnable :=
  match stage with
  | build => .anything
  | _ => .only [configuration.packageManager, configuration.runtime]

/-- Put home directories in for tildes. -/
def expandAll (homes : File.Homes) (paths : List String) :
    Except File.HomeError (List String) :=
  paths.mapM fun path => (homes.expand (File.Path.ofString path)).map File.Path.toString

/-- The policy of a stage. -/
def policy (stage : Stage) (root : File.Path) (configuration : Config.Configuration)
    (homes : File.Homes) : Except File.HomeError Policy :=
  (expandAll homes (stage.writablePaths root configuration.extraWritable)).map fun writable =>
    { name := stage.name
      readAll := true
      writable
      runnable := stage.runnable configuration
      network := stage != build }

end Stage

end GuardedInstall.Sandbox
