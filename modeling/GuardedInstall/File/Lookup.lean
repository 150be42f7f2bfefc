import GuardedInstall.File.System

/-!
# Looking up programs

A command with a slash names a file itself. Any other command is looked for in
the directories of the search path, in order; the first file that may be
executed is taken.
-/

namespace GuardedInstall.File.System

/-- The file of a command in a directory of the search path. The empty directory
is the working directory. -/
def commandIn (directory command : String) : String :=
  if directory = "" ∨ directory.endsWith "/" then directory ++ command
  else directory ++ "/" ++ command

/-- The directories of a search path. -/
def searchDirectories (searchPath : String) : List String :=
  (Text.pieces ':' searchPath.toList).map String.ofList

/-- The file that a command names, if one may be executed. -/
def which? (files : System) (searchPath command : String) : Option String :=
  if command.toList.contains '/' then
    if files.isExecutable command then some command else none
  else if searchPath = "" then none
  else
    ((searchDirectories searchPath).map fun directory =>
      commandIn directory command).find? files.isExecutable

end GuardedInstall.File.System
