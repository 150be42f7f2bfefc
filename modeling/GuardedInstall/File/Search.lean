import GuardedInstall.File.System

/-!
# Searching upwards for a marker

The root of a project is the nearest directory, from a starting point upwards,
in which a marker stands. Only so many directories are looked at; the root of
the file system is the last one.
-/

namespace GuardedInstall.File.System

/-- The number of directories that are looked at unless another is given. -/
def searchDepth : Nat := 32

/-- Search a directory and those above it. -/
def searchUp (files : System) (marker : String) : Nat → Path → Except AccessError (Option Path)
  | 0, _ => .ok none
  | depth + 1, here => do
      if ← files.present (here.child marker) then pure (some here)
      else if here.parent = here then pure none
      else searchUp files marker depth here.parent

/-- The nearest directory at or above a starting point that holds a marker. -/
def findRoot (files : System) (marker : String) (start : Path) (depth : Nat) :
    Except AccessError (Option Path) :=
  files.searchUp marker depth (Path.absolute files.workingPath start)

end GuardedInstall.File.System
