import GuardedInstall.File.System

/-!
# Child processes

A process is started with a command line in a directory. What it does is
unknown: it may change files in any way and end in any way, or fail to start.
A behaviour is one such possibility.
-/

namespace GuardedInstall.Child

/-- The start of a process. -/
structure Start where
  command : List String
  directory : File.Path
  deriving DecidableEq, Repr

/-- Why a process gives no exit status. -/
inductive Failure where
  | notFound
  | notPermitted
  | broken (detail : String)
  | interrupted (detail : String)
  deriving DecidableEq, Repr

/-- The message of a failure. -/
def Failure.message : Failure → String
  | notFound => "[Errno 2] No such file or directory"
  | notPermitted => "[Errno 13] Permission denied"
  | broken detail => detail
  | interrupted detail => detail

/-- How a process ends. -/
inductive Ending where
  | exited (code : Nat)
  | killed (signal : Nat)
  | failed (failure : Failure)
  deriving DecidableEq, Repr

/-- What a process does: it finds files, leaves files, and ends. -/
abbrev Behaviour := Start → File.System → File.System × Ending

/-- The behaviour of a process that does nothing. -/
def idle : Behaviour := fun _ files => (files, .exited 0)

end GuardedInstall.Child
