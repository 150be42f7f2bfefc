import GuardedInstall.File.Lookup
import GuardedInstall.Outcome
import GuardedInstall.Sandbox.Policy
import GuardedInstall.Session

/-!
# Starting processes

A confined command is started through a launcher: the launcher's own command
line comes first, then the flags of the policy, then the command to confine. A
command that is handed through is started as it is.
-/

namespace GuardedInstall.Sandbox

/-- The command line that confines a command. -/
def confined (launcher flags : List String) (command : String) (arguments : List String) :
    List String :=
  launcher ++ flags ++ command :: arguments

/-- The result of a stage whose process ended. -/
def resultOf : Child.Ending → Except Child.Failure StageResult
  | .exited code => .ok ⟨code == 0, some code⟩
  | .killed _ => .ok ⟨false, none⟩
  | .failed failure => .error failure

/-- Run a command under a policy, through a launcher. -/
def launch (launcher : List String) (directory : File.Path) (searchPath command : String)
    (arguments : List String) (policy : Policy) : Run StageResult := do
  match launcher with
  | [] => throw .launcherUnset
  | first :: _ =>
      let flags := policy.flags ((← get).files.which? searchPath)
      let ending ← Run.start ⟨confined launcher flags command arguments, directory⟩
      match resultOf ending with
      | .ok result => pure result
      | .error .notFound => throw (.launcherNotFound first)
      | .error failure => throw (.process failure)

/-- The exit code that a signal stands for is this number above the signal's. -/
def signalBase : Nat := 128

/-- Run a command as it is, and give its exit code. -/
def handThrough (command : String) (arguments : List String) (directory : File.Path) :
    Run Nat := do
  match ← Run.start ⟨command :: arguments, directory⟩ with
  | .exited code => pure code
  | .killed signal => pure (signalBase + signal)
  | .failed .notFound => throw (.commandNotFound command)
  | .failed failure => throw (.process failure)

end GuardedInstall.Sandbox
