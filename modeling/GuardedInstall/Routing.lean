/-!
# Routing of a package manager's arguments

An invocation whose first argument is a subcommand that changes dependencies
is guarded; any other is handed through. Arguments in front of the first
subcommand are refused, since they could send a guarded subcommand elsewhere.
-/

namespace GuardedInstall

/-- What happens to an invocation. -/
inductive Route where
  | intercept
  | passthrough
  deriving DecidableEq, Repr

/-- The refusal of arguments in front of the first subcommand. It names the
first argument. -/
structure UsageError where
  argument : String
  deriving DecidableEq, Repr

/-- The message of a refusal. -/
def UsageError.message (error : UsageError) : String :=
  "lockguard does not support arguments before the first subcommand. " ++
    s!"Please open an issue if \"{error.argument}\" is not an argument."

namespace Route

/-- The subcommands that change dependencies. -/
def guarded : List String :=
  ["add", "install", "up", "dedupe", "remove"]

/-- Whether an argument is a flag. -/
def isFlag (argument : String) : Bool :=
  argument.startsWith "-"

/-- The position of the first argument that is not a flag. -/
def subcommandIndex? (arguments : List String) : Option Nat :=
  arguments.findIdx? fun argument => !isFlag argument

/-- The name of a route in reports. -/
def name : Route → String
  | intercept => "intercept"
  | passthrough => "passthrough"

/-- The route of an invocation. -/
def ofArguments : List String → Except UsageError Route
  | [] => .ok passthrough
  | first :: rest =>
      if (subcommandIndex? (first :: rest)).any (0 < ·) then .error ⟨first⟩
      else if first ∈ guarded then .ok intercept
      else .ok passthrough

end Route

end GuardedInstall
