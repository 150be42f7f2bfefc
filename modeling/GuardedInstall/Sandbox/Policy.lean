import GuardedInstall.Json.Value
import GuardedInstall.Text.Sorted

/-!
# Sandbox policies

A policy lists the exceptions that a confined process is granted: reading,
paths to write below, commands to run, and the network. It is rendered as flags
for the sandbox launcher and as a document for the user. Both renderings
treat paths and commands as sets.
-/

namespace GuardedInstall.Sandbox

/-- The commands that a confined process may run. -/
inductive Runnable where
  | anything
  | only (commands : List String)
  deriving DecidableEq, Repr

/-- The exceptions granted to a confined process. -/
structure Policy where
  name : String
  readAll : Bool
  writable : List String
  runnable : Runnable
  network : Bool
  deriving DecidableEq, Repr

namespace Policy

/-- Whether any command may be run. -/
def runsAnything (policy : Policy) : Bool :=
  policy.runnable = .anything

/-- The flags that grant a list of values, one flag before each value. -/
def grants (flag : String) (values : List String) : List String :=
  values.flatMap fun value => [flag, value]

/-- The values of the run flags. A command is given by the file it names, where
it names one. -/
def runValues (which? : String → Option String) : Runnable → List String
  | .anything => ["/"]
  | .only commands =>
      (Text.Sorted.ofList commands).map fun command => (which? command).getD command

/-- The policy as flags for the sandbox launcher. -/
def flags (which? : String → Option String) (policy : Policy) : List String :=
  (if policy.readAll then ["--allow-read", "/"] else []) ++
    grants "--allow-write" (Text.Sorted.ofList policy.writable) ++
    grants "--allow-run" (runValues which? policy.runnable) ++
    ["--allow-env"] ++
    (if policy.network then ["--allow-net"] else [])

/-- A list of strings as a document. -/
def textList (texts : List String) : Json.Value :=
  .list (texts.map .text)

/-- The policy as a document. -/
def document (policy : Policy) : Json.Value :=
  .object
    [("name", .text policy.name),
      ("read", .text (if policy.readAll then "all" else "none")),
      ("write", textList (Text.Sorted.ofList policy.writable)),
      ("run", match policy.runnable with
        | .anything => .text "all"
        | .only commands => textList (Text.Sorted.ofList commands)),
      ("net", .boolean policy.network)]

end Policy

end GuardedInstall.Sandbox
