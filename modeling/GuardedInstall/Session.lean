import GuardedInstall.Analysis.Client
import GuardedInstall.Config.Load
import GuardedInstall.Console.Print
import GuardedInstall.File.Snapshot
import GuardedInstall.Lockfile.Parse
import GuardedInstall.Child.Behaviour

/-!
# Sessions

A session is what a run acts on: the files, the behaviours of the processes
that are still to be started, and everything that has happened so far, in
order. A run either gives a result or leaves by a departure, and keeps the
session in both cases. The console takes every text: one that refuses a text,
because its encoding lacks a character or because it is closed, is left out.
-/

namespace GuardedInstall

open GuardedInstall.Lockfile (Dependency)

/-- Something that happened in a run. Files are given as they were at that
moment. -/
inductive Event where
  | started (start : Child.Start) (files : File.System)
  | consulted (dependencies : List Dependency) (files : File.System)
  | requested (request : Analysis.Request) (files : File.System)
  | printed (print : Console.Print)

/-- The files, the behaviours of the processes to come, and what happened. -/
structure Session where
  files : File.System
  upcoming : List Child.Behaviour
  events : List Event

/-- A way out of a run that gives no result. -/
inductive Departure where
  | launcherUnset
  | launcherNotFound (launcher : String)
  | commandNotFound (command : String)
  | process (failure : Child.Failure)
  | lockfile (fault : Lockfile.Fault)
  | analysis (fault : Analysis.Fault)
  | access (error : File.AccessError)
  | configuration (fault : Config.Fault)
  | home (error : File.HomeError)
  deriving DecidableEq, Repr

/-- The message of a departure. -/
def Departure.message : Departure → String
  | launcherUnset => "no sandbox launcher configured"
  | launcherNotFound launcher => s!"sandbox launcher \x60{launcher}\x60 not found"
  | commandNotFound command => s!"\x60{command}\x60 not found on PATH"
  | process failure => failure.message
  | lockfile fault => fault.message
  | analysis fault => fault.message
  | access error => error.message
  | configuration fault => fault.message
  | home error => error.message

/-- Whether a departure says that a command could not be started. -/
def Departure.isNotStarted : Departure → Bool
  | launcherUnset => true
  | launcherNotFound _ => true
  | commandNotFound _ => true
  | _ => false

namespace Session

/-- The session at the start of a run. -/
def start (files : File.System) (upcoming : List Child.Behaviour) : Session :=
  ⟨files, upcoming, []⟩

/-- Record an event. -/
def record (session : Session) (event : Event) : Session :=
  { session with events := session.events ++ [event] }

/-- Restore snapshots. -/
def restore (session : Session) (snapshots : List File.Snapshot) : Session :=
  { session with files := File.Snapshot.restoreAll snapshots session.files }

/-- The behaviour of the next process. When none is left, processes do
nothing. -/
def nextBehaviour (session : Session) : Child.Behaviour :=
  session.upcoming.headD Child.idle

/-- Start a process and let it act. -/
def advance (session : Session) (start : Child.Start) : Child.Ending × Session :=
  let (files, ending) := session.nextBehaviour start session.files
  (ending,
    { files
      upcoming := session.upcoming.tail
      events := session.events ++ [.started start session.files] })

/-- The prints of a session, in order. -/
def prints (session : Session) : List Console.Print :=
  session.events.filterMap fun event =>
    match event with
    | .printed print => some print
    | _ => none

end Session

/-- A run acts on a session and gives a result or a departure. -/
abbrev Run (α : Type) := ExceptT Departure (StateM Session) α

namespace Run

/-- Print. -/
def print (print : Console.Print) : Run Unit :=
  modify fun session => session.record (.printed print)

/-- Print several things in order. -/
def printAll (prints : List Console.Print) : Run Unit :=
  prints.forM print

/-- Print a tagged line. -/
def say (level : Console.Level) (text : String) : Run Unit :=
  print (.say level text)

/-- Print an empty line. -/
def blank (stream : Console.Stream) : Run Unit :=
  print (.blank stream)

/-- Start a process. -/
def start (start : Child.Start) : Run Child.Ending :=
  fun session =>
    let (ending, session) := session.advance start
    (.ok ending, session)

/-- Have dependencies evaluated. -/
def consult (analyzer : Analysis.Analyzer) (dependencies : List Dependency) :
    Run (Except Analysis.Error Analysis.Evaluation) := do
  modify fun session => session.record (.consulted dependencies session.files)
  let (requests, answer) := analyzer dependencies
  requests.forM fun request =>
    modify fun session => session.record (.requested request session.files)
  match answer with
  | .ok evaluation => pure (.ok evaluation)
  | .error (.reported error) => pure (.error error)
  | .error (.fault fault) => throw (.analysis fault)

/-- Run a body and restore snapshots after it, whatever its result. -/
def restoring {α : Type} (snapshots : List File.Snapshot) (body : Run α) : Run α :=
  fun session =>
    let (result, session) := body session
    (result, session.restore snapshots)

/-- Run a body and restore snapshots after it, unless it gives a result that is
to be kept. -/
def restoringUnless {α : Type} (keep : α → Bool) (snapshots : List File.Snapshot)
    (body : Run α) : Run α :=
  fun session =>
    match body session with
    | (.ok value, session) =>
        (.ok value, if keep value then session else session.restore snapshots)
    | (.error departure, session) => (.error departure, session.restore snapshots)

end Run

end GuardedInstall
