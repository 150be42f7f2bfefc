import GuardedInstall.Session

/-!
# Traces of runs

Seen from outside, a run is a list of acts: the processes that it runs and the
analyses that it asks for, in order. A process brings along the files that it
found, the files that it left and how it ended; the last two come from the
behaviours in store. What a run prints is no act.
-/

namespace GuardedInstall

open GuardedInstall.Lockfile (Dependency)

/-- A process that was run: how it was started, the files that it found and left,
and how it ended. -/
structure Process where
  start : Child.Start
  found : File.System
  left : File.System
  ending : Child.Ending

/-- The process that a behaviour makes of a start. -/
def Process.ofBehaviour (behaviour : Child.Behaviour) (start : Child.Start)
    (found : File.System) : Process :=
  ⟨start, found, (behaviour start found).1, (behaviour start found).2⟩

/-- Something that a run does: it runs a process, or asks for an analysis of
dependencies while the files are as given. -/
inductive Act where
  | ran (process : Process)
  | consulted (dependencies : List Dependency) (files : File.System)

namespace Act

/-- The process of an act. -/
def process? : Act → Option Process
  | ran process => some process
  | consulted _ _ => none

/-- The dependencies that an act has analysed. -/
def consultation? : Act → Option (List Dependency)
  | ran _ => none
  | consulted dependencies _ => some dependencies

end Act

/-- The processes among acts, in order. -/
def processes (acts : List Act) : List Process :=
  acts.filterMap Act.process?

/-- The analyses among acts, in order. -/
def consultations (acts : List Act) : List (List Dependency) :=
  acts.filterMap Act.consultation?

@[simp]
theorem processes_nil : processes [] = [] :=
  rfl

@[simp]
theorem processes_ran (process : Process) (acts : List Act) :
    processes (.ran process :: acts) = process :: processes acts :=
  rfl

@[simp]
theorem processes_consulted (dependencies : List Dependency) (files : File.System)
    (acts : List Act) : processes (.consulted dependencies files :: acts) = processes acts :=
  rfl

@[simp]
theorem consultations_nil : consultations [] = [] :=
  rfl

@[simp]
theorem consultations_ran (process : Process) (acts : List Act) :
    consultations (.ran process :: acts) = consultations acts :=
  rfl

@[simp]
theorem consultations_consulted (dependencies : List Dependency) (files : File.System)
    (acts : List Act) :
    consultations (.consulted dependencies files :: acts) =
      dependencies :: consultations acts :=
  rfl

@[simp]
theorem processes_append (first second : List Act) :
    processes (first ++ second) = processes first ++ processes second :=
  List.filterMap_append

@[simp]
theorem consultations_append (first second : List Act) :
    consultations (first ++ second) = consultations first ++ consultations second :=
  List.filterMap_append

namespace Event

/-- Whether an event is the start of a process. -/
def isStart : Event → Bool
  | started _ _ => true
  | _ => false

/-- The acts among events, given the behaviours of the processes to come. -/
def acts : List Child.Behaviour → List Event → List Act
  | _, [] => []
  | behaviours, started start files :: rest =>
      .ran (Process.ofBehaviour (behaviours.headD Child.idle) start files) ::
        acts behaviours.tail rest
  | behaviours, consulted dependencies files :: rest =>
      .consulted dependencies files :: acts behaviours rest
  | behaviours, requested _ _ :: rest => acts behaviours rest
  | behaviours, printed _ :: rest => acts behaviours rest

/-- Each start uses up one behaviour. -/
theorem acts_append (behaviours : List Child.Behaviour) (first second : List Event) :
    acts behaviours (first ++ second) =
      acts behaviours first ++ acts (behaviours.drop (first.countP isStart)) second := by
  induction first generalizing behaviours with
  | nil => simp [acts]
  | cons event rest ih =>
      cases event <;> simp [acts, ih, isStart, List.drop_tail, List.countP_cons]

/-- The first process is what the first behaviour makes of its start. -/
theorem eq_ofBehaviour_of_first {behaviours : List Child.Behaviour} {events : List Event}
    {process : Process} (first : (processes (acts behaviours events))[0]? = some process) :
    process = Process.ofBehaviour (behaviours.headD Child.idle) process.start process.found := by
  induction events with
  | nil => cases first
  | cons event rest ih =>
      cases event with
      | started start files =>
          cases first
          rfl
      | consulted dependencies files => exact ih first
      | requested request files => exact ih first
      | printed print => exact ih first

end Event

namespace Session

/-- A session continues another one by acts. -/
def Continues (first : Session) (acts : List Act) (second : Session) : Prop :=
  ∃ events, second.events = first.events ++ events ∧
    second.upcoming = first.upcoming.drop (events.countP Event.isStart) ∧
    Event.acts first.upcoming events = acts

variable {first second third : Session} {acts more : List Act}

theorem Continues.refl (session : Session) : session.Continues [] session :=
  ⟨[], by simp, by simp, rfl⟩

/-- Acts add up. -/
theorem Continues.trans (left : first.Continues acts second)
    (right : second.Continues more third) : first.Continues (acts ++ more) third := by
  obtain ⟨events, eventsEq, upcomingEq, rfl⟩ := left
  obtain ⟨later, laterEq, restEq, rfl⟩ := right
  refine ⟨events ++ later, ?_, ?_, ?_⟩
  · rw [laterEq, eventsEq, List.append_assoc]
  · rw [restEq, upcomingEq, List.drop_drop, List.countP_append]
  · rw [Event.acts_append, upcomingEq]

/-- The acts of a session are determined by where it began. -/
theorem Continues.acts_eq {files : File.System} {behaviours : List Child.Behaviour}
    (continues : (Session.start files behaviours).Continues acts second) :
    Event.acts behaviours second.events = acts := by
  obtain ⟨events, eventsEq, _, rfl⟩ := continues
  simp [eventsEq, start]

theorem continues_record_printed (session : Session) (print : Console.Print) :
    session.Continues [] (session.record (.printed print)) :=
  ⟨[.printed print], rfl, rfl, rfl⟩

/-- The process that a session runs when one is started. -/
def nextProcess (session : Session) (start : Child.Start) : Process :=
  Process.ofBehaviour session.nextBehaviour start session.files

theorem continues_advance (session : Session) (start : Child.Start) :
    session.Continues [.ran (session.nextProcess start)] (session.advance start).2 :=
  ⟨[.started start session.files], rfl, by simp [advance, Event.isStart], rfl⟩

end Session

end GuardedInstall
