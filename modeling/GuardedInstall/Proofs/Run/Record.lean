import GuardedInstall.Proofs.Analysis.Told
import GuardedInstall.Proofs.Run.Rules

/-!
# What runs record

A run adds events to those of its session, whatever the session is. Printing counts here,
and so there is a second set of rules, which says nothing of files. A run is quiet if it
asks for no analysis and prints nothing that could be a part of a report.
-/

namespace GuardedInstall

open GuardedInstall.Analysis.Report (Silent)
open GuardedInstall.Lockfile (Dependency)

namespace Event

/-- The print of an event. -/
def print? : Event → Option Console.Print
  | printed print => some print
  | _ => none

/-- The dependencies whose analysis an event asks for. -/
def asked? : Event → Option (List Dependency)
  | consulted dependencies _ => some dependencies
  | _ => none

/-- The prints among events, in order. -/
def prints (events : List Event) : List Console.Print :=
  events.filterMap print?

/-- The analyses that events ask for, in order. -/
def asked (events : List Event) : List (List Dependency) :=
  events.filterMap asked?

@[simp]
theorem prints_append (first second : List Event) :
    prints (first ++ second) = prints first ++ prints second :=
  List.filterMap_append

@[simp]
theorem asked_append (first second : List Event) :
    asked (first ++ second) = asked first ++ asked second :=
  List.filterMap_append

theorem prints_map_printed (printed : List Console.Print) :
    prints (printed.map .printed) = printed := by
  simp [prints, List.filterMap_map, Function.comp_def, print?]

theorem asked_map_printed (printed : List Console.Print) : asked (printed.map .printed) = [] := by
  simp [asked, asked?]

theorem countP_map_printed (printed : List Console.Print) :
    (printed.map Event.printed).countP isStart = 0 := by
  simp [isStart]

theorem consultations_acts (behaviours : List Child.Behaviour) (events : List Event) :
    consultations (acts behaviours events) = asked events := by
  induction events generalizing behaviours with
  | nil => rfl
  | cons event rest ih =>
      cases event with
      | consulted dependencies files => exact congrArg (dependencies :: ·) (ih behaviours)
      | started start files => exact ih behaviours.tail
      | requested request files => exact ih behaviours
      | printed print => exact ih behaviours

/-- Events that ask for analyses, and neither print nor start anything. -/
structure Asks (analyses : List (List Dependency)) (events : List Event) : Prop where
  asked : asked events = analyses
  unprinted : prints events = []
  unstarted : events.countP isStart = 0

theorem Asks.append {analyses more : List (List Dependency)} {first second : List Event}
    (left : Asks analyses first) (right : Asks more second) :
    Asks (analyses ++ more) (first ++ second) := by
  constructor
  · rw [asked_append, left.asked, right.asked]
  · rw [prints_append, left.unprinted, right.unprinted, List.nil_append]
  · rw [List.countP_append, left.unstarted, right.unstarted]

/-- Events that ask for nothing and print no part of a report. -/
structure Quiet (events : List Event) : Prop where
  silent : Silent (prints events)
  unasked : asked events = []

theorem quiet_nil : Quiet [] :=
  ⟨Analysis.Report.silent_nil, rfl⟩

theorem Quiet.append {first second : List Event} (left : Quiet first) (right : Quiet second) :
    Quiet (first ++ second) := by
  constructor
  · rw [prints_append]
    exact left.silent.append_holds right.silent
  · rw [asked_append, left.unasked, right.unasked, List.nil_append]

theorem quiet_printed {print : Console.Print} (silent : Silent [print]) :
    Quiet [.printed print] :=
  ⟨silent, rfl⟩

end Event

namespace Run

variable {α β : Type}

/-- Whatever its session, a run records events of which something holds, along with the
result. -/
def Records (run : Run α) (holds : List Event → Except Departure α → Prop) : Prop :=
  ∀ session, ∃ events, (run session).2.events = session.events ++ events ∧
    holds events (run session).1

section

variable {run : Run α} {holds : List Event → Except Departure α → Prop}

theorem records_pure {value : α} (nothing : holds [] (.ok value)) : Records (pure value) holds :=
  fun session => ⟨[], (List.append_nil session.events).symm, nothing⟩

theorem records_throw {departure : Departure} (nothing : holds [] (.error departure)) :
    Records (throw departure) holds :=
  fun session => ⟨[], (List.append_nil session.events).symm, nothing⟩

theorem records_print (print : Console.Print) :
    Records (Run.print print) fun events result => events = [.printed print] ∧ result = .ok () :=
  fun _ => ⟨[.printed print], rfl, rfl, rfl⟩

theorem records_start (start : Child.Start) :
    Records (Run.start start) fun events _ => ∃ files, events = [.started start files] :=
  fun session => ⟨[.started start session.files], rfl, session.files, rfl⟩

theorem Records.get_bind {next : Session → Run α}
    (records : ∀ session, Records (next session) holds) : Records (get >>= next) holds :=
  fun session => records session session

theorem Records.weaken {weaker : List Event → Except Departure α → Prop}
    (records : Records run holds)
    (implies : ∀ {events result}, holds events result → weaker events result) :
    Records run weaker := by
  intro session
  obtain ⟨events, added, held⟩ := records session
  exact ⟨events, added, implies held⟩

/-- Events of runs in sequence follow one another. -/
theorem Records.bind {first : Run α} {next : α → Run β}
    {whole : List Event → Except Departure β → Prop} (records : Records first holds)
    (departs : ∀ {events departure}, holds events (.error departure) →
      whole events (.error departure))
    (proceeds : ∀ {events value}, holds events (.ok value) →
      Records (next value) fun more result => whole (events ++ more) result) :
    Records (first >>= next) whole := by
  intro session
  obtain ⟨events, added, held⟩ := records session
  rw [bind_apply]
  rcases ran : first session with ⟨result, later⟩
  rw [ran] at added held
  cases result with
  | error departure => exact ⟨events, added, departs held⟩
  | ok value =>
      obtain ⟨more, further, last⟩ := proceeds held later
      refine ⟨events ++ more, ?_, last⟩
      rw [further, added, List.append_assoc]

/-- Restoring records nothing. -/
theorem Records.restoring {snapshots : List File.Snapshot} (records : Records run holds) :
    Records (Run.restoring snapshots run) holds :=
  records

theorem Records.restoringUnless {keep : α → Bool} {snapshots : List File.Snapshot}
    (records : Records run holds) : Records (Run.restoringUnless keep snapshots run) holds := by
  intro session
  obtain ⟨events, added, held⟩ := records session
  refine ⟨events, ?_, ?_⟩
  · rw [restoringUnless_apply]
    split
    · exact added
    · exact added
  · rw [restoringUnless_apply]
    exact held

end

theorem records_printAll (prints : List Console.Print) :
    Records (printAll prints) fun events result =>
      events = prints.map .printed ∧ result = .ok () := by
  induction prints with
  | nil => exact records_pure ⟨rfl, rfl⟩
  | cons print rest ih =>
      apply (records_print print).bind
      · rintro events departure ⟨-, ⟨⟩⟩
      · rintro events _ ⟨rfl, -⟩
        apply ih.weaken
        rintro more result ⟨rfl, rfl⟩
        exact ⟨rfl, rfl⟩

/-! ## Quiet runs -/

/-- A run is quiet and starts no more than so many processes. -/
def Quiet (starts : Nat) (run : Run α) : Prop :=
  Records run fun events _ => Event.Quiet events ∧ events.countP Event.isStart ≤ starts

theorem quiet_pure (value : α) : Quiet 0 (pure value : Run α) :=
  records_pure ⟨Event.quiet_nil, Nat.le_refl 0⟩

theorem quiet_throw (departure : Departure) : Quiet 0 (throw departure : Run α) :=
  records_throw ⟨Event.quiet_nil, Nat.le_refl 0⟩

theorem quiet_print {print : Console.Print} (silent : Silent [print]) :
    Quiet 0 (Run.print print) := by
  apply (records_print print).weaken
  rintro events result ⟨rfl, -⟩
  exact ⟨Event.quiet_printed silent, Nat.le_refl 0⟩

theorem quiet_say {level : Console.Level} {text : String}
    (talk : Analysis.Report.IsTalk (Analysis.Report.kept text)) : Quiet 0 (say level text) :=
  quiet_print (Analysis.Report.silent_say talk)

theorem quiet_blank (stream : Console.Stream) : Quiet 0 (blank stream) :=
  quiet_print (Analysis.Report.silent_blank stream)

theorem quiet_start (start : Child.Start) : Quiet 1 (Run.start start) := by
  apply (records_start start).weaken
  rintro events result ⟨files, rfl⟩
  exact ⟨⟨Analysis.Report.silent_nil, rfl⟩, Nat.le_refl 1⟩

theorem Quiet.mono {fewer more : Nat} {run : Run α} (quiet : Quiet fewer run)
    (le : fewer ≤ more) : Quiet more run :=
  quiet.weaken fun held => ⟨held.1, Nat.le_trans held.2 le⟩

theorem Quiet.bind {starts more : Nat} {first : Run α} {next : α → Run β}
    (quiet : Quiet starts first) (later : ∀ value, Quiet more (next value)) :
    Quiet (starts + more) (first >>= next) := by
  apply Records.bind quiet
  · rintro events departure ⟨silent, few⟩
    exact ⟨silent, Nat.le_trans few (Nat.le_add_right _ _)⟩
  · rintro events value ⟨silent, few⟩
    apply (later value).weaken
    rintro added result ⟨alsoSilent, alsoFew⟩
    refine ⟨silent.append alsoSilent, ?_⟩
    rw [List.countP_append]
    exact Nat.add_le_add few alsoFew

/-- Talk in front of a quiet run. -/
theorem Quiet.talk_bind {starts : Nat} {first : Run α} {next : α → Run β}
    (talk : Quiet 0 first) (later : ∀ value, Quiet starts (next value)) :
    Quiet starts (first >>= next) := by
  have both := talk.bind later
  rwa [Nat.zero_add] at both

/-- Talk behind a quiet run. -/
theorem Quiet.bind_talk {starts : Nat} {first : Run α} {next : α → Run β}
    (quiet : Quiet starts first) (talk : ∀ value, Quiet 0 (next value)) :
    Quiet starts (first >>= next) :=
  quiet.bind talk

theorem quiet_printAll {prints : List Console.Print} (silent : ∀ print ∈ prints, Silent [print]) :
    Quiet 0 (printAll prints) := by
  induction prints with
  | nil => exact quiet_pure ()
  | cons print rest ih =>
      obtain ⟨first, later⟩ := List.forall_mem_cons.mp silent
      exact (quiet_print first).talk_bind fun _ => ih later

theorem Quiet.get_bind {starts : Nat} {next : Session → Run α}
    (quiet : ∀ session, Quiet starts (next session)) : Quiet starts (get >>= next) :=
  Records.get_bind quiet

/-! ## Analysis -/

theorem answered_eq_ok_iff {answer : Except Analysis.Failure Analysis.Evaluation}
    {evaluation : Analysis.Evaluation} :
    answered answer = .ok (.ok evaluation) ↔ answer = .ok evaluation := by
  rcases answer with (error | fault) | evaluation <;> simp [answered]

theorem answered_eq_reported_iff {answer : Except Analysis.Failure Analysis.Evaluation}
    {error : Analysis.Error} :
    answered answer = .ok (.error error) ↔ answer = .error (.reported error) := by
  rcases answer with (error | fault) | evaluation <;> simp [answered]

/-- Asking for an analysis records that, and the requests that are sent for it. -/
theorem records_consult (analyzer : Analysis.Analyzer) (dependencies : List Dependency) :
    Records (consult analyzer dependencies) fun events result =>
      Event.Asks [dependencies] events ∧ result = answered (analyzer dependencies).2 := by
  have asked : Records (modify fun session => session.record (.consulted dependencies
      session.files)) fun events result => Event.Asks [dependencies] events ∧ result = .ok () :=
    fun session => ⟨[.consulted dependencies session.files], rfl, ⟨rfl, rfl, rfl⟩, rfl⟩
  have sent (requests : List Analysis.Request) : Records (requests.forM fun request =>
      modify fun session => session.record (.requested request session.files))
        fun events result => Event.Asks [] events ∧ result = .ok () := by
    induction requests with
    | nil => exact records_pure ⟨⟨rfl, rfl, rfl⟩, rfl⟩
    | cons request rest ih =>
        have one : Records (modify fun session => session.record (.requested request
            session.files)) fun events result => Event.Asks [] events ∧ result = .ok () :=
          fun session => ⟨[.requested request session.files], rfl, ⟨rfl, rfl, rfl⟩, rfl⟩
        apply one.bind
        · rintro events departure ⟨-, ⟨⟩⟩
        · rintro events _ ⟨first, -⟩
          exact ih.weaken fun ⟨later, done⟩ => ⟨first.append later, done⟩
  unfold consult
  apply asked.bind
  · rintro events departure ⟨-, ⟨⟩⟩
  rintro events _ ⟨first, -⟩
  apply (sent _).bind
  · rintro events departure ⟨-, ⟨⟩⟩
  rintro more _ ⟨later, -⟩
  have recorded : Event.Asks [dependencies] (events ++ (more ++ [])) := by
    simpa using first.append later
  cases answer : (analyzer dependencies).2 with
  | ok evaluation => exact records_pure ⟨recorded, rfl⟩
  | error failure =>
      cases failure with
      | reported error => exact records_pure ⟨recorded, rfl⟩
      | fault fault => exact records_throw ⟨recorded, rfl⟩

end Run

end GuardedInstall
