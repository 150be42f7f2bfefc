import GuardedInstall.Proofs.Run.Trace

/-!
# Rules for runs

What a run ensures is said of three things: its acts, the files that it leaves and
its result, be it a value or a departure. There is one rule for each way in which
runs are put together. Printing is none of the three, so that a run which does
nothing else is passed over.
-/

namespace GuardedInstall.Run

open GuardedInstall.Lockfile (Dependency)
open GuardedInstall.File.Snapshot (restoreAll)

variable {α β : Type}

/-- What may be said of a run. -/
abbrev Report (α : Type) := List Act → File.System → Except Departure α → Prop

/-- A run that begins in a session ensures a report. -/
def Ensures (run : Run α) (session : Session) (report : Report α) : Prop :=
  ∃ acts, session.Continues acts (run session).2 ∧
    report acts (run session).2.files (run session).1

theorem bind_apply (first : Run α) (next : α → Run β) (session : Session) :
    (first >>= next) session = match first session with
      | (.ok value, later) => next value later
      | (.error departure, later) => (.error departure, later) := by
  show (ExceptT.bind first next) session = _
  simp only [ExceptT.bind, ExceptT.mk, bind, StateT.bind]
  rcases first session with ⟨result, later⟩
  cases result <;> rfl

theorem get_bind_apply (next : Session → Run α) (session : Session) :
    (get >>= next) session = next session session :=
  rfl

theorem pure_apply (value : α) (session : Session) :
    (pure value : Run α) session = (.ok value, session) :=
  rfl

theorem print_apply (print : Console.Print) (session : Session) :
    Run.print print session = (.ok (), session.record (.printed print)) :=
  rfl

variable {session : Session} {report : Report α}

theorem ensures_pure {value : α} (holds : report [] session.files (.ok value)) :
    Ensures (pure value) session report :=
  ⟨[], .refl session, holds⟩

theorem ensures_throw {departure : Departure}
    (holds : report [] session.files (.error departure)) :
    Ensures (throw departure) session report :=
  ⟨[], .refl session, holds⟩

/-- Starting a process is one act, and what it leaves is left. -/
theorem start_ensures (start : Child.Start) (session : Session) :
    Ensures (Run.start start) session fun acts files result =>
      acts = [.ran (session.nextProcess start)] ∧ files = (session.nextProcess start).left ∧
        result = .ok (session.nextProcess start).ending :=
  ⟨_, session.continues_advance start, rfl, rfl, rfl⟩

/-- What is read of a session is known to what follows. -/
theorem ensures_get_bind {next : Session → Run α}
    (holds : Ensures (next session) session report) : Ensures (get >>= next) session report := by
  rw [Ensures, get_bind_apply]
  exact holds

theorem Ensures.weaken {run : Run α} {weaker : Report α} (ensures : Ensures run session report)
    (implies : ∀ {acts files result}, report acts files result → weaker acts files result) :
    Ensures run session weaker := by
  obtain ⟨acts, continues, holds⟩ := ensures
  exact ⟨acts, continues, implies holds⟩

/-- Runs in sequence: the second one begins with the files that the first one left, and
a departure of the first one is one of both. -/
theorem Ensures.bind {first : Run α} {next : α → Run β} {whole : Report β}
    (ensures : Ensures first session report)
    (departs : ∀ {acts files departure}, report acts files (.error departure) →
      whole acts files (.error departure))
    (proceeds : ∀ {acts : List Act} {later : Session} {value : α},
      report acts later.files (.ok value) →
        Ensures (next value) later fun more files result => whole (acts ++ more) files result) :
    Ensures (first >>= next) session whole := by
  obtain ⟨acts, continues, holds⟩ := ensures
  have unfolded := bind_apply first next session
  rcases ran : first session with ⟨result, later⟩
  rw [ran] at unfolded continues holds
  cases result with
  | error departure => exact ⟨acts, by rwa [unfolded], by rw [unfolded]; exact departs holds⟩
  | ok value =>
      obtain ⟨more, further, last⟩ := proceeds holds
      rw [Ensures, unfolded]
      exact ⟨acts ++ more, continues.trans further, last⟩

theorem tryCatch_apply (run : Run α) (handler : Departure → Run α) (session : Session) :
    tryCatch run handler session = match run session with
      | (.ok value, later) => (.ok value, later)
      | (.error departure, later) => handler departure later := by
  show (ExceptT.tryCatch run handler) session = _
  simp only [ExceptT.tryCatch, ExceptT.mk, bind, StateT.bind]
  rcases run session with ⟨result, later⟩
  cases result <;> rfl

/-- A departure is handled among the files that were left. -/
theorem Ensures.tryCatch {run : Run α} {handler : Departure → Run α} {whole : Report α}
    (ensures : Ensures run session report)
    (returns : ∀ {acts files value}, report acts files (.ok value) →
      whole acts files (.ok value))
    (handles : ∀ {acts : List Act} {later : Session} {departure : Departure},
      report acts later.files (.error departure) →
        Ensures (handler departure) later fun more files result =>
          whole (acts ++ more) files result) :
    Ensures (tryCatch run handler) session whole := by
  obtain ⟨acts, continues, holds⟩ := ensures
  have unfolded := tryCatch_apply run handler session
  rcases ran : run session with ⟨result, later⟩
  rw [ran] at unfolded continues holds
  cases result with
  | ok value => exact ⟨acts, by rwa [unfolded], by rw [unfolded]; exact returns holds⟩
  | error departure =>
      obtain ⟨more, further, last⟩ := handles holds
      rw [Ensures, unfolded]
      exact ⟨acts ++ more, continues.trans further, last⟩

/-- Restoring comes last, whatever the result. -/
theorem Ensures.restoring {run : Run α} {snapshots : List File.Snapshot}
    (ensures : Ensures run session fun acts files result =>
      report acts (restoreAll snapshots files) result) :
    Ensures (Run.restoring snapshots run) session report :=
  ensures

/-- Restoring never changes the result. -/
theorem restoringUnless_apply (keep : α → Bool) (snapshots : List File.Snapshot) (run : Run α)
    (session : Session) :
    Run.restoringUnless keep snapshots run session =
      ((run session).1, if (run session).1.toOption.any keep then (run session).2
        else (run session).2.restore snapshots) := by
  have unfolded : Run.restoringUnless keep snapshots run session = match run session with
      | (.ok value, later) => (.ok value, if keep value then later else later.restore snapshots)
      | (.error departure, later) => (.error departure, later.restore snapshots) := rfl
  rw [unfolded]
  rcases run session with ⟨result, later⟩
  cases result with
  | error departure => rfl
  | ok value => rfl

/-- Restoring comes last, unless the result is to be kept. -/
theorem Ensures.restoringUnless {run : Run α} {keep : α → Bool}
    {snapshots : List File.Snapshot} (ensures : Ensures run session fun acts files result =>
      report acts (if result.toOption.any keep then files else restoreAll snapshots files)
        result) :
    Ensures (Run.restoringUnless keep snapshots run) session report := by
  obtain ⟨acts, continues, holds⟩ := ensures
  rw [Ensures, restoringUnless_apply]
  split at holds
  · rename_i kept
    rw [if_pos kept]
    exact ⟨acts, continues, holds⟩
  · rename_i kept
    rw [if_neg kept]
    exact ⟨acts, continues, holds⟩

/-! ## Runs that only print -/

/-- A run gives a value and does nothing else than to print. -/
def Tells (run : Run α) (value : α) : Prop :=
  ∀ session, Ensures run session fun acts files result =>
    acts = [] ∧ files = session.files ∧ result = .ok value

theorem tells_pure (value : α) : Tells (pure value) value := fun _ =>
  ensures_pure ⟨rfl, rfl, rfl⟩

theorem tells_print (print : Console.Print) : Tells (Run.print print) () := fun session =>
  ⟨[], session.continues_record_printed print, rfl, rfl, rfl⟩

theorem tells_say (level : Console.Level) (text : String) : Tells (say level text) () :=
  tells_print _

theorem tells_blank (stream : Console.Stream) : Tells (blank stream) () :=
  tells_print _

theorem tells_record_requested (request : Analysis.Request) :
    Tells (modify fun session => session.record (.requested request session.files)) () :=
  fun session => ⟨[], ⟨[.requested request session.files], rfl, rfl, rfl⟩, rfl, rfl, rfl⟩

/-- What a run tells is passed over. -/
theorem Tells.ensures_bind {first : Run α} {value : α} (tells : Tells first value)
    {next : α → Run β} {report : Report β}
    (holds : ∀ {later : Session}, later.files = session.files →
      Ensures (next value) later report) :
    Ensures (first >>= next) session report := by
  apply (tells session).bind
  · rintro acts files departure ⟨-, -, ⟨⟩⟩
  · rintro acts later told ⟨rfl, same, ⟨⟩⟩
    exact holds same

theorem Tells.bind {first : Run α} {value : α} {next : α → Run β} {result : β}
    (tells : Tells first value) (tellsNext : Tells (next value) result) :
    Tells (first >>= next) result := by
  intro session
  apply tells.ensures_bind
  intro later same
  rw [← same]
  exact tellsNext later

theorem tells_forM {items : List α} {body : α → Run Unit}
    (tells : ∀ item, Tells (body item) ()) : Tells (items.forM body) () := by
  induction items with
  | nil => exact tells_pure ()
  | cons item rest ih => exact (tells item).bind ih

theorem tells_printAll (prints : List Console.Print) : Tells (printAll prints) () :=
  tells_forM tells_print

/-! ## Analysis -/

/-- What an answer of the analyzer is to a run. -/
def answered : Except Analysis.Failure Analysis.Evaluation →
    Except Departure (Except Analysis.Error Analysis.Evaluation)
  | .ok evaluation => .ok (.ok evaluation)
  | .error (.reported error) => .ok (.error error)
  | .error (.fault fault) => .error (.analysis fault)

/-- Asking for an analysis is one act and changes no file. -/
theorem consult_ensures (analyzer : Analysis.Analyzer) (dependencies : List Dependency)
    (session : Session) :
    Ensures (consult analyzer dependencies) session fun acts files result =>
      acts = [.consulted dependencies session.files] ∧ files = session.files ∧
        result = answered (analyzer dependencies).2 := by
  have asked : Ensures (modify fun session => session.record (.consulted dependencies
      session.files)) session fun acts files result =>
        acts = [.consulted dependencies session.files] ∧ files = session.files ∧
          result = .ok () :=
    ⟨_, ⟨[.consulted dependencies session.files], rfl, rfl, rfl⟩, rfl, rfl, rfl⟩
  unfold consult
  apply asked.bind
  · rintro acts files departure ⟨-, -, ⟨⟩⟩
  rintro acts later _ ⟨rfl, same, -⟩
  apply (tells_forM tells_record_requested).ensures_bind
  intro last unchanged
  have same := unchanged.trans same
  cases answer : (analyzer dependencies).2 with
  | ok evaluation => exact ensures_pure ⟨rfl, same, rfl⟩
  | error failure =>
      cases failure with
      | reported error => exact ensures_pure ⟨rfl, same, rfl⟩
      | fault fault => exact ensures_throw ⟨rfl, same, rfl⟩

end GuardedInstall.Run
