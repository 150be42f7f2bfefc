import GuardedInstall.Proofs.Run.Isolation
import GuardedInstall.Proofs.Run.Record

/-!
# What is told agrees with what is done

Once an evaluation is there, a report of it is printed, and nothing else that could be taken
for one before or after. The report is complete before a second process is started. Its
headline tells what becomes of the run: the same evaluation decides both.
-/

namespace GuardedInstall.Pipeline

open GuardedInstall.Analysis (Evaluation Status)
open GuardedInstall.Analysis.Report (Conveys IsTalk Silent conveys_prints headlineStart
  isTalk_append kept messages silent_say)
open GuardedInstall.Lockfile (Dependency)
open GuardedInstall.Run (Records quiet_blank quiet_pure quiet_say quiet_start quiet_throw)
open GuardedInstall.Sandbox (Stage)

/-! ## The quiet parts of a run -/

section

variable (setup : Setup) (root : File.Path) (arguments : List String)

theorem quiet_launch (launcher : List String) (searchPath command : String)
    (policy : Sandbox.Policy) :
    (Sandbox.launch launcher root searchPath command arguments policy).Quiet 1 := by
  cases launcher with
  | nil => exact (quiet_throw _).mono (Nat.zero_le 1)
  | cons first rest =>
      apply Run.Quiet.get_bind
      intro session
      apply (quiet_start _).bind_talk
      intro ending
      split
      · exact quiet_pure _
      · exact quiet_throw _
      · exact quiet_throw _

theorem quiet_runStage (stage : Stage) : (runStage setup root arguments stage).Quiet 1 := by
  cases granted : stage.policy root setup.configuration setup.homes with
  | error error =>
      simp only [runStage, granted]
      exact (quiet_throw _).mono (Nat.zero_le 1)
  | ok policy =>
      simp only [runStage, granted]
      exact quiet_launch _ _ _ _ _ _

theorem quiet_readLockfile : (readLockfile root).Quiet 0 := by
  apply Run.Quiet.get_bind
  intro session
  split
  · exact quiet_pure _
  · exact quiet_pure _
  · exact quiet_throw _

theorem quiet_resolve : (resolve setup root arguments).Quiet 1 := by
  apply (quiet_runStage setup root arguments .dryRun).bind_talk
  intro result
  split
  · apply (quiet_readLockfile root).talk_bind
    intro read
    split
    · exact quiet_pure _
    · exact (quiet_say (isTalk_append _ (by decide))).talk_bind fun _ => quiet_pure _
  · exact (quiet_say (by decide)).talk_bind fun _ =>
      (quiet_blank _).talk_bind fun _ => quiet_pure _

theorem quiet_download : (download setup root arguments).Quiet 1 := by
  apply (quiet_say (by decide)).talk_bind
  intro _
  apply (quiet_runStage setup root arguments .cache).bind_talk
  intro result
  split
  · exact (quiet_say (by decide)).talk_bind fun _ =>
      (quiet_blank _).talk_bind fun _ => quiet_pure _
  · exact (quiet_say (by decide)).talk_bind fun _ =>
      (quiet_blank _).talk_bind fun _ => quiet_pure _

theorem quiet_build : (build setup root arguments).Quiet 1 := by
  apply (quiet_say (by decide)).talk_bind
  intro _
  apply (quiet_runStage setup root arguments .build).bind_talk
  intro result
  split
  · exact (quiet_say (by decide)).talk_bind fun _ => quiet_pure _
  · have warned : ∀ text ∈ buildWarning, IsTalk (kept text) := by decide
    refine (Run.quiet_printAll ?_).talk_bind fun _ => quiet_pure _
    rintro print among
    obtain ⟨text, listed, rfl⟩ := List.mem_map.mp among
    exact silent_say (warned text listed)

theorem quiet_install : (install setup root arguments).Quiet 2 := by
  show Run.Quiet (1 + 1) _
  apply (quiet_download setup root arguments).bind
  intro outcome?
  split
  · exact (quiet_pure _).mono (Nat.zero_le 1)
  · exact quiet_build setup root arguments

end

/-! ## The analysis -/

/-- The events of a run tell of no evaluation, because there is none. Or there is one: all of
it is told before more processes are started than so many, and nothing else is. -/
inductive Spoken (analyzer : Analysis.Analyzer) (starts : Nat) : List Event → Prop where
  | nothing {events : List Event} (silent : Silent (Event.prints events))
      (unanswered : ∀ dependencies ∈ Event.asked events,
        ∃ failure, (analyzer dependencies).2 = .error failure) :
      Spoken analyzer starts events
  | told {dependencies : List Dependency} {evaluation : Evaluation} {first last : List Event}
      (answer : (analyzer dependencies).2 = .ok evaluation)
      (asked : Event.asked first = [dependencies])
      (conveys : Conveys evaluation (Event.prints first))
      (few : first.countP Event.isStart ≤ starts) (quiet : Event.Quiet last) :
      Spoken analyzer starts (first ++ last)

section

variable {analyzer : Analysis.Analyzer} {starts : Nat} {before events after : List Event}

theorem Spoken.of_quiet (quiet : Event.Quiet events) : Spoken analyzer starts events := by
  refine .nothing quiet.silent ?_
  rw [quiet.unasked]
  intro dependencies asked
  cases asked

/-- Quiet events in front. -/
theorem Spoken.quiet_append {more : Nat} (quiet : Event.Quiet before)
    (fewBefore : before.countP Event.isStart ≤ more) (spoken : Spoken analyzer starts events) :
    Spoken analyzer (more + starts) (before ++ events) := by
  cases spoken with
  | nothing silent unanswered =>
      apply Spoken.nothing
      · rw [Event.prints_append]
        exact quiet.silent.append_holds silent
      · rwa [Event.asked_append, quiet.unasked, List.nil_append]
  | told answer asked conveys few ended =>
      rw [← List.append_assoc]
      refine .told answer ?_ ?_ ?_ ended
      · rw [Event.asked_append, quiet.unasked, asked, List.nil_append]
      · rw [Event.prints_append]
        exact quiet.silent.append_holds conveys
      · rw [List.countP_append]
        exact Nat.add_le_add fewBefore few

/-- Quiet events behind. -/
theorem Spoken.append_quiet (spoken : Spoken analyzer starts events)
    (quiet : Event.Quiet after) : Spoken analyzer starts (events ++ after) := by
  cases spoken with
  | nothing silent unanswered =>
      apply Spoken.nothing
      · rw [Event.prints_append]
        exact silent.append_holds quiet.silent
      · rwa [Event.asked_append, quiet.unasked, List.append_nil]
  | told answer asked conveys few ended =>
      rw [List.append_assoc]
      exact .told answer asked conveys few (ended.append quiet)

section

variable {dependencies : List Dependency} {evaluation : Evaluation}
  {failure : Analysis.Failure}

theorem Spoken.of_error (asks : Event.Asks [dependencies] events)
    (answer : (analyzer dependencies).2 = .error failure) : Spoken analyzer starts events := by
  apply Spoken.nothing
  · rw [asks.unprinted]
    exact Analysis.Report.silent_nil
  · rw [asks.asked]
    intro asked member
    rw [List.mem_singleton.mp member]
    exact ⟨failure, answer⟩

/-- The report of an evaluation, printed after it was asked for. -/
theorem Spoken.of_evaluation (asks : Event.Asks [dependencies] events)
    (answer : (analyzer dependencies).2 = .ok evaluation) :
    Spoken analyzer starts
      (events ++ (Analysis.Report.ofEvaluation evaluation).prints.map .printed) := by
  rw [← List.append_nil (events ++ _)]
  refine .told answer ?_ ?_ ?_ Event.quiet_nil
  · rw [Event.asked_append, asks.asked, Event.asked_map_printed, List.append_nil]
  · rw [Event.prints_append, asks.unprinted, Event.prints_map_printed, List.nil_append]
    exact conveys_prints evaluation
  · rw [List.countP_append, asks.unstarted, Event.countP_map_printed]
    exact Nat.zero_le starts

end

end

/-- Every session of a run is spoken of in this way. -/
def Speaks {α : Type} (analyzer : Analysis.Analyzer) (starts : Nat) (run : Run α) : Prop :=
  Records run fun events _ => Spoken analyzer starts events

section

variable {α β : Type} {analyzer : Analysis.Analyzer} {starts more : Nat}

theorem speaks_of_quiet {run : Run α} (quiet : run.Quiet more) : Speaks analyzer starts run :=
  quiet.weaken fun held => .of_quiet held.1

theorem Speaks.quiet_bind {first : Run α} {next : α → Run β} (quiet : first.Quiet more)
    (speaks : ∀ value, Speaks analyzer starts (next value)) :
    Speaks analyzer (more + starts) (first >>= next) := by
  apply Records.bind quiet
  · rintro events departure ⟨silent, -⟩
    exact .of_quiet silent
  · rintro events value ⟨silent, few⟩
    exact (speaks value).weaken (.quiet_append silent few)

theorem Speaks.talk_bind {first : Run α} {next : α → Run β} (talk : first.Quiet 0)
    (speaks : ∀ value, Speaks analyzer starts (next value)) :
    Speaks analyzer starts (first >>= next) := by
  have both := Speaks.quiet_bind talk speaks
  rwa [Nat.zero_add] at both

theorem Speaks.bind_quiet {first : Run α} {next : α → Run β}
    (speaks : Speaks analyzer starts first) (quiet : ∀ value, (next value).Quiet more) :
    Speaks analyzer starts (first >>= next) := by
  apply Records.bind speaks
  · exact id
  · intro events value spoken
    exact (quiet value).weaken fun held => spoken.append_quiet held.1

end

section

variable (setup : Setup) (analyzer : Analysis.Analyzer) (root : File.Path)
  (arguments : List String) (dependencies : List Dependency)

/-- An evaluation that comes back is told, and nothing else is. -/
theorem speaks_analyse : Speaks analyzer 0 (analyse analyzer dependencies) := by
  apply Speaks.talk_bind (quiet_say (by decide))
  intro _
  split
  · exact speaks_of_quiet ((quiet_say (by decide)).talk_bind fun _ =>
      (quiet_blank _).talk_bind fun _ => quiet_pure _)
  apply Speaks.talk_bind (Run.quiet_print (Analysis.Report.silent_waiting _))
  intro _
  apply (Run.records_consult analyzer dependencies).bind
  · rintro events departure ⟨asks, answered⟩
    cases answer : (analyzer dependencies).2 with
    | error failure => exact .of_error asks answer
    | ok evaluation =>
        rw [answer] at answered
        cases answered
  rintro events answer ⟨asks, answered⟩
  cases answer with
  | ok evaluation =>
      apply (Run.records_printAll _).bind
      · rintro more departure ⟨-, ⟨⟩⟩
      rintro more _ ⟨rfl, -⟩
      apply Run.records_pure
      rw [List.append_nil]
      exact .of_evaluation asks (Run.answered_eq_ok_iff.mp answered.symm)
  | error error =>
      have spoken : Spoken analyzer 0 events :=
        .of_error asks (Run.answered_eq_reported_iff.mp answered.symm)
      have talk : (Run.say .error s!"Package analysis failed: {error.message}").Quiet 0 :=
        quiet_say (isTalk_append _ (by decide))
      exact (talk.talk_bind fun _ => quiet_pure _).weaken fun held => spoken.append_quiet held.1

theorem speaks_runStages (snapshots : List File.Snapshot) :
    Speaks analyzer 1 (runStages setup analyzer root arguments snapshots) := by
  apply Speaks.talk_bind (quiet_say (by decide))
  intro _
  -- The dry run is the one process in front of the analysis.
  show Speaks analyzer (1 + 0) _
  apply Speaks.quiet_bind (Records.restoring (quiet_resolve setup root arguments))
  intro resolution
  split
  · exact speaks_of_quiet (quiet_pure _)
  apply Speaks.talk_bind (quiet_say (by decide))
  intro _
  apply Speaks.talk_bind (quiet_blank _)
  intro _
  apply (speaks_analyse analyzer _).bind_quiet
  intro outcome?
  split
  · exact (quiet_pure _).mono (Nat.zero_le 2)
  · exact quiet_install setup root arguments

theorem quiet_projectRoot (directory : File.Path) : (projectRoot directory).Quiet 0 := by
  apply Run.Quiet.get_bind
  intro session
  dsimp only
  split
  · exact quiet_pure _
  · exact quiet_throw _

theorem speaks_guardInstall (directory : File.Path) :
    Speaks analyzer 1 (guardInstall setup analyzer arguments directory) := by
  apply Speaks.talk_bind (quiet_projectRoot directory)
  intro root?
  split
  · exact speaks_of_quiet ((quiet_say (by decide)).talk_bind fun _ =>
      (quiet_say (by decide)).talk_bind fun _ => quiet_pure _)
  apply Records.get_bind
  intro session
  split
  · exact speaks_of_quiet ((quiet_say (isTalk_append _ (by decide))).talk_bind fun _ =>
      quiet_pure _)
  · exact (speaks_runStages setup analyzer _ arguments _).restoringUnless

theorem quiet_handThrough (command : String) (directory : File.Path) :
    (Sandbox.handThrough command arguments directory).Quiet 1 := by
  apply (quiet_start _).bind_talk
  intro ending
  split
  · exact quiet_pure _
  · exact quiet_pure _
  · exact quiet_throw _
  · exact quiet_throw _

/-- No run tells anything but the evaluation that it was given. -/
theorem speaks_run (directory : File.Path) :
    Speaks analyzer 1 (run setup analyzer arguments directory) := by
  unfold run
  split
  · exact speaks_of_quiet ((quiet_say (isTalk_append _ (by decide))).talk_bind fun _ =>
      quiet_pure _)
  · exact speaks_of_quiet ((quiet_handThrough _ _ _).bind_talk fun _ => quiet_pure _)
  · exact speaks_guardInstall _ _ _ _

end

/-! ## The verdict -/

/-- A run comes to an outcome of a kind. -/
def ReturnsKind (result : Except Departure Outcome) (kind : OutcomeKind) : Prop :=
  ∃ outcome, result = .ok outcome ∧ outcome.kind = kind

/-- A run comes to an outcome with an exit code. -/
def ReturnsCode (result : Except Departure Outcome) (code : ExitCode) : Prop :=
  ∃ outcome, result = .ok outcome ∧ outcome.code = code

/-- A status goes with what a run does and comes to. -/
structure Decides (status : Status) (acts : List Act) (result : Except Departure Outcome) :
    Prop where
  failure : status = .failure ↔ ReturnsKind result .policyFailure
  failureCode : status = .failure ↔ ReturnsCode result .policyFailure
  incomplete : status = .incomplete ↔ ReturnsKind result .incomplete
  incompleteCode : status = .incomplete ↔ ReturnsCode result .incomplete
  success : status = .success ↔ process? acts .cache ≠ none

/-- The outcome that a status calls for. -/
def outcomeOf? : Status → Option Outcome
  | .failure => some ⟨.policyFailure, .policyFailure, none, none⟩
  | .incomplete => some ⟨.incomplete, .incomplete, none, none⟩
  | .success => none

/-- The report and the gate weigh an evaluation alike. -/
theorem verdict?_eq_outcomeOf? (evaluation : Evaluation) :
    verdict? evaluation = outcomeOf? evaluation.status := by
  unfold verdict? Analysis.Evaluation.status
  split
  · rfl
  · split <;> rfl

section

variable {setup : Setup} {analyzer : Analysis.Analyzer} {root : File.Path}
  {arguments : List String} {directory : File.Path} {snapshots : List File.Snapshot}
  {found left : File.System} {dependencies : List Dependency} {acts : List Act}
  {result : Except Departure Outcome} {evaluation : Evaluation}

/-- In front of the gate the status alone decides. -/
theorem Decides.of_outcomeOf? {status : Status} {outcome : Outcome}
    (calls : outcomeOf? status = some outcome) (unattempted : process? acts .cache = none) :
    Decides status acts (.ok outcome) := by
  cases status with
  | success => cases calls
  | failure =>
      cases calls
      constructor <;> simp [ReturnsKind, ReturnsCode, unattempted]
  | incomplete =>
      cases calls
      constructor <;> simp [ReturnsKind, ReturnsCode, unattempted]

/-- Behind the gate there are other kinds of outcomes only. -/
theorem Decides.of_success (attempted : process? acts .cache ≠ none)
    (kinds : ∀ outcome, result = .ok outcome →
      outcome.kind ≠ .policyFailure ∧ outcome.kind ≠ .incomplete)
    (codes : ∀ outcome, result = .ok outcome →
      outcome.code ≠ .policyFailure ∧ outcome.code ≠ .incomplete) :
    Decides .success acts result := by
  constructor
  · simpa [ReturnsKind] using fun outcome ended => (kinds outcome ended).1
  · simpa [ReturnsCode] using fun outcome ended => (codes outcome ended).1
  · simpa [ReturnsKind] using fun outcome ended => (kinds outcome ended).2
  · simpa [ReturnsCode] using fun outcome ended => (codes outcome ended).2
  · simpa using attempted

/-- What was asked about dependencies that are cleared found nothing against them. -/
theorem Cleared.status_eq {files : File.System} {listed : List Dependency}
    (cleared : Cleared analyzer files listed acts) (asked : dependencies ∈ consultations acts)
    (answer : (analyzer dependencies).2 = .ok evaluation) : evaluation.status = .success := by
  cases cleared with
  | empty => cases asked
  | analysed nonempty given passes =>
      have same : dependencies = listed := List.mem_singleton.mp asked
      rw [← same, answer, Except.ok.injEq] at given
      rw [← given, verdict?_eq_outcomeOf?] at passes
      cases told : evaluation.status with
      | success => rfl
      | failure => simp [told, outcomeOf?] at passes
      | incomplete => simp [told, outcomeOf?] at passes

theorem Admitted.decides {dry cache : Process} {listed : List Dependency} {analysis rest : List Act}
    (admitted : Admitted setup analyzer root arguments snapshots found dry listed analysis)
    (quiet : consultations rest = [])
    (asked : dependencies ∈ consultations (.ran dry :: (analysis ++ .ran cache :: rest)))
    (answer : (analyzer dependencies).2 = .ok evaluation)
    (kinds : ∀ outcome, result = .ok outcome →
      outcome.kind ≠ .policyFailure ∧ outcome.kind ≠ .incomplete)
    (codes : ∀ outcome, result = .ok outcome →
      outcome.code ≠ .policyFailure ∧ outcome.code ≠ .incomplete) :
    Decides evaluation.status (.ran dry :: (analysis ++ .ran cache :: rest)) result := by
  have among : dependencies ∈ consultations analysis := by simpa [quiet] using asked
  rw [admitted.cleared.status_eq among answer]
  apply Decides.of_success _ kinds codes
  simp [process?, admitted.cleared.processes_eq]

theorem Passage.decides
    (passage : Passage setup analyzer root arguments snapshots found acts left result)
    (asked : dependencies ∈ consultations acts)
    (answer : (analyzer dependencies).2 = .ok evaluation) :
    Decides evaluation.status acts result := by
  cases passage with
  | unstarted departure unstartable => cases asked
  | dryRunLost stage lost => cases asked
  | dryRunFailed stage ended failed => cases asked
  | lockfileRefused stage clean refused => cases asked
  | lockfileFaulty stage clean faulty => cases asked
  | analysisFaulty resolved nonempty failed =>
      rw [List.mem_singleton.mp asked, failed] at answer
      cases answer
  | analysisFailed resolved nonempty failed =>
      rw [List.mem_singleton.mp asked, failed] at answer
      cases answer
  | held resolved nonempty given held =>
      rw [List.mem_singleton.mp asked, given] at answer
      cases answer
      exact .of_outcomeOf? (verdict?_eq_outcomeOf? evaluation ▸ held) rfl
  | cacheLost admitted stage lost => exact admitted.decides rfl asked answer (by simp) (by simp)
  | cacheFailed admitted stage ended failed =>
      exact admitted.decides rfl asked answer (by simp [Outcome.safeFailure])
        (by simp [Outcome.safeFailure])
  | buildLost downloaded stage lost =>
      exact downloaded.admitted.decides rfl asked answer (by simp) (by simp)
  | buildFailed downloaded stage ended failed =>
      exact downloaded.admitted.decides rfl asked answer (by simp [Outcome.riskFailure])
        (by simp [Outcome.riskFailure])
  | installed downloaded stage built =>
      exact downloaded.admitted.decides rfl asked answer (by simp [Outcome.success])
        (by simp [Outcome.success])

theorem Guarded.decides
    (guarded : Guarded setup analyzer arguments directory found acts left result)
    (asked : dependencies ∈ consultations acts)
    (answer : (analyzer dependencies).2 = .ok evaluation) :
    Decides evaluation.status acts result := by
  cases guarded with
  | searchFailed searched => cases asked
  | rootMissing searched => cases asked
  | captureFailed searched refused => cases asked
  | passed searched captured passage => exact passage.decides asked answer

end

/-! ## Whole runs -/

/-- A run tells an evaluation once, before a second process is started and before it comes
to a result. The status in its only headline goes with what it does and comes to. -/
structure TellsVerdict (evaluation : Evaluation) (events : List Event) (acts : List Act)
    (result : Except Departure Outcome) : Prop where
  told : ∃ first last, events = first ++ last ∧ first.countP Event.isStart ≤ 1 ∧
    Conveys evaluation (Event.prints first) ∧ Silent (Event.prints last)
  headline : messages headlineStart (Event.prints events) = [evaluation.status.heading]
  decides : Decides evaluation.status acts result

theorem Spoken.tells_of_asked {analyzer : Analysis.Analyzer} {events : List Event}
    {dependencies : List Dependency} {evaluation : Evaluation} {acts : List Act}
    {result : Except Departure Outcome} (spoken : Spoken analyzer 1 events)
    (asked : dependencies ∈ Event.asked events)
    (answer : (analyzer dependencies).2 = .ok evaluation)
    (decides : Decides evaluation.status acts result) :
    TellsVerdict evaluation events acts result := by
  cases spoken with
  | nothing silent unanswered =>
      obtain ⟨failure, failed⟩ := unanswered dependencies asked
      rw [answer] at failed
      cases failed
  | told given only conveys few quiet =>
      rw [Event.asked_append, only, quiet.unasked, List.append_nil, List.mem_singleton] at asked
      rw [← asked, answer, Except.ok.injEq] at given
      rw [← given] at conveys
      refine ⟨⟨_, _, rfl, few, conveys, quiet.silent⟩, ?_, decides⟩
      rw [Event.prints_append]
      exact (conveys.append_silent quiet.silent).headlines

theorem Spoken.silent {analyzer : Analysis.Analyzer} {events : List Event}
    (spoken : Spoken analyzer 1 events)
    (unanswered : ∀ dependencies ∈ Event.asked events,
      ∃ failure, (analyzer dependencies).2 = .error failure) : Silent (Event.prints events) := by
  cases spoken with
  | nothing silent _ => exact silent
  | @told dependencies _ first _ answer only conveys few quiet =>
      have asked : dependencies ∈ Event.asked first := by
        rw [only]
        exact List.mem_singleton_self _
      obtain ⟨failure, failed⟩ := unanswered dependencies (by simp [asked])
      rw [answer] at failed
      cases failed

/-- Where an analysis comes to an evaluation, that decides the run. -/
theorem decides_course (setup : Setup) {analyzer : Analysis.Analyzer} (arguments : List String)
    (directory : File.Path) (files : File.System) (behaviours : List Child.Behaviour)
    {dependencies : List Dependency} {evaluation : Evaluation}
    (asked : dependencies ∈
      consultations (course setup analyzer arguments directory files behaviours).acts)
    (answer : (analyzer dependencies).2 = .ok evaluation) :
    Decides evaluation.status (course setup analyzer arguments directory files behaviours).acts
      (course setup analyzer arguments directory files behaviours).result := by
  by_cases intercepted : Route.ofArguments arguments = .ok .intercept
  · have guarded := guarded_course setup analyzer directory intercepted files behaviours
    exact guarded.decides asked answer
  · have unguarded : (processes (course setup analyzer arguments directory files
        behaviours).acts).length ≤ 1 ∧
        consultations (course setup analyzer arguments directory files behaviours).acts = [] ∧
          ¬ IsInstalled (course setup analyzer arguments directory files behaviours).result :=
      course_of_ensures (run_ensures_of_not_intercepted intercepted _)
    rw [unguarded.2.1] at asked
    cases asked

/-- An evaluation with something of everything. -/
def alarm : Evaluation where
  isFailure := true
  incompleteCount := 2
  jobLink := some (.text "https://api.test/jobs/7")
  findings :=
    [⟨"npm", "right-pad", "2.0.0", [⟨"is known", true, .low, none⟩]⟩,
      ⟨"npm", "left-pad", "1.3.0", [⟨"runs a script", false, .high, none⟩]⟩]

/-- An analyzer that always finds that. -/
def alarmed : Analysis.Analyzer := fun _ => ([], .ok alarm)

end GuardedInstall.Pipeline
