import GuardedInstall.Proofs.File.Normal

/-!
# Scopes of work

Work on files is a block of steps: it changes files in any way, records and restores
snapshots, and opens scopes inside of which other blocks run. Whenever a scope is left,
by the end of its block or by an exception, each of its snapshots is back in place, as far
as a file could stand there; nothing else changes, and the exception goes on.
-/

namespace GuardedInstall.File

/-! ## Blocks -/

/-- A block of steps that may end by an exception. What follows a step may depend on what
the step found. -/
inductive Block (ε : Type) where
  | finish
  | raise (exception : ε)
  /-- Change files in any way. -/
  | change (act : List (Place × Node) → List (Place × Node)) (next : System → Block ε)
  | capture (path : Path) (next : Except AccessError Snapshot → Block ε)
  | restore (snapshots : List Snapshot) (rest : Block ε)
  /-- Run a block in a scope of its own. Its exception may be handled. -/
  | scope (snapshots : List Snapshot) (body : Block ε) (next : Except ε Unit → Block ε)

/-- What can be seen of a scope that was left: how its block ended and the files that this
left, and how the scope ended and the files that it left. -/
structure Exit (ε : Type) where
  snapshots : List Snapshot
  ended : Except ε Unit
  left : System
  result : Except ε Unit
  restored : System

namespace Block

variable {ε : Type}

/-- Run a block: how it ends, and the files that it leaves. -/
def run : Block ε → System → Except ε Unit × System
  | finish, files => (.ok (), files)
  | raise exception, files => (.error exception, files)
  | change act next, files =>
      let changed := { files with nodes := act files.nodes }
      (next changed).run changed
  | capture path next, files => (next (Snapshot.capture files path)).run files
  | restore snapshots rest, files => rest.run (Snapshot.restoreAll snapshots files)
  | scope snapshots body next, files =>
      let whole := Snapshot.within snapshots body.run files
      (next whole.1).run whole.2

/-- The scopes that are left while a block runs, inner ones first. -/
def exits : Block ε → System → List (Exit ε)
  | finish, _ => []
  | raise _, _ => []
  | change act next, files =>
      let changed := { files with nodes := act files.nodes }
      (next changed).exits changed
  | capture path next, files => (next (Snapshot.capture files path)).exits files
  | restore snapshots rest, files => rest.exits (Snapshot.restoreAll snapshots files)
  | scope snapshots body next, files =>
      let inner := body.run files
      let whole := Snapshot.within snapshots body.run files
      body.exits files ++
        ⟨snapshots, inner.1, inner.2, whole.1, whole.2⟩ :: (next whole.1).exits whole.2

/-- No step goes to another working directory. -/
theorem run_workingDirectory (block : Block ε) (files : System) :
    (block.run files).2.workingDirectory = files.workingDirectory := by
  induction block generalizing files with
  | finish => rfl
  | raise exception => rfl
  | change act next ih => exact ih _ { files with nodes := act files.nodes }
  | capture path next ih => exact ih _ files
  | restore snapshots rest ih =>
      rw [run, ih, (Snapshot.sameDirectories_restoreAll snapshots files).workingDirectory]
  | scope snapshots body next bodyIh nextIh =>
      rw [run, nextIh, Snapshot.within,
        (Snapshot.sameDirectories_restoreAll snapshots (body.run files).2).workingDirectory, bodyIh]

/-- Every scope is left by restoring its snapshots among the files that its block left, and
ends as its block did. -/
theorem exit_of_mem_exits {block : Block ε} {files : System} {exit : Exit ε}
    (left : exit ∈ block.exits files) :
    exit.result = exit.ended ∧ exit.restored = Snapshot.restoreAll exit.snapshots exit.left ∧
      exit.left.workingDirectory = files.workingDirectory := by
  induction block generalizing files with
  | finish => cases left
  | raise exception => cases left
  | change act next ih =>
      obtain ⟨result, restored, stays⟩ := ih { files with nodes := act files.nodes } left
      exact ⟨result, restored, stays⟩
  | capture path next ih => exact ih _ left
  | restore snapshots rest ih =>
      obtain ⟨result, restored, stays⟩ := ih left
      exact ⟨result, restored, stays.trans
        (Snapshot.sameDirectories_restoreAll snapshots files).workingDirectory⟩
  | scope snapshots body next bodyIh nextIh =>
      rw [exits, List.mem_append, List.mem_cons] at left
      rcases left with inner | rfl | later
      · exact bodyIh inner
      · exact ⟨rfl, rfl, body.run_workingDirectory files⟩
      · obtain ⟨result, restored, stays⟩ := nextIh _ later
        refine ⟨result, restored, stays.trans ?_⟩
        rw [Snapshot.within,
          (Snapshot.sameDirectories_restoreAll snapshots (body.run files).2).workingDirectory,
          body.run_workingDirectory]

end Block

/-! ## Snapshots that were taken -/

namespace System

/-- What stands at a path, if anything does. -/
def standing? (files : System) (path : Path) : Option Node :=
  (files.status path.toString).toOption

variable {files : System} {path : Path} {place : Place}

theorem standing?_of_locate (located : files.locate path.toString = .ok place) :
    files.standing? path = files.node? place := by
  rw [standing?, status_of_locate located]
  cases files.node? place <;> rfl

theorem standing?_of_not_located (unlocated : ∀ place, files.locate path.toString ≠ .ok place) :
    files.standing? path = none := by
  cases located : files.locate path.toString with
  | ok place => exact absurd located (unlocated place)
  | error failure => simp [standing?, status, located, bind, Except.bind, Except.toOption]

/-- Nothing stands at a path that is read as absent. -/
theorem standing?_of_holds_none (holds : files.Holds path none) : files.standing? path = none := by
  cases located : files.locate path.toString with
  | error failure => exact standing?_of_not_located fun place => by simp [located]
  | ok place =>
      rw [Holds, read_of_locate located] at holds
      rw [standing?_of_locate located]
      split at holds <;> simp_all

/-- A path without names leads to where its walk begins. -/
theorem locate_of_nameless (nameless : path.names = []) :
    files.locate path.toString =
      if files.node? (files.origin path.toString) = some .directory then
        .ok (files.origin path.toString)
      else .error .notADirectory := by
  have stay (here : Place) : files.walk here ["."] =
      if files.node? here = some .directory then .ok here else .error .notADirectory := by
    by_cases inside : files.node? here = some .directory <;> simp [walk, inside]
  obtain ⟨anchor, names⟩ := path
  cases nameless
  cases anchor with
  | relative => exact stay _
  | root => exact stay _
  | doubleRoot => exact stay _

/-- At a path without names no file stands, and none is missing. -/
theorem not_holds_of_nameless (nameless : path.names = []) (prior : Option Bytes) :
    ¬ files.Holds path prior := by
  by_cases directory : files.node? (files.origin path.toString) = some .directory
  · have located := (locate_of_nameless nameless).trans (if_pos directory)
    cases prior <;> simp [Holds, read_of_locate located, directory]
  · have located := (locate_of_nameless nameless).trans (if_neg directory)
    cases prior <;> simp [Holds, read_of_locate_error located]

end System

namespace Snapshot

open GuardedInstall.File.System

variable {snapshot : Snapshot} {snapshots : List Snapshot} {files : System}

/-- A snapshot that was taken, at whatever time. -/
structure IsTaken (snapshot : Snapshot) : Prop where
  normal : snapshot.path.IsNormal
  captured : ∃ earlier, capture earlier snapshot.path = .ok snapshot

/-- A path holds again what was recorded: the same bytes, or nothing. -/
def IsBack (snapshot : Snapshot) (files : System) : Prop :=
  match snapshot.prior with
  | some content => files.read snapshot.path = .ok content
  | none => files.standing? snapshot.path = none

/-- What restoring tries to do. -/
def attempt (snapshot : Snapshot) (files : System) : Except AccessError System :=
  match snapshot.prior with
  | some content => files.write snapshot.path content
  | none => files.remove snapshot.path

/-- Where restoring fails, the files stay as they are. -/
theorem restore_of_attempt_error {error : AccessError}
    (failed : snapshot.attempt files = .error error) : snapshot.restore files = files := by
  cases prior : snapshot.prior with
  | none =>
      simp only [attempt, prior] at failed
      simp only [restore, prior, failed]
  | some content =>
      simp only [attempt, prior] at failed
      simp only [restore, prior, failed]

theorem isBack_of_holds (holds : files.Holds snapshot.path snapshot.prior) :
    snapshot.IsBack files := by
  obtain ⟨path, prior⟩ := snapshot
  cases prior with
  | none => exact standing?_of_holds_none holds
  | some content => exact holds

/-- What is recorded is what stands there: the bytes of a file, or nothing at all. -/
theorem isBack_of_capture {path : Path} (captured : capture files path = .ok snapshot) :
    snapshot.path = path ∧ snapshot.IsBack files := by
  obtain ⟨rfl, holds⟩ := capture_eq_ok_iff.mp captured
  exact ⟨rfl, isBack_of_holds holds⟩

/-- What cannot be recorded is not absent. -/
theorem read_of_capture_error {path : Path} {error : AccessError}
    (refused : capture files path = .error error) :
    files.read path = .error error ∧ error.failure ≠ .notFound := by
  unfold capture at refused
  cases read : files.read path with
  | ok content => simp [read] at refused
  | error other =>
      rw [read] at refused
      by_cases absent : other.failure = .notFound
      · simp [absent] at refused
      · simp only [absent, if_false, Except.error.injEq] at refused
        subst refused
        exact ⟨rfl, absent⟩

namespace IsTaken

variable (taken : snapshot.IsTaken)

include taken

theorem exists_holds : ∃ earlier : System, earlier.Holds snapshot.path snapshot.prior := by
  obtain ⟨earlier, captured⟩ := taken.captured
  exact ⟨earlier, (capture_eq_ok_iff.mp captured).2⟩

theorem nameful : snapshot.path.names ≠ [] := by
  obtain ⟨earlier, holds⟩ := taken.exists_holds
  intro nameless
  exact not_holds_of_nameless nameless snapshot.prior holds

theorem nameable : IsNameable snapshot.path.toString := by
  obtain ⟨earlier, holds⟩ := taken.exists_holds
  exact isNameable_of_holds holds taken.normal.toString_ne_empty

/-- A file that was read has a name that is not too long. -/
theorem short {content : Bytes} (recorded : snapshot.prior = some content) :
    byteLength (snapshot.path.names.getLast taken.nameful) ≤ nameLimit := by
  obtain ⟨earlier, holds⟩ := taken.exists_holds
  rw [recorded, Holds] at holds
  cases located : earlier.locate snapshot.path.toString with
  | error failure => simp [read_of_locate_error located] at holds
  | ok place =>
      exact ((locate_toString_eq_ok_iff_parent taken.normal taken.nameful).mp located).2.1

/-- Restoring fails only for what is there. -/
theorem not_mem_obstacles_of_attempt {error : AccessError}
    (failed : snapshot.attempt files = .error error) : error.failure ∉ obstacles := by
  have free := taken.nameable.free
  cases located : files.locate snapshot.path.toString with
  | error failure =>
      have told : error.failure = failure := by
        cases recorded : snapshot.prior <;>
          simp only [attempt, recorded, write, remove, access, located, bind, Except.bind,
            Except.mapError, Except.error.injEq] at failed <;>
          rw [← failed]
      intro obstructs
      rw [told] at obstructs
      rw [locate_eq_error_iff obstructs, free] at located
      cases located
  | ok place =>
      have harmless : ∀ failure ∈ [Failure.isADirectory, .notFound], failure ∉ obstacles := by
        decide
      apply harmless
      cases recorded : snapshot.prior with
      | none =>
          simp only [attempt, recorded, remove_of_locate located] at failed
          split at failed <;> cases failed <;> simp
      | some content =>
          by_cases directory : files.node? place = some .directory
          · simp only [attempt, recorded, write, access, located, directory, bind, Except.bind]
              at failed
            cases failed
            simp
          · simp [attempt, recorded, write_of_locate located directory] at failed

/-- A snapshot whose path could be restored is back after all of its tuple were restored. -/
theorem isBack_restoreAll (distinct : (targets snapshots files).Nodup)
    (member : snapshot ∈ snapshots) (restorable : files.Restorable snapshot.path) :
    snapshot.IsBack (restoreAll snapshots files) := by
  by_cases short : byteLength (snapshot.path.names.getLast taken.nameful) ≤ nameLimit
  · obtain ⟨place, located⟩ := exists_locate_of_status_parent taken.normal taken.nameful
      taken.nameable short restorable.inDirectory
    have reaches : files.Reaches snapshot.path place := by
      refine ⟨located, fun directory => restorable.noDirectory ?_⟩
      exact status_eq_directory_iff.mpr ⟨place, located, directory⟩
    exact isBack_of_holds (holds_restoreAll distinct member reaches)
  -- Nothing was ever read at a name that is too long, and nothing can stand there.
  · have absent : snapshot.prior = none := by
      cases recorded : snapshot.prior with
      | none => rfl
      | some content => exact absurd (taken.short recorded) short
    rw [IsBack, absent]
    apply standing?_of_not_located
    intro place located
    exact short ((locate_toString_eq_ok_iff_parent taken.normal taken.nameful).mp located).2.1

/-- At a path that cannot be restored stands what stood there before. -/
theorem standing?_restoreAll (unrestorable : ¬ files.Restorable snapshot.path) :
    (restoreAll snapshots files).standing? snapshot.path = files.standing? snapshot.path := by
  have same := sameDirectories_restoreAll snapshots files
  by_cases located : ∃ place, files.locate snapshot.path.toString = .ok place
  · obtain ⟨place, located⟩ := located
    have directory : files.node? place = some .directory := by
      by_contra noDirectory
      refine unrestorable ⟨status_parent_of_locate taken.normal taken.nameful located, ?_⟩
      rw [ne_eq, status_eq_directory_iff]
      rintro ⟨other, again, directory⟩
      rw [located] at again
      cases again
      exact noDirectory directory
    rw [standing?_of_locate located, standing?_of_locate (same.locate_eq_ok_iff.mpr located),
      directory, (same.directory place).mpr directory]
  · have unlocated := not_exists.mp located
    rw [standing?_of_not_located unlocated, standing?_of_not_located fun place found =>
      unlocated place (same.locate_eq_ok_iff.mp found)]

end IsTaken

end Snapshot

/-! ## Scopes that are left -/

open GuardedInstall.File.Snapshot (capture restoreAll targets)
open GuardedInstall.File.System (AgreeOutside obstacles)

/-- What leaving a scope does. -/
structure Exit.Restores {ε : Type} (exit : Exit ε) : Prop where
  /-- The scope ends as its block did, and an exception goes on as it was. -/
  result_eq : exit.result = exit.ended
  /-- Restoring never fails for a path that is not looked up at all. Any other failure is
  passed over. -/
  passedOver (snapshot : Snapshot) (member : snapshot ∈ exit.snapshots) (files : System)
    (error : AccessError) (failed : snapshot.attempt files = .error error) :
    error.failure ∉ obstacles ∧ snapshot.restore files = files
  isBack (snapshot : Snapshot) (member : snapshot ∈ exit.snapshots)
    (restorable : exit.left.Restorable snapshot.path) : snapshot.IsBack exit.restored
  /-- A directory at the path of a snapshot stays, and so does a path without a directory
  around it. -/
  spared (snapshot : Snapshot) (member : snapshot ∈ exit.snapshots)
    (unrestorable : ¬ exit.left.Restorable snapshot.path) :
    exit.restored.standing? snapshot.path = exit.left.standing? snapshot.path
  elsewhere : AgreeOutside (targets exit.snapshots exit.left) exit.restored exit.left
  again (order : List Snapshot) (same : order.Perm exit.snapshots) :
    restoreAll order exit.restored = exit.restored
  /-- In any other order, the same stands at every place. -/
  reordered (order : List Snapshot) (same : order.Perm exit.snapshots) :
    AgreeOutside [] (restoreAll order exit.left) exit.restored

/-- What taking a snapshot of a path comes to: it records the bytes that are there, or that
nothing is, and is refused in any other case. -/
def Records (files : System) (path : Path) : Except AccessError Snapshot → Prop
  | .ok snapshot => snapshot.path = path ∧ snapshot.IsBack files
  | .error error => files.read path = .error error ∧ error.failure ≠ .notFound

theorem records_capture (files : System) (path : Path) :
    Records files path (capture files path) := by
  cases taking : capture files path with
  | ok snapshot => exact Snapshot.isBack_of_capture taking
  | error error => exact Snapshot.read_of_capture_error taking

/-- Whenever a scope is left while a block runs, its snapshots are restored, provided that
they were taken of different places. A snapshot says what stood at its path when it was
taken. -/
theorem restores_of_mem_exits {ε : Type} {block : Block ε} {files : System} {exit : Exit ε}
    (left : exit ∈ block.exits files) (taken : ∀ snapshot ∈ exit.snapshots, snapshot.IsTaken)
    (distinct : (targets exit.snapshots files).Nodup) :
    exit.Restores ∧ ∀ earlier path, Records earlier path (capture earlier path) := by
  obtain ⟨result, restored, stays⟩ := Block.exit_of_mem_exits left
  have distinct : (targets exit.snapshots exit.left).Nodup := by
    simpa only [targets, System.target, System.origin, stays] using distinct
  refine ⟨?_, records_capture⟩
  constructor
  case result_eq => exact result
  case passedOver =>
    intro snapshot member files error failed
    exact ⟨(taken snapshot member).not_mem_obstacles_of_attempt failed,
      Snapshot.restore_of_attempt_error failed⟩
  case isBack =>
    intro snapshot member restorable
    rw [restored]
    exact (taken snapshot member).isBack_restoreAll distinct member restorable
  case spared =>
    intro snapshot member unrestorable
    rw [restored]
    exact (taken snapshot member).standing?_restoreAll unrestorable
  case elsewhere =>
    rw [restored]
    exact Snapshot.agreeOutside_restoreAll exit.snapshots exit.left
  case again =>
    intro order same
    rw [restored]
    exact Snapshot.restoreAll_restoreAll distinct same.subset
  case reordered =>
    intro order same
    rw [restored]
    exact Snapshot.agreeOutside_nil_restoreAll_of_perm distinct same

/-! ## Work that breaks off -/

/-- A place of work with a plan and nothing else. -/
def workshop : System where
  nodes := [(["plan"], .file ⟨#[1]⟩ true)]
  workingDirectory := []

/-- The plan, and a notice that is not there. -/
def workshopSnapshots : List Snapshot :=
  [⟨.child ⟨.root, []⟩ "plan", some ⟨#[1]⟩⟩, ⟨.child ⟨.root, []⟩ "notice", none⟩]

/-- Work that takes the plan away and puts up a notice. In a scope of its own it puts a
directory in the place of the notice and breaks off. -/
def brokenWork : Block String :=
  .change (fun _ => [(["notice"], .file ⟨#[2]⟩ false)]) fun _ =>
    .capture (.child ⟨.root, []⟩ "notice") fun taken =>
      .scope taken.toOption.toList
        (.change (fun _ => [(["notice"], .directory)]) fun _ => .raise "broken off")
        fun
          | .ok _ => .finish
          | .error exception => .raise exception

/-- The exit from a scope around that work. -/
def brokenExit : Exit String where
  snapshots := workshopSnapshots
  ended := (brokenWork.run workshop).1
  left := (brokenWork.run workshop).2
  result := (Snapshot.within workshopSnapshots brokenWork.run workshop).1
  restored := (Snapshot.within workshopSnapshots brokenWork.run workshop).2

theorem locate_workshop {name : String} (member : name ∈ ["plan", "notice"]) :
    workshop.locate (Path.child ⟨.root, []⟩ name).toString = .ok [name] := by
  simp only [List.mem_cons, List.not_mem_nil, or_false] at member
  rcases member with rfl | rfl
  · exact System.locate_child_root (by decide) (by decide) ⟨by decide, by decide, by decide⟩ _
  · exact System.locate_child_root (by decide) (by decide) ⟨by decide, by decide, by decide⟩ _

theorem isTaken_of_mem_workshopSnapshots {snapshot : Snapshot}
    (member : snapshot ∈ workshopSnapshots) : snapshot.IsTaken := by
  simp only [workshopSnapshots, List.mem_cons, List.not_mem_nil, or_false] at member
  rcases member with rfl | rfl
  · refine ⟨Path.ofString_isNormal "/plan", workshop, ?_⟩
    have plan : workshop.read (.child ⟨.root, []⟩ "plan") = .ok ⟨#[1]⟩ := by
      rw [System.read_of_locate (locate_workshop List.mem_cons_self)]
      rfl
    exact Snapshot.capture_eq_ok_iff.mpr ⟨rfl, plan⟩
  · refine ⟨Path.ofString_isNormal "/notice", workshop, ?_⟩
    have notice : workshop.read (.child ⟨.root, []⟩ "notice") =
        .error ⟨.notFound, (Path.child ⟨.root, []⟩ "notice").toString⟩ := by
      rw [System.read_of_locate (locate_workshop (List.mem_cons_of_mem _ List.mem_cons_self))]
      rfl
    exact Snapshot.capture_eq_ok_iff.mpr ⟨rfl, notice⟩

theorem restores_brokenExit :
    brokenExit ∈ (Block.scope workshopSnapshots brokenWork fun _ => .finish).exits workshop ∧
    (∀ snapshot ∈ brokenExit.snapshots, snapshot.IsTaken) ∧
    (targets brokenExit.snapshots workshop).Nodup ∧ brokenExit.ended = .error "broken off" ∧
    brokenExit.Restores ∧ ∀ earlier path, Records earlier path (capture earlier path) := by
  have left : brokenExit ∈
      (Block.scope workshopSnapshots brokenWork fun _ => .finish).exits workshop :=
    List.mem_append_right _ List.mem_cons_self
  have taken (snapshot : Snapshot) (member : snapshot ∈ brokenExit.snapshots) :
      snapshot.IsTaken := isTaken_of_mem_workshopSnapshots member
  have places : targets brokenExit.snapshots workshop = [["plan"], ["notice"]] := by
    have plan := System.target_toString (Path.ofString_isNormal "/plan") rfl (by decide) workshop
    have notice :=
      System.target_toString (Path.ofString_isNormal "/notice") rfl (by decide) workshop
    exact congrArg₂ (fun first second => [first, second]) plan notice
  have distinct : (targets brokenExit.snapshots workshop).Nodup := by
    rw [places]
    decide
  exact ⟨left, taken, distinct, rfl, restores_of_mem_exits left taken distinct⟩

end GuardedInstall.File
