import GuardedInstall.File.Snapshot
import GuardedInstall.File.Tree
import GuardedInstall.Proofs.File.Child
import Mathlib.Tactic.ByContra

/-!
# What restoring does

Restoring a snapshot acts on one place. It puts the recorded state there whenever
a file could stand at the path, and otherwise changes nothing. No directory comes
or goes, so restoring one snapshot never decides whether another can be restored.
-/

namespace GuardedInstall.File

namespace System

/-- The content of what stands at a place, if that is a file. -/
def contentOf : Option Node → Option Bytes
  | some (.file content _) => some content
  | _ => none

/-- A path holds a recorded state: a file of that content, or nothing. -/
def Holds (files : System) (path : Path) : Option Bytes → Prop
  | some content => files.read path = .ok content
  | none => files.read path = .error ⟨.notFound, path.toString⟩

/-- The state that a path holds says how it is read. -/
theorem Holds.read_eq {first second : System} {path : Path} {prior : Option Bytes}
    (left : first.Holds path prior) (right : second.Holds path prior) :
    first.read path = second.read path := by
  cases prior with
  | none => exact left.trans right.symm
  | some content => exact left.trans right.symm

/-- A path leads to a place at which a file could stand. -/
structure Reaches (files : System) (path : Path) (place : Place) : Prop where
  located : files.locate path.toString = .ok place
  noDirectory : files.node? place ≠ some .directory

/-- The directory of a path is there, and the path itself is no directory. -/
structure Restorable (files : System) (path : Path) : Prop where
  inDirectory : files.status path.parent.toString = .ok .directory
  noDirectory : files.status path.toString ≠ .ok .directory

/-- Two file systems agree everywhere except at some places. -/
structure AgreeOutside (places : List Place) (first second : System) : Prop where
  workingDirectory : first.workingDirectory = second.workingDirectory
  node? (place : Place) (outside : place ∉ places) : first.node? place = second.node? place

theorem AgreeOutside.refl (places : List Place) (files : System) :
    AgreeOutside places files files :=
  ⟨rfl, fun _ _ => rfl⟩

theorem AgreeOutside.trans {places : List Place} {first second third : System}
    (left : AgreeOutside places first second) (right : AgreeOutside places second third) :
    AgreeOutside places first third :=
  ⟨left.workingDirectory.trans right.workingDirectory,
    fun place outside => (left.node? place outside).trans (right.node? place outside)⟩

variable {files first second : System} {path : Path} {place : Place}

theorem status_of_locate {text : String} (located : files.locate text = .ok place) :
    files.status text = match files.node? place with
      | some node => .ok node
      | none => .error .notFound := by
  simp only [status, located]
  rfl

theorem status_eq_directory_iff {text : String} :
    files.status text = .ok .directory ↔
      ∃ place, files.locate text = .ok place ∧ files.node? place = some .directory := by
  cases located : files.locate text with
  | error failure => simp [status, located, bind, Except.bind]
  | ok place =>
      rw [status_of_locate located]
      cases found : files.node? place <;> simp [found]

theorem read_of_locate (located : files.locate path.toString = .ok place) :
    files.read path = match files.node? place with
      | some (.file content _) => .ok content
      | some .directory => .error ⟨.isADirectory, path.toString⟩
      | none => .error ⟨.notFound, path.toString⟩ := by
  simp only [read, access, status_of_locate located]
  cases found : files.node? place with
  | none => rfl
  | some node => cases node <;> rfl

theorem read_of_locate_error {failure : Failure}
    (unlocated : files.locate path.toString = .error failure) :
    files.read path = .error ⟨failure, path.toString⟩ := by
  simp only [read, access, status, unlocated]
  rfl

theorem write_of_locate (located : files.locate path.toString = .ok place)
    (noDirectory : files.node? place ≠ some .directory) (content : Bytes) :
    files.write path content =
      .ok (files.set place (.file content (files.keepsExecutable place))) := by
  simp only [write, access, located, keepsExecutable, bind, Except.bind]
  cases found : files.node? place with
  | none => rfl
  | some node =>
      cases node with
      | directory => exact absurd found noDirectory
      | file old executable => rfl

theorem remove_of_locate (located : files.locate path.toString = .ok place) :
    files.remove path = match files.node? place with
      | some (.file _ _) => .ok (files.erase place)
      | some .directory => .error ⟨.isADirectory, path.toString⟩
      | none => .error ⟨.notFound, path.toString⟩ := by
  simp only [remove, access, located, bind, Except.bind]
  cases found : files.node? place with
  | none => rfl
  | some node => cases node <;> rfl

/-- A failed read names the path that it was given. -/
theorem path_of_read_error {error : AccessError} (failed : files.read path = .error error) :
    error.path = path.toString := by
  cases located : files.locate path.toString with
  | error failure =>
      rw [read_of_locate_error located] at failed
      cases failed
      rfl
  | ok place =>
      rw [read_of_locate located] at failed
      split at failed
      · cases failed
      · cases failed
        rfl
      · cases failed
        rfl

/-- Reading fails for the text of a path exactly when that is not looked up. -/
theorem read_eq_error_iff {failure : Failure} (obstructs : failure ∈ obstacles) :
    files.read path = .error ⟨failure, path.toString⟩ ↔
      obstacle? path.toString = some failure := by
  have unlocated : files.locate path.toString = .error failure ↔
      obstacle? path.toString = some failure := locate_eq_error_iff obstructs
  rw [← unlocated]
  cases located : files.locate path.toString with
  | error other => simp [read_of_locate_error located]
  | ok place =>
      simp only [read_of_locate located, reduceCtorEq, iff_false]
      split
      · simp
      · simp only [Except.error.injEq, AccessError.mk.injEq, not_and]
        rintro rfl
        exact absurd obstructs (by decide)
      · simp only [Except.error.injEq, AccessError.mk.injEq, not_and]
        rintro rfl
        exact absurd obstructs (by decide)

/-- A path that was read, or found to be absent, can be looked up. -/
theorem isNameable_of_holds {prior : Option Bytes} (holds : files.Holds path prior)
    (nonempty : path.toString ≠ "") : IsNameable path.toString := by
  by_contra unnameable
  have refused : ∃ failure, failure ≠ .notFound ∧
      files.locate path.toString = .error failure := by
    by_cases free : obstacle? path.toString = none
    · have long : pathLimit ≤ byteLength path.toString := by
        by_contra short
        exact unnameable ⟨free, nonempty, Nat.not_le.mp short⟩
      exact ⟨.nameTooLong, by simp, by simp [locate, free, nonempty, long]⟩
    · obtain ⟨failure, obstacle⟩ := Option.ne_none_iff_exists'.mp free
      refine ⟨failure, ?_, by simp [locate, obstacle]⟩
      rintro rfl
      exact absurd (mem_obstacles obstacle) (by decide)
  obtain ⟨failure, ne, unlocated⟩ := refused
  cases prior with
  | none => simp_all [Holds, read_of_locate_error unlocated]
  | some content => simp [Holds, read_of_locate_error unlocated] at holds

namespace Reaches

theorem place_ne_nil (reaches : files.Reaches path place) : place ≠ [] := by
  rintro rfl
  exact reaches.noDirectory rfl

theorem eq_target (reaches : files.Reaches path place) : place = files.target path.toString :=
  eq_target_of_locate reaches.located

theorem congr (same : SameDirectories first second) (reaches : first.Reaches path place) :
    second.Reaches path place :=
  ⟨same.locate_eq_ok_iff.mp reaches.located,
    fun directory => reaches.noDirectory ((same.directory place).mpr directory)⟩

/-- Where a file could stand, a path holds what stands at its place. -/
theorem holds_iff (reaches : files.Reaches path place) {prior : Option Bytes} :
    files.Holds path prior ↔ contentOf (files.node? place) = prior := by
  have read := read_of_locate reaches.located
  cases found : files.node? place with
  | none => cases prior <;> simp [Holds, read, found, contentOf]
  | some node =>
      cases node with
      | directory => exact absurd found reaches.noDirectory
      | file content executable => cases prior <;> simp [Holds, read, found, contentOf]

end Reaches

/-- A single file name below a directory that is there leads to a place. -/
theorem Restorable.exists_reaches {name : String} (absolutePath : path.isAbsolute = true)
    (plain : IsFileName name) (nameable : IsNameable (path.child name).toString)
    (short : byteLength name ≤ nameLimit) (restorable : files.Restorable (path.child name)) :
    ∃ place, files.Reaches (path.child name) place := by
  obtain ⟨base, located, directory⟩ := status_eq_directory_iff.mp restorable.inDirectory
  rw [plain.child_parent] at located
  have found : files.locate (path.child name).toString = .ok (name :: base) :=
    (locate_child_eq_ok_iff absolutePath plain).mpr
      ⟨nameable, short, base, located, directory, rfl⟩
  refine ⟨name :: base, found, fun isDirectory => restorable.noDirectory ?_⟩
  exact status_eq_directory_iff.mpr ⟨_, found, isDirectory⟩

theorem find?_eq_none_iff {nodes : List (Place × Node)} :
    Table.find? place nodes = none ↔ ∀ entry ∈ nodes, entry.1 ≠ place := by
  induction nodes with
  | nil => simp [Table.find?]
  | cons entry rest ih =>
      obtain ⟨present, node⟩ := entry
      by_cases hit : present = place <;> simp [Table.find?, hit, ih]

/-- There is nothing to take away where nothing stands. -/
theorem erase_eq_self (nonempty : place ≠ []) (absent : files.node? place = none) :
    files.erase place = files := by
  simp only [node?, nonempty, if_false] at absent
  have kept : files.nodes.filter (fun entry => entry.1 ≠ place) = files.nodes := by
    rw [List.filter_eq_self]
    intro entry member
    simpa using find?_eq_none_iff.mp absent entry member
  simp only [erase, kept]

/-- Nothing changes where a node is put that stands there. -/
theorem set_eq_self {node : Node} (nonempty : place ≠ []) (stands : files.node? place = some node) :
    files.set place node = files := by
  simp only [node?, nonempty, if_false] at stands
  simp only [set, Table.put_of_find? stands]

end System

namespace Snapshot

open GuardedInstall.File.System

variable {snapshot : Snapshot} {snapshots : List Snapshot} {files : System} {path : Path}
  {place : Place}

/-- What is recorded is what the path holds. -/
theorem capture_eq_ok_iff :
    capture files path = .ok snapshot ↔
      snapshot.path = path ∧ files.Holds path snapshot.prior := by
  obtain ⟨recorded, prior⟩ := snapshot
  unfold capture
  cases read : files.read path with
  | ok content =>
      cases prior <;> simp [Holds, read, eq_comm]
  | error error =>
      have named : error.path = path.toString := path_of_read_error read
      obtain ⟨failure, text⟩ := error
      simp only at named
      subst named
      by_cases absent : failure = .notFound
      · cases prior <;> simp [Holds, read, absent, eq_comm]
      · cases prior <;> simp [Holds, read, absent]

/-- Restoring a path at which a file could stand acts on its place. -/
theorem restore_of_reaches (reaches : files.Reaches snapshot.path place) :
    snapshot.restore files = match snapshot.prior with
      | some content => files.set place (.file content (files.keepsExecutable place))
      | none => files.erase place := by
  cases recorded : snapshot.prior with
  | some content =>
      simp only [restore, recorded, write_of_locate reaches.located reaches.noDirectory]
  | none =>
      simp only [restore, recorded, remove_of_locate reaches.located]
      cases found : files.node? place with
      | none => exact (erase_eq_self reaches.place_ne_nil found).symm
      | some node =>
          cases node with
          | directory => exact absurd found reaches.noDirectory
          | file old executable => rfl

/-- Restoring changes nothing where no file could stand. -/
theorem restore_of_forall_not_reaches
    (unreached : ∀ place, ¬ files.Reaches snapshot.path place) :
    snapshot.restore files = files := by
  cases located : files.locate snapshot.path.toString with
  | error failure =>
      cases recorded : snapshot.prior <;>
        simp only [restore, recorded, write, remove, access, located, bind, Except.bind,
          Except.mapError]
  | ok place =>
      have directory : files.node? place = some .directory := by
        by_contra noDirectory
        exact unreached place ⟨located, noDirectory⟩
      cases recorded : snapshot.prior with
      | some content =>
          simp only [restore, recorded, write, access, located, directory, bind, Except.bind]
          rfl
      | none => simp only [restore, recorded, remove_of_locate located, directory]

/-- No directory comes or goes. -/
theorem sameDirectories_restore (snapshot : Snapshot) (files : System) :
    SameDirectories (snapshot.restore files) files := by
  by_cases reached : ∃ place, files.Reaches snapshot.path place
  · obtain ⟨place, reaches⟩ := reached
    rw [restore_of_reaches reaches]
    split
    · exact sameDirectories_set reaches.noDirectory _ _
    · exact sameDirectories_erase reaches.noDirectory
  · rw [restore_of_forall_not_reaches (not_exists.mp reached)]
    exact SameDirectories.refl files

/-- Nothing changes at any other place. -/
theorem node?_restore_of_ne {other : Place}
    (ne : other ≠ files.target snapshot.path.toString) :
    (snapshot.restore files).node? other = files.node? other := by
  by_cases reached : ∃ place, files.Reaches snapshot.path place
  · obtain ⟨place, reaches⟩ := reached
    rw [← reaches.eq_target] at ne
    rw [restore_of_reaches reaches]
    split
    · exact node?_set_of_ne ne _ _
    · exact node?_erase_of_ne ne _
  · rw [restore_of_forall_not_reaches (not_exists.mp reached)]

/-- What restoring puts at a place. A file that stands there keeps its permission. -/
def nodeAt (snapshot : Snapshot) (files : System) (place : Place) : Option Node :=
  snapshot.prior.map fun content => .file content (files.keepsExecutable place)

theorem node?_restore (reaches : files.Reaches snapshot.path place) :
    (snapshot.restore files).node? place = snapshot.nodeAt files place := by
  rw [restore_of_reaches reaches, nodeAt]
  cases snapshot.prior <;> simp [reaches.place_ne_nil]

theorem contentOf_nodeAt (snapshot : Snapshot) (files : System) (place : Place) :
    contentOf (snapshot.nodeAt files place) = snapshot.prior := by
  rw [nodeAt]
  cases snapshot.prior <;> rfl

/-- Restoring elsewhere does not change what is kept of a place. -/
theorem nodeAt_restore_of_ne {other : Snapshot}
    (ne : place ≠ files.target other.path.toString) :
    snapshot.nodeAt (other.restore files) place = snapshot.nodeAt files place := by
  simp only [nodeAt, keepsExecutable, node?_restore_of_ne ne]

/-! ## Several snapshots -/

@[simp]
theorem restoreAll_nil (files : System) : restoreAll [] files = files :=
  rfl

@[simp]
theorem restoreAll_cons (snapshot : Snapshot) (rest : List Snapshot) (files : System) :
    restoreAll (snapshot :: rest) files = restoreAll rest (snapshot.restore files) :=
  rfl

theorem sameDirectories_restoreAll (snapshots : List Snapshot) (files : System) :
    SameDirectories (restoreAll snapshots files) files := by
  induction snapshots generalizing files with
  | nil => exact SameDirectories.refl files
  | cons snapshot rest ih =>
      exact (ih (snapshot.restore files)).trans (sameDirectories_restore snapshot files)

/-- The places that restoring acts on. -/
def targets (snapshots : List Snapshot) (files : System) : List Place :=
  snapshots.map fun snapshot => files.target snapshot.path.toString

theorem targets_congr {first second : System} (same : SameDirectories first second)
    (snapshots : List Snapshot) : targets snapshots first = targets snapshots second := by
  simp only [targets, same.target_eq]

/-- Restoring changes nothing outside of the places of the snapshots. -/
theorem agreeOutside_restoreAll (snapshots : List Snapshot) (files : System) :
    AgreeOutside (targets snapshots files) (restoreAll snapshots files) files := by
  induction snapshots generalizing files with
  | nil => exact AgreeOutside.refl _ files
  | cons snapshot rest ih =>
      have same := sameDirectories_restore snapshot files
      have later := ih (snapshot.restore files)
      rw [targets_congr same] at later
      refine ⟨later.workingDirectory.trans same.workingDirectory, fun place outside => ?_⟩
      simp only [targets, List.map_cons, List.mem_cons, not_or] at outside
      rw [restoreAll_cons, later.node? place outside.2, node?_restore_of_ne outside.1]

/-- Where a file could stand at the path of a snapshot, that snapshot tells in the end what
stands there, whatever becomes of the others. -/
theorem node?_restoreAll (distinct : (targets snapshots files).Nodup)
    (member : snapshot ∈ snapshots) (reaches : files.Reaches snapshot.path place) :
    (restoreAll snapshots files).node? place = snapshot.nodeAt files place := by
  induction snapshots generalizing files with
  | nil => cases member
  | cons head rest ih =>
      have same := sameDirectories_restore head files
      have others := targets_congr same rest
      simp only [targets, List.map_cons, List.nodup_cons] at distinct
      rcases List.mem_cons.mp member with rfl | member
      -- The later snapshots have other places, so what is restored first stays.
      · have agree := agreeOutside_restoreAll rest (snapshot.restore files)
        rw [others] at agree
        rw [restoreAll_cons, agree.node? place (reaches.eq_target ▸ distinct.1),
          node?_restore reaches]
      · have ne : place ≠ files.target head.path.toString := by
          rintro rfl
          apply distinct.1
          rw [reaches.eq_target]
          exact List.mem_map_of_mem member
        rw [restoreAll_cons, ih (others ▸ distinct.2) member (reaches.congr same.symm),
          nodeAt_restore_of_ne ne]

/-- Every path at which a file could stand holds its recorded state in the end. -/
theorem holds_restoreAll (distinct : (targets snapshots files).Nodup)
    (member : snapshot ∈ snapshots) (reaches : files.Reaches snapshot.path place) :
    (restoreAll snapshots files).Holds snapshot.path snapshot.prior := by
  have still := reaches.congr (sameDirectories_restoreAll snapshots files).symm
  rw [still.holds_iff, node?_restoreAll distinct member reaches, contentOf_nodeAt]

/-- No snapshot changes a place that none of them reaches. -/
theorem node?_restoreAll_of_forall_not_reaches
    (unreached : ∀ snapshot ∈ snapshots, ¬ files.Reaches snapshot.path place) :
    (restoreAll snapshots files).node? place = files.node? place := by
  induction snapshots generalizing files with
  | nil => rfl
  | cons head rest ih =>
      obtain ⟨missed, others⟩ := List.forall_mem_cons.mp unreached
      have same := sameDirectories_restore head files
      have kept : (head.restore files).node? place = files.node? place := by
        by_cases reached : ∃ other, files.Reaches head.path other
        · obtain ⟨other, reaches⟩ := reached
          apply node?_restore_of_ne
          rw [← reaches.eq_target]
          rintro rfl
          exact missed reaches
        · rw [restore_of_forall_not_reaches (not_exists.mp reached)]
      rw [restoreAll_cons, ih fun snapshot member reaches =>
        others snapshot member (reaches.congr same), kept]

/-- The order in which snapshots are restored does not matter. -/
theorem agreeOutside_nil_restoreAll_of_perm {order : List Snapshot}
    (distinct : (targets snapshots files).Nodup) (same : order.Perm snapshots) :
    AgreeOutside [] (restoreAll order files) (restoreAll snapshots files) := by
  have anyway : (targets order files).Nodup :=
    (same.map fun snapshot : Snapshot => files.target snapshot.path.toString).nodup_iff.mpr
      distinct
  constructor
  case workingDirectory =>
    rw [(sameDirectories_restoreAll order files).workingDirectory,
      (sameDirectories_restoreAll snapshots files).workingDirectory]
  case node? =>
    intro place _
    by_cases reached : ∃ snapshot ∈ snapshots, files.Reaches snapshot.path place
    · obtain ⟨snapshot, member, reaches⟩ := reached
      rw [node?_restoreAll anyway (same.mem_iff.mpr member) reaches,
        node?_restoreAll distinct member reaches]
    · have unreached (snapshot : Snapshot) (member : snapshot ∈ snapshots) :
          ¬ files.Reaches snapshot.path place := fun reaches =>
        reached ⟨snapshot, member, reaches⟩
      rw [node?_restoreAll_of_forall_not_reaches unreached,
        node?_restoreAll_of_forall_not_reaches fun snapshot member =>
          unreached snapshot (same.mem_iff.mp member)]

/-! ## Restoring what is in place -/

/-- Restoring changes nothing where the recorded state is held. -/
theorem restore_eq_self_of_holds (holds : files.Holds snapshot.path snapshot.prior) :
    snapshot.restore files = files := by
  by_cases reached : ∃ place, files.Reaches snapshot.path place
  · obtain ⟨place, reaches⟩ := reached
    rw [reaches.holds_iff] at holds
    rw [restore_of_reaches reaches, ← holds]
    cases found : files.node? place with
    | none => exact erase_eq_self reaches.place_ne_nil found
    | some node =>
        cases node with
        | directory => exact absurd found reaches.noDirectory
        | file content executable =>
            simp only [contentOf, keepsExecutable, found]
            exact set_eq_self reaches.place_ne_nil found
  · exact restore_of_forall_not_reaches (not_exists.mp reached)

/-- A snapshot that was restored among others is in place. -/
theorem restore_restoreAll (distinct : (targets snapshots files).Nodup)
    (member : snapshot ∈ snapshots) :
    snapshot.restore (restoreAll snapshots files) = restoreAll snapshots files := by
  by_cases reached : ∃ place, (restoreAll snapshots files).Reaches snapshot.path place
  · obtain ⟨place, reaches⟩ := reached
    have before := reaches.congr (sameDirectories_restoreAll snapshots files)
    exact restore_eq_self_of_holds (holds_restoreAll distinct member before)
  · exact restore_of_forall_not_reaches (not_exists.mp reached)

/-- Restoring again changes nothing, in whatever order and however often. -/
theorem restoreAll_restoreAll {again : List Snapshot}
    (distinct : (targets snapshots files).Nodup) (restored : again ⊆ snapshots) :
    restoreAll again (restoreAll snapshots files) = restoreAll snapshots files := by
  induction again with
  | nil => rfl
  | cons head rest ih =>
      obtain ⟨member, others⟩ := List.cons_subset.mp restored
      rw [restoreAll_cons, restore_restoreAll distinct member, ih others]

end Snapshot

end GuardedInstall.File
