import GuardedInstall.Proofs.File.Normal
import GuardedInstall.Proofs.File.Search

/-!
# The nearest directory with a marker

The directories that a search looks at are numbered from the start upwards. A search is
decided by the first of them that does not lack the marker: either the marker is there, or
the path to it is too long to be looked up. Only so many directories are looked at, and the
root of the file system is looked at before the search ends there.
-/

namespace GuardedInstall.File

namespace Path

/-- A directory so many steps above a path, by the names of the path alone. -/
structure IsAbove (steps : Nat) (above path : Path) : Prop where
  anchor : above.anchor = path.anchor
  names : ∃ below, path.names = above.names ++ below ∧ below.length = steps

variable {above between path other : Path} {steps more : Nat}

theorem parent_eq_self_iff : path.parent = path ↔ path.names = [] := by
  obtain ⟨anchor, names⟩ := path
  have shorter : names.dropLast = names ↔ names = [] := by
    constructor
    · intro same
      have lengths := congrArg List.length same
      rw [List.length_dropLast] at lengths
      exact List.eq_nil_of_length_eq_zero (by omega)
    · rintro rfl
      rfl
  simp [parent, shorter]

@[simp]
theorem isAbove_zero_iff : IsAbove 0 above path ↔ above = path := by
  constructor
  · rintro ⟨anchor, below, names, length⟩
    rw [List.eq_nil_of_length_eq_zero length, List.append_nil] at names
    exact Path.mk.injEq .. ▸ ⟨anchor, names.symm⟩
  · rintro rfl
    exact ⟨rfl, [], by simp, rfl⟩

/-- What is above a path by a step more is above its parent. -/
theorem isAbove_succ_iff :
    IsAbove (steps + 1) above path ↔ path.names ≠ [] ∧ IsAbove steps above path.parent := by
  constructor
  · rintro ⟨anchor, below, names, length⟩
    have nonempty : below ≠ [] := by
      rintro rfl
      cases length
    refine ⟨by simp [names, nonempty], anchor, below.dropLast, ?_, by simp [length]⟩
    rw [parent, names, List.dropLast_append_of_ne_nil nonempty]
  · rintro ⟨nameful, anchor, below, names, length⟩
    refine ⟨anchor, below ++ [path.names.getLast nameful], ?_, by simp [length]⟩
    rw [← List.append_assoc, ← names]
    exact (List.dropLast_concat_getLast nameful).symm

namespace IsAbove

theorem length_eq (isAbove : IsAbove steps above path) :
    above.names.length + steps = path.names.length := by
  obtain ⟨-, below, names, rfl⟩ := isAbove
  rw [names, List.length_append]

theorem unique (isAbove : IsAbove steps above path) (also : IsAbove steps other path) :
    above = other := by
  obtain ⟨anchor, below, names, length⟩ := isAbove
  obtain ⟨anchor', below', names', length'⟩ := also
  have same := List.append_inj' (names.symm.trans names') (length.trans length'.symm)
  exact Path.mk.injEq .. ▸ ⟨anchor.trans anchor'.symm, same.1⟩

theorem trans (first : IsAbove steps above between) (second : IsAbove more between path) :
    IsAbove (steps + more) above path := by
  obtain ⟨anchor, below, names, rfl⟩ := first
  obtain ⟨anchor', below', names', rfl⟩ := second
  exact ⟨anchor.trans anchor', below ++ below', by rw [names', names, List.append_assoc],
    List.length_append⟩

theorem isAbsolute (isAbove : IsAbove steps above path) (absolutePath : path.isAbsolute = true) :
    above.isAbsolute = true := by
  simpa [Path.isAbsolute, isAbove.anchor] using absolutePath

theorem names_subset (isAbove : IsAbove steps above path) : above.names ⊆ path.names := by
  obtain ⟨-, below, names, -⟩ := isAbove
  rw [names]
  exact List.subset_append_left _ _

theorem isNormal (isAbove : IsAbove steps above path) (normal : path.IsNormal) :
    above.IsNormal :=
  ⟨fun member => normal.nonempty (isAbove.names_subset member),
    fun name member => normal.single name (isAbove.names_subset member),
    fun member => normal.notDot (isAbove.names_subset member)⟩

end IsAbove

/-- The front of a parent is written first. -/
theorem parent_front_isPrefixOf (absolutePath : path.isAbsolute = true)
    (nameful : path.names ≠ []) : path.parent.front <+: path.front := by
  have absoluteParent : path.parent.isAbsolute = true := absolutePath
  have whole : path.front = path.toString.toList := by
    obtain ⟨anchor, names⟩ := path
    obtain ⟨first, rest, rfl⟩ := List.exists_cons_of_ne_nil nameful
    cases anchor <;> rfl
  have parent : path.parent.front <+: path.parent.toString.toList := by
    rcases toString_eq_front absoluteParent with same | slash
    · exact same ▸ List.prefix_rfl
    · exact slash ▸ List.prefix_append _ _
  obtain ⟨front, text, dot | within⟩ := toString_toList_of_names nameful
  · have slash := startsWith_slash absoluteParent
    rw [dot, String.startsWith_string_iff] at slash
    exact absurd slash (by decide)
  · rw [whole, text]
    exact (parent.trans within).trans (List.prefix_append _ _)

theorem IsAbove.front_isPrefixOf (isAbove : IsAbove steps above path)
    (absolutePath : path.isAbsolute = true) : above.front <+: path.front := by
  induction steps generalizing path with
  | zero => exact isAbove_zero_iff.mp isAbove ▸ List.prefix_rfl
  | succ steps ih =>
      obtain ⟨nameful, isAbove⟩ := isAbove_succ_iff.mp isAbove
      exact (ih isAbove absolutePath).trans (parent_front_isPrefixOf absolutePath nameful)

/-- A name is written shorter in a directory further up. -/
theorem IsAbove.byteLength_child_le {name : String} (isAbove : IsAbove steps above path)
    (absolutePath : path.isAbsolute = true) (plain : IsFileName name) :
    System.byteLength (above.child name).toString ≤
      System.byteLength (path.child name).toString := by
  have written {path : Path} (absolutePath : path.isAbsolute = true) :
      (path.child name).toString = String.ofList path.front ++ ("/" ++ name) := by
    apply String.toList_inj.mp
    rw [toString_child absolutePath plain]
    simp
  obtain ⟨rest, front⟩ := isAbove.front_isPrefixOf absolutePath
  rw [written (isAbove.isAbsolute absolutePath), written absolutePath, ← front,
    String.ofList_append]
  simp only [System.byteLength_append]
  omega

end Path

namespace System

open File.Path (IsAbove)

variable {files : System} {marker : String} {here root path directory : Path}
  {depth steps more : Nat} {result : Except AccessError (Option Path)}

/-! ## Directories with and without the marker -/

/-- Something stands at the marker's name in a directory. -/
def HasMarker (files : System) (marker : String) (directory : Path) : Prop :=
  ∃ node, files.status (directory.child marker).toString = .ok node

/-- Looking for the marker in a directory tells that it is not there. -/
structure LacksMarker (files : System) (marker : String) (directory : Path) : Prop where
  absent : ¬ files.HasMarker marker directory
  short : ¬ files.IsTooLong (directory.child marker)

theorem IsTooLong.not_hasMarker (tooLong : files.IsTooLong (directory.child marker)) :
    ¬ files.HasMarker marker directory := by
  rintro ⟨node, stands⟩
  cases tooLong.symm.trans stands

theorem lacksMarker_iff : files.LacksMarker marker directory ↔
    files.present (directory.child marker) = .ok false := by
  constructor
  · intro lacks
    cases looked : files.present (directory.child marker) with
    | error error => exact absurd (present_eq_error_iff.mp looked).1 lacks.short
    | ok stands =>
        cases stands with
        | true => exact absurd (present_eq_true_iff.mp looked) lacks.absent
        | false => rfl
  · intro looked
    constructor
    · intro marked
      cases looked.symm.trans (present_eq_true_iff.mpr marked)
    · intro tooLong
      cases looked.symm.trans (present_eq_error_iff.mpr ⟨tooLong, rfl⟩)

/-- The marker stands in a directory that is there, under its own name. -/
theorem hasMarker_iff (plain : IsFileName marker) (absolutePath : directory.isAbsolute = true) :
    files.HasMarker marker directory ↔
      IsNameable (directory.child marker).toString ∧ byteLength marker ≤ nameLimit ∧
        ∃ base node, files.locate directory.toString = .ok base ∧
          files.node? base = some .directory ∧ files.node? (marker :: base) = some node := by
  constructor
  · rintro ⟨node, stands⟩
    cases located : files.locate (directory.child marker).toString with
    | error failure => simp [status, located, bind, Except.bind] at stands
    | ok place =>
        obtain ⟨nameable, short, base, atBase, isDirectory, rfl⟩ :=
          (locate_child_eq_ok_iff absolutePath plain).mp located
        rw [status_of_locate located] at stands
        cases found : files.node? (marker :: base) with
        | none => simp [found] at stands
        | some there => exact ⟨nameable, short, base, there, atBase, isDirectory, found⟩
  · rintro ⟨nameable, short, base, node, atBase, isDirectory, found⟩
    have located : files.locate (directory.child marker).toString = .ok (marker :: base) :=
      (locate_child_eq_ok_iff absolutePath plain).mpr
        ⟨nameable, short, base, atBase, isDirectory, rfl⟩
    exact ⟨node, by rw [status_of_locate located, found]⟩

/-- So many directories, from one upwards, lack the marker. -/
def Unmarked (files : System) (marker : String) (steps : Nat) (here : Path) : Prop :=
  ∀ near < steps, ∀ directory, IsAbove near directory here → files.LacksMarker marker directory

theorem unmarked_zero : files.Unmarked marker 0 here :=
  fun _ within => absurd within (Nat.not_lt_zero _)

theorem unmarked_succ_iff : files.Unmarked marker (steps + 1) here ↔
    files.LacksMarker marker here ∧
      (here.names ≠ [] → files.Unmarked marker steps here.parent) := by
  constructor
  · intro unmarked
    refine ⟨unmarked 0 (Nat.succ_pos _) here (Path.isAbove_zero_iff.mpr rfl), ?_⟩
    intro nameful near within directory isAbove
    exact unmarked (near + 1) (Nat.succ_lt_succ within) directory
      (Path.isAbove_succ_iff.mpr ⟨nameful, isAbove⟩)
  · rintro ⟨lacks, unmarked⟩ near within directory isAbove
    cases near with
    | zero => exact Path.isAbove_zero_iff.mp isAbove ▸ lacks
    | succ near =>
        obtain ⟨nameful, isAbove⟩ := Path.isAbove_succ_iff.mp isAbove
        exact unmarked nameful near (Nat.lt_of_succ_lt_succ within) directory isAbove

/-- The first directory, from one upwards, that does not lack the marker. -/
structure Decides (files : System) (marker : String) (here : Path) (steps : Nat)
    (directory : Path) : Prop where
  isAbove : IsAbove steps directory here
  before : files.Unmarked marker steps here
  answers : ¬ files.LacksMarker marker directory

namespace Decides

theorem below (lacks : files.LacksMarker marker here) (nameful : here.names ≠ [])
    (decides : files.Decides marker here.parent steps directory) :
    files.Decides marker here (steps + 1) directory :=
  ⟨Path.isAbove_succ_iff.mpr ⟨nameful, decides.isAbove⟩,
    unmarked_succ_iff.mpr ⟨lacks, fun _ => decides.before⟩, decides.answers⟩

theorem le_of_unmarked (decides : files.Decides marker here steps directory)
    (unmarked : files.Unmarked marker more here) : more ≤ steps := by
  by_contra within
  exact decides.answers (unmarked steps (Nat.not_le.mp within) directory decides.isAbove)

theorem not_unmarked (decides : files.Decides marker here steps directory)
    (within : steps < more) : ¬ files.Unmarked marker more here :=
  fun unmarked => Nat.not_le.mpr within (decides.le_of_unmarked unmarked)

theorem unique (decides : files.Decides marker here steps directory)
    (also : files.Decides marker here more path) : directory = path := by
  have same : steps = more :=
    Nat.le_antisymm (also.le_of_unmarked decides.before) (decides.le_of_unmarked also.before)
  subst same
  exact decides.isAbove.unique also.isAbove

end Decides

/-! ## What a search finds -/

/-- What a search from a directory upwards comes to. -/
inductive Finds (files : System) (marker : String) (depth : Nat) (here : Path) :
    Except AccessError (Option Path) → Prop where
  | nearest {steps : Nat} {root : Path} (decides : files.Decides marker here steps root)
      (within : steps < depth) (marked : files.HasMarker marker root) :
      Finds files marker depth here (.ok (some root))
  | unanswered {steps : Nat} {directory : Path}
      (decides : files.Decides marker here steps directory) (within : steps < depth)
      (tooLong : files.IsTooLong (directory.child marker)) :
      Finds files marker depth here
        (.error ⟨.nameTooLong, (directory.child marker).toString⟩)
  | nowhere (unmarked : files.Unmarked marker depth here) :
      Finds files marker depth here (.ok none)

/-- A search from the parent is a search from a directory that lacks the marker. -/
theorem Finds.below (lacks : files.LacksMarker marker here) (nameful : here.names ≠ [])
    (finds : files.Finds marker depth here.parent result) :
    files.Finds marker (depth + 1) here result := by
  cases finds with
  | nearest decides within marked =>
      exact .nearest (decides.below lacks nameful) (Nat.succ_lt_succ within) marked
  | unanswered decides within tooLong =>
      exact .unanswered (decides.below lacks nameful) (Nat.succ_lt_succ within) tooLong
  | nowhere unmarked => exact .nowhere (unmarked_succ_iff.mpr ⟨lacks, fun _ => unmarked⟩)

theorem finds_searchUp (files : System) (marker : String) (depth : Nat) (here : Path) :
    files.Finds marker depth here (files.searchUp marker depth here) := by
  induction depth generalizing here with
  | zero => exact .nowhere unmarked_zero
  | succ depth ih =>
      have first (answers : ¬ files.LacksMarker marker here) : files.Decides marker here 0 here :=
        ⟨Path.isAbove_zero_iff.mpr rfl, unmarked_zero, answers⟩
      rw [searchUp]
      cases looked : files.present (here.child marker) with
      | error error =>
          obtain ⟨tooLong, rfl⟩ := present_eq_error_iff.mp looked
          exact .unanswered (first fun lacks => lacks.short tooLong) (Nat.succ_pos _) tooLong
      | ok stands =>
          cases stands with
          | true =>
              have marked : files.HasMarker marker here := present_eq_true_iff.mp looked
              exact .nearest (first fun lacks => lacks.absent marked) (Nat.succ_pos _) marked
          | false =>
              have lacks := lacksMarker_iff.mpr looked
              simp only [bind, Except.bind, Bool.false_eq_true, if_false,
                Path.parent_eq_self_iff]
              split
              · rename_i top
                exact .nowhere (unmarked_succ_iff.mpr ⟨lacks, fun nameful => absurd top nameful⟩)
              · rename_i nameful
                exact (ih here.parent).below lacks nameful

theorem Finds.unique {other : Except AccessError (Option Path)}
    (finds : files.Finds marker depth here result) (also : files.Finds marker depth here other) :
    result = other := by
  cases finds with
  | nearest decides within marked =>
      cases also with
      | nearest decides' _ _ => rw [decides.unique decides']
      | unanswered decides' _ tooLong =>
          exact absurd (decides.unique decides' ▸ marked) tooLong.not_hasMarker
      | nowhere unmarked => exact absurd unmarked (decides.not_unmarked within)
  | unanswered decides within tooLong =>
      cases also with
      | nearest decides' _ marked =>
          exact absurd (decides'.unique decides ▸ marked) tooLong.not_hasMarker
      | unanswered decides' _ _ => rw [decides.unique decides']
      | nowhere unmarked => exact absurd unmarked (decides.not_unmarked within)
  | nowhere unmarked =>
      cases also with
      | nearest decides within _ => exact absurd unmarked (decides.not_unmarked within)
      | unanswered decides within _ => exact absurd unmarked (decides.not_unmarked within)
      | nowhere _ => rfl

theorem searchUp_eq_iff :
    files.searchUp marker depth here = result ↔ files.Finds marker depth here result :=
  ⟨fun searched => searched ▸ finds_searchUp files marker depth here,
    fun finds => (finds_searchUp files marker depth here).unique finds⟩

theorem searchUp_eq_ok_some_iff :
    files.searchUp marker depth here = .ok (some root) ↔
      ∃ steps < depth, IsAbove steps root here ∧ files.HasMarker marker root ∧
        files.Unmarked marker steps here := by
  rw [searchUp_eq_iff]
  constructor
  · intro finds
    cases finds with
    | nearest decides within marked => exact ⟨_, within, decides.isAbove, marked, decides.before⟩
  · rintro ⟨steps, within, isAbove, marked, before⟩
    exact .nearest ⟨isAbove, before, fun lacks => lacks.absent marked⟩ within marked

theorem searchUp_eq_ok_none_iff :
    files.searchUp marker depth here = .ok none ↔ files.Unmarked marker depth here := by
  rw [searchUp_eq_iff]
  constructor
  · intro finds
    cases finds with
    | nowhere unmarked => exact unmarked
  · exact .nowhere

theorem searchUp_eq_error_iff {error : AccessError} :
    files.searchUp marker depth here = .error error ↔
      ∃ steps < depth, ∃ directory, IsAbove steps directory here ∧
        files.IsTooLong (directory.child marker) ∧
        error = ⟨.nameTooLong, (directory.child marker).toString⟩ ∧
        files.Unmarked marker steps here := by
  rw [searchUp_eq_iff]
  constructor
  · intro finds
    cases finds with
    | unanswered decides within tooLong =>
        exact ⟨_, within, _, decides.isAbove, tooLong, rfl, decides.before⟩
  · rintro ⟨steps, within, directory, isAbove, tooLong, rfl, before⟩
    exact .unanswered ⟨isAbove, before, fun lacks => lacks.short tooLong⟩ within tooLong

theorem searchUp_of_le (found : files.searchUp marker depth here = .ok (some root))
    (le : depth ≤ more) : files.searchUp marker more here = .ok (some root) := by
  rw [searchUp_eq_ok_some_iff] at found ⊢
  obtain ⟨steps, within, found⟩ := found
  exact ⟨steps, Nat.lt_of_lt_of_le within le, found⟩

/-- The directories from one in between upwards are among those from the start upwards. -/
theorem searchUp_of_isAbove {between : Path}
    (found : files.searchUp marker depth here = .ok (some root))
    (below : IsAbove steps root between) (above : IsAbove more between here) :
    files.searchUp marker depth between = .ok (some root) := by
  rw [searchUp_eq_ok_some_iff] at found ⊢
  obtain ⟨far, within, isAbove, marked, unmarked⟩ := found
  have apart : far = steps + more := by
    have length := isAbove.length_eq
    have length' := (below.trans above).length_eq
    omega
  refine ⟨steps, by omega, below, marked, ?_⟩
  intro near within directory isAbove
  exact unmarked (near + more) (by omega) directory (isAbove.trans above)

/-! ## Paths that are too long -/

/-- A walk along names comes to a directory in which it would take a name that is too
long. -/
def MeetsLongName (files : System) (names : List String) : Prop :=
  ∃ before name after base, names = before ++ name :: after ∧
    files.walk [] before = .ok base ∧ files.node? base = some .directory ∧
    nameLimit < byteLength name

/-- The path to a marker is too long as a whole or in a name that the walk comes to. -/
theorem isTooLong_child_iff (plain : IsFileName marker) (absolutePath : path.isAbsolute = true)
    (normal : path.IsNormal) :
    files.IsTooLong (path.child marker) ↔ obstacle? (path.child marker).toString = none ∧
      (pathLimit ≤ byteLength (path.child marker).toString ∨
        files.MeetsLongName (path.names ++ [marker])) := by
  have slash := Path.startsWith_slash (Path.child_isAbsolute absolutePath plain)
  have nonempty : (path.child marker).toString ≠ "" := by
    intro empty
    simp [empty] at slash
  rw [isTooLong_iff, locate_eq_nameTooLong_iff, origin, if_pos slash,
    walkNames_child absolutePath plain, slashed_toString normal (.inl absolutePath),
    walk_eq_nameTooLong_iff, ← MeetsLongName]
  simp [nonempty]

/-- Neither the path to a marker below a path nor a name in it is too long. -/
structure HasRoom (marker : String) (path : Path) : Prop where
  whole : byteLength (path.child marker).toString < pathLimit
  marker : byteLength marker ≤ nameLimit
  names : ∀ name ∈ path.names, byteLength name ≤ nameLimit

namespace HasRoom

theorem of_isAbove (room : HasRoom marker path) (plain : IsFileName marker)
    (absolutePath : path.isAbsolute = true) (isAbove : IsAbove steps directory path) :
    HasRoom marker directory :=
  ⟨Nat.lt_of_le_of_lt (isAbove.byteLength_child_le absolutePath plain) room.whole,
    room.marker, fun name member => room.names name (isAbove.names_subset member)⟩

theorem not_isTooLong (room : HasRoom marker path) (plain : IsFileName marker)
    (absolutePath : path.isAbsolute = true) (normal : path.IsNormal) :
    ¬ files.IsTooLong (path.child marker) := by
  rw [isTooLong_child_iff plain absolutePath normal]
  rintro ⟨-, whole | ⟨before, name, after, -, names, -, -, long⟩⟩
  · exact Nat.not_lt.mpr whole room.whole
  · have member : name ∈ path.names ++ [marker] := by simp [names]
    rw [List.mem_append, List.mem_singleton] at member
    rcases member with member | rfl
    · exact Nat.not_lt.mpr (room.names name member) long
    · exact Nat.not_lt.mpr room.marker long

/-- In a directory that is there, only the marker and the whole path can be too long. -/
theorem of_directory (normal : path.IsNormal)
    (there : files.status path.toString = .ok .directory)
    (whole : byteLength (path.child marker).toString < pathLimit)
    (short : byteLength marker ≤ nameLimit) : HasRoom marker path := by
  obtain ⟨-, base, walked, -⟩ := (status_toString_eq_directory_iff normal).mp there
  exact ⟨whole, short, short_of_walk walked⟩

/-- Where there is room, a directory lacks the marker if the marker is not there. -/
theorem unmarked_iff (room : HasRoom marker here) (plain : IsFileName marker)
    (absoluteHere : here.isAbsolute = true) (normal : here.IsNormal) :
    files.Unmarked marker steps here ↔
      ∀ near < steps, ∀ directory, IsAbove near directory here →
        ¬ files.HasMarker marker directory := by
  constructor
  · intro unmarked near within directory isAbove
    exact (unmarked near within directory isAbove).absent
  · intro absent near within directory isAbove
    have room := room.of_isAbove plain absoluteHere isAbove
    exact ⟨absent near within directory isAbove,
      room.not_isTooLong plain (isAbove.isAbsolute absoluteHere) (isAbove.isNormal normal)⟩

/-- Where there is room, a search does not fail. -/
theorem exists_searchUp_eq_ok (room : HasRoom marker here) (plain : IsFileName marker)
    (absoluteHere : here.isAbsolute = true) (normal : here.IsNormal) :
    ∃ found, files.searchUp marker depth here = .ok found := by
  cases searched : files.searchUp marker depth here with
  | ok found => exact ⟨found, rfl⟩
  | error error =>
      obtain ⟨steps, -, directory, isAbove, tooLong, -⟩ := searchUp_eq_error_iff.mp searched
      exact absurd tooLong ((room.of_isAbove plain absoluteHere isAbove).not_isTooLong plain
        (isAbove.isAbsolute absoluteHere) (isAbove.isNormal normal))

end HasRoom

/-! ## The nearest directory -/

/-- The nearest directory with the marker, among so many from one upwards. -/
def IsNearest (files : System) (marker : String) (depth : Int) (here root : Path) : Prop :=
  ∃ steps : Nat, (steps : Int) < depth ∧ IsAbove steps root here ∧ files.HasMarker marker root ∧
    ∀ near < steps, ∀ directory, IsAbove near directory here →
      ¬ files.HasMarker marker directory

/-- None of so many directories, from one upwards, has the marker. -/
def IsMissing (files : System) (marker : String) (depth : Int) (here : Path) : Prop :=
  ∀ steps : Nat, (steps : Int) < depth → ∀ directory, IsAbove steps directory here →
    ¬ files.HasMarker marker directory

/-- What a search for a marker comes to, where `home` is the start as an absolute path. A
bound below zero looks at no directory, as the bound zero does. -/
structure FindsNearest (files : System) (marker : String) (start home : Path) (depth : Int) :
    Prop where
  /-- A root is found exactly if the marker is there and the directories before lack it. -/
  found_iff (root : Path) :
    files.findRoot marker start depth.toNat = .ok (some root) ↔
      ∃ steps : Nat, (steps : Int) < depth ∧ IsAbove steps root home ∧
        files.HasMarker marker root ∧ files.Unmarked marker steps home
  none_iff : files.findRoot marker start depth.toNat = .ok none ↔
    ∀ steps : Nat, (steps : Int) < depth → ∀ directory, IsAbove steps directory home →
      files.LacksMarker marker directory
  /-- The search fails exactly if a path is too long before the marker is found. -/
  error_iff (error : AccessError) :
    files.findRoot marker start depth.toNat = .error error ↔
      ∃ steps : Nat, (steps : Int) < depth ∧ ∃ directory, IsAbove steps directory home ∧
        files.IsTooLong (directory.child marker) ∧
        error = ⟨.nameTooLong, (directory.child marker).toString⟩ ∧
        files.Unmarked marker steps home
  /-- The path to the marker is too long as a whole, or in a name that is come to. -/
  tooLong_iff (normal : home.IsNormal) (steps : Nat) (directory : Path)
    (isAbove : IsAbove steps directory home) :
    files.IsTooLong (directory.child marker) ↔
      obstacle? (directory.child marker).toString = none ∧
        (pathLimit ≤ byteLength (directory.child marker).toString ∨
          files.MeetsLongName (directory.names ++ [marker]))
  /-- What is found is nearest, and what is not found is missing. -/
  nearest (root : Path) (found : files.findRoot marker start depth.toNat = .ok (some root)) :
    files.IsNearest marker depth home root
  missing (unfound : files.findRoot marker start depth.toNat = .ok none) :
    files.IsMissing marker depth home
  /-- Where there is room for the marker, the search does not fail, and what is nearest is
  found. -/
  answered (normal : home.IsNormal) (room : HasRoom marker home) :
    ∃ found, files.findRoot marker start depth.toNat = .ok found
  found_of_nearest (normal : home.IsNormal) (room : HasRoom marker home) (root : Path)
    (isNearest : files.IsNearest marker depth home root) :
    files.findRoot marker start depth.toNat = .ok (some root)
  none_of_missing (normal : home.IsNormal) (room : HasRoom marker home)
    (isMissing : files.IsMissing marker depth home) :
    files.findRoot marker start depth.toNat = .ok none
  /-- There is room from a directory that is there, unless the marker or the whole path is
  too long. -/
  room (normal : home.IsNormal) (there : files.status home.toString = .ok .directory)
    (whole : byteLength (home.child marker).toString < pathLimit)
    (short : byteLength marker ≤ nameLimit) : HasRoom marker home
  /-- The root is a directory, and the marker stands in it. -/
  stands (root : Path) (found : files.findRoot marker start depth.toNat = .ok (some root)) :
    ∃ base node, files.locate root.toString = .ok base ∧
      files.node? base = some .directory ∧ files.node? (marker :: base) = some node
  /-- A search that may go further finds the same root. -/
  deeper (root : Path) (found : files.findRoot marker start depth.toNat = .ok (some root))
    (further : Int) (le : depth ≤ further) :
    files.findRoot marker start further.toNat = .ok (some root)
  /-- A search from between the start and the root finds the same root. -/
  nearer (root : Path) (found : files.findRoot marker start depth.toNat = .ok (some root))
    (steps more : Nat) (between : Path) (below : IsAbove steps root between)
    (above : IsAbove more between home) :
    files.findRoot marker between depth.toNat = .ok (some root)

theorem findsNearest (files : System) {marker : String} (plain : IsFileName marker)
    (start : Path) (depth : Int) :
    files.FindsNearest marker start (Path.absolute files.workingPath start) depth := by
  have absoluteHome := Path.absolute_isAbsolute files.workingPath_isAbsolute start
  constructor
  case found_iff =>
    intro root
    simp only [findRoot, searchUp_eq_ok_some_iff, Int.lt_toNat]
  case none_iff =>
    simp only [findRoot, searchUp_eq_ok_none_iff, Unmarked, Int.lt_toNat]
  case error_iff =>
    intro error
    simp only [findRoot, searchUp_eq_error_iff, Int.lt_toNat]
  case tooLong_iff =>
    intro normal steps directory isAbove
    exact isTooLong_child_iff plain (isAbove.isAbsolute absoluteHome) (isAbove.isNormal normal)
  case nearest =>
    intro root found
    obtain ⟨steps, within, isAbove, marked, unmarked⟩ := searchUp_eq_ok_some_iff.mp found
    exact ⟨steps, Int.lt_toNat.mp within, isAbove, marked,
      fun near within directory isAbove => (unmarked near within directory isAbove).absent⟩
  case missing =>
    intro unfound steps within directory isAbove
    exact (searchUp_eq_ok_none_iff.mp unfound steps (Int.lt_toNat.mpr within) directory
      isAbove).absent
  case answered =>
    intro normal room
    exact room.exists_searchUp_eq_ok plain absoluteHome normal
  case found_of_nearest =>
    rintro normal room root ⟨steps, within, isAbove, marked, absent⟩
    exact searchUp_eq_ok_some_iff.mpr ⟨steps, Int.lt_toNat.mpr within, isAbove, marked,
      (room.unmarked_iff plain absoluteHome normal).mpr absent⟩
  case none_of_missing =>
    intro normal room isMissing
    exact searchUp_eq_ok_none_iff.mpr ((room.unmarked_iff plain absoluteHome normal).mpr
      fun steps within => isMissing steps (Int.lt_toNat.mp within))
  case room => exact HasRoom.of_directory
  case stands =>
    intro root found
    have marked := (searchUp_eq_some found).2
    exact ((hasMarker_iff plain (isAbsolute_of_findRoot found)).mp marked).2.2
  case deeper =>
    intro root found further le
    exact searchUp_of_le found (Int.toNat_le_toNat le)
  case nearer =>
    intro root found steps more between below above
    rw [findRoot, Path.absolute_of_isAbsolute (above.isAbsolute absoluteHome)]
    exact searchUp_of_isAbove found below above

/-- A project two directories above the place where a search begins. -/
def nestedProject : System where
  nodes := [(["work"], .directory), (["package.json", "work"], .file ByteArray.empty false),
    (["src", "work"], .directory)]
  workingDirectory := ["src", "work"]

theorem findsNearest_nestedProject :
    IsFileName "package.json" ∧
      nestedProject.findRoot "package.json" ⟨.relative, ["deep"]⟩ 3 =
        .ok (some ⟨.root, ["work"]⟩) ∧
      nestedProject.findRoot "package.json" ⟨.relative, ["deep"]⟩ 2 = .ok none ∧
      HasRoom "package.json" ⟨.root, ["work", "src", "deep"]⟩ ∧
      nestedProject.FindsNearest "package.json" ⟨.relative, ["deep"]⟩
        ⟨.root, ["work", "src", "deep"]⟩ 3 := by
  refine ⟨by decide, ?_, ?_, ⟨by decide, by decide, by decide⟩,
    findsNearest nestedProject (by decide) ⟨.relative, ["deep"]⟩ 3⟩
  · with_unfolding_all rfl
  · with_unfolding_all rfl

/-! ## Starts that cannot be looked up -/

/-- A name of so many letters. -/
def letters (length : Nat) : String :=
  String.ofList (List.replicate length 'a')

theorem toList_letters (length : Nat) : (letters length).toList = List.replicate length 'a' :=
  String.toList_ofList

theorem byteLength_letters (length : Nat) : byteLength (letters length) = length := by
  have single : byteCount 'a' = 1 := by decide
  rw [letters, byteLength_replicate, single, Nat.mul_one]

theorem isFileName_letters {length : Nat} (nonempty : length ≠ 0) :
    IsFileName (letters length) := by
  have free (c : Char) (other : c ≠ 'a') : c ∉ (letters length).toList := by
    simp [toList_letters, List.mem_replicate, other]
  constructor
  case nonempty =>
    intro empty
    have size := byteLength_letters length
    rw [empty] at size
    exact nonempty size.symm
  case single => exact free '/' (by decide)
  case notDot =>
    intro dot
    exact free '.' (by decide) (dot ▸ by decide)
  case notDots =>
    intro dots
    exact free '.' (by decide) (dots ▸ by decide)

/-- Nothing can be looked up below a name of too many letters, whatever is there. -/
theorem isTooLong_letters (files : System) {length : Nat} (long : nameLimit < length) :
    files.IsTooLong (Path.child ⟨.root, [letters length]⟩ "package.json") := by
  have plain : IsFileName "package.json" := by decide
  have absolutePath : (Path.mk .root [letters length]).isAbsolute = true := rfl
  have free : obstacle? (Path.child ⟨.root, [letters length]⟩ "package.json").toString = none := by
    have front : (Path.mk .root [letters length]).front =
        (Path.mk .root [letters length]).toString.toList := rfl
    have bytes : ('a' :: '/' :: "package.json".toList).all hasBytes = true := by decide
    have null : '\x00' ∉ 'a' :: '/' :: "package.json".toList := by decide
    have chars : (Path.child ⟨.root, [letters length]⟩ "package.json").toString.toList =
        '/' :: List.replicate length 'a' ++ '/' :: "package.json".toList := by
      rw [Path.toString_child absolutePath plain, front, Path.toString_absolute absolutePath]
      simp only [List.map_cons, List.map_nil, List.intercalate_singleton, toList_letters]
      rfl
    have within : (Path.child ⟨.root, [letters length]⟩ "package.json").toString.toList ⊆
        'a' :: '/' :: "package.json".toList := by
      rw [chars]
      intro c member
      simp only [List.mem_append, List.mem_cons, List.mem_replicate] at member ⊢
      grind
    exact obstacle?_eq_none_iff.mpr ⟨fun c member => List.all_eq_true.mp bytes c (within member),
      fun member => null (within member)⟩
  refine (isTooLong_child_iff plain absolutePath
    ((isFileName_letters (by omega)).isNormal .root)).mpr ⟨free, .inr ?_⟩
  exact ⟨[], letters length, ["package.json"], [], rfl, rfl, rfl,
    (byteLength_letters length).symm ▸ long⟩

/-- A project in the root of the file system. -/
def topProject : System where
  nodes := [(["package.json"], .file ByteArray.empty false)]
  workingDirectory := []

/-- The nearest directory is not found from a path that is too long to be looked up. -/
theorem not_forall_found_of_nearest :
    ¬ ∀ (files : System) marker start (depth : Int) root, IsFileName marker →
      start.IsNormal → ".." ∉ start.names →
      (files.findRoot marker start depth.toNat = .ok (some root) ↔
        files.IsNearest marker depth (Path.absolute files.workingPath start) root) := by
  intro nearest
  have plain : IsFileName (letters 256) := isFileName_letters (by decide)
  have tooLong : topProject.IsTooLong (Path.child ⟨.root, [letters 256]⟩ "package.json") :=
    isTooLong_letters topProject (by decide)
  have marked : topProject.HasMarker "package.json" ⟨.root, []⟩ :=
    ⟨.file ByteArray.empty false, by with_unfolding_all rfl⟩
  have isNearest : topProject.IsNearest "package.json" 32 ⟨.root, [letters 256]⟩ ⟨.root, []⟩ := by
    refine ⟨1, by decide, ⟨rfl, [letters 256], rfl, rfl⟩, marked, ?_⟩
    intro near within directory isAbove
    rw [Nat.lt_one_iff.mp within, Path.isAbove_zero_iff] at isAbove
    exact isAbove ▸ tooLong.not_hasMarker
  have found := (nearest topProject "package.json" ⟨.relative, [letters 256]⟩ 32 ⟨.root, []⟩
    (by decide) (plain.isNormal .relative) (by simpa using plain.notDots.symm)).mpr isNearest
  have failed : topProject.findRoot "package.json" ⟨.relative, [letters 256]⟩ 32 = _ :=
    searchUp_eq_error_iff.mpr ⟨0, by decide, ⟨.root, [letters 256]⟩,
      Path.isAbove_zero_iff.mpr rfl, tooLong, rfl, unmarked_zero⟩
  cases found.symm.trans failed

end System

end GuardedInstall.File
