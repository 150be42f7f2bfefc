import GuardedInstall.File.Search
import GuardedInstall.Proofs.File.Restore

/-!
# What a search upwards finds

A search begins at an absolute directory and goes from parent to parent, so what
it finds is an absolute directory in which the marker stands.
-/

namespace GuardedInstall.File

theorem Path.absolute_isAbsolute {base : Path} (absoluteBase : base.isAbsolute = true)
    (path : Path) : (absolute base path).isAbsolute = true := by
  obtain ⟨anchor, names⟩ := path
  cases anchor with
  | relative => exact absoluteBase
  | root => rfl
  | doubleRoot => rfl

namespace System

variable {files : System} {marker : String} {root : Path}

theorem workingPath_isAbsolute (files : System) : files.workingPath.isAbsolute = true :=
  rfl

theorem present_eq_true_iff {path : Path} :
    files.present path = .ok true ↔ ∃ node, files.status path.toString = .ok node := by
  unfold present
  split
  · rename_i node found
    exact ⟨fun _ => ⟨node, found⟩, fun _ => rfl⟩
  · rename_i failed
    simp [failed]
  · rename_i failure failed
    simp [failed]

/-- A path that is too long, as a whole or in a name, to be looked at. -/
def IsTooLong (files : System) (path : Path) : Prop :=
  files.status path.toString = .error .nameTooLong

theorem isTooLong_iff {path : Path} :
    files.IsTooLong path ↔ files.locate path.toString = .error .nameTooLong := by
  rw [IsTooLong]
  cases located : files.locate path.toString with
  | error failure => simp [status, located, bind, Except.bind]
  | ok place =>
      rw [status_of_locate located]
      cases files.node? place <;> simp

theorem present_eq_error_iff {path : Path} {error : AccessError} :
    files.present path = .error error ↔
      files.IsTooLong path ∧ error = ⟨.nameTooLong, path.toString⟩ := by
  unfold present IsTooLong
  cases found : files.status path.toString with
  | ok node => simp
  | error failure => cases failure <;> simp [eq_comm]

/-- What a search finds keeps the start's anchor and holds the marker. -/
theorem searchUp_eq_some {depth : Nat} {here : Path}
    (found : files.searchUp marker depth here = .ok (some root)) :
    root.anchor = here.anchor ∧ ∃ node, files.status (root.child marker).toString = .ok node := by
  induction depth generalizing here with
  | zero => simp [searchUp] at found
  | succ depth ih =>
      simp only [searchUp] at found
      cases looked : files.present (here.child marker) with
      | error error => simp [looked, bind, Except.bind] at found
      | ok stands =>
          simp only [looked, bind, Except.bind] at found
          cases stands with
          | true =>
              cases found
              exact ⟨rfl, present_eq_true_iff.mp looked⟩
          | false =>
              by_cases top : here.parent = here
              · simp [top, pure, Except.pure] at found
              · simp only [Bool.false_eq_true, if_false, top] at found
                have above := ih found
                exact ⟨above.1.trans (Path.parent_anchor here), above.2⟩

theorem isAbsolute_of_findRoot {start : Path} {depth : Nat}
    (found : files.findRoot marker start depth = .ok (some root)) :
    root.isAbsolute = true := by
  have anchor := (searchUp_eq_some found).1
  have absoluteStart := Path.absolute_isAbsolute files.workingPath_isAbsolute start
  simpa [Path.isAbsolute, anchor] using absoluteStart

/-- The root that is found is a directory, and the marker stands in it. -/
theorem exists_locate_of_findRoot {start : Path} {depth : Nat} (plain : IsFileName marker)
    (found : files.findRoot marker start depth = .ok (some root)) :
    ∃ home, files.locate root.toString = .ok home ∧
      files.locate (root.child marker).toString = .ok (marker :: home) := by
  obtain ⟨node, stands⟩ := (searchUp_eq_some found).2
  have absoluteRoot := isAbsolute_of_findRoot found
  cases located : files.locate (root.child marker).toString with
  | error failure => simp [status, located, bind, Except.bind] at stands
  | ok place =>
      obtain ⟨-, -, home, atHome, -, rfl⟩ :=
        (locate_child_eq_ok_iff absoluteRoot plain).mp located
      exact ⟨home, atHome, rfl⟩

end System

end GuardedInstall.File
