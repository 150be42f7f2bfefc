import GuardedInstall.File.System

/-!
# Snapshots of single files

A snapshot holds what a file contained, or that it was absent. Restoring puts
the content back or removes the file; where that fails the file system stays
as it is. A scope restores its snapshots however its body ends.
-/

namespace GuardedInstall.File

/-- The content that a path had; `none` when nothing stood there. -/
structure Snapshot where
  path : Path
  prior : Option Bytes
  deriving DecidableEq

namespace Snapshot

/-- Record what a path holds. Only absence is recorded as absence. -/
def capture (files : System) (path : Path) : Except AccessError Snapshot :=
  match files.read path with
  | .ok content => .ok ⟨path, some content⟩
  | .error error =>
      if error.failure = .notFound then .ok ⟨path, none⟩ else .error error

/-- Put a path back into the recorded state, as far as the file system allows. -/
def restore (snapshot : Snapshot) (files : System) : System :=
  let result := match snapshot.prior with
    | some content => files.write snapshot.path content
    | none => files.remove snapshot.path
  match result with
  | .ok restored => restored
  | .error _ => files

/-- Restore snapshots one after the other. -/
def restoreAll (snapshots : List Snapshot) (files : System) : System :=
  snapshots.foldl (fun files snapshot => snapshot.restore files) files

/-- Run a body that changes the file system, and restore the snapshots after
it, whatever its result. -/
def within {α : Type} (snapshots : List Snapshot) (body : System → α × System)
    (files : System) : α × System :=
  let (result, changed) := body files
  (result, restoreAll snapshots changed)

end Snapshot

end GuardedInstall.File
