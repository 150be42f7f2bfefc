import GuardedInstall.File.Lookup
import Mathlib.Data.List.Find

/-!
# Commands and the files that they mean

A command means the file that is found for it, or itself where none is found. A text that
starts with a slash is walked from the root of the file system, so that a search path of
absolute directories leads to the same file from every working directory. A relative
directory of a search path is another one from elsewhere, and so may be what is found there.
-/

namespace GuardedInstall.File.System

/-- The same files, seen from another working directory. -/
def seenFrom (files : System) (workingDirectory : Place) : System :=
  { files with workingDirectory }

@[simp]
theorem node?_seenFrom (files : System) (workingDirectory place : Place) :
    (files.seenFrom workingDirectory).node? place = files.node? place :=
  rfl

theorem walk_seenFrom (files : System) (workingDirectory here : Place) (names : List String) :
    (files.seenFrom workingDirectory).walk here names = files.walk here names := by
  induction names generalizing here with
  | nil => rw [walk, walk]
  | cons name rest ih => simp only [walk, node?_seenFrom, ih]

variable {text searchPath : String}

theorem isExecutable_seenFrom (rooted : text.startsWith "/" = true) (files : System)
    (workingDirectory : Place) :
    (files.seenFrom workingDirectory).isExecutable text = files.isExecutable text := by
  simp only [isExecutable, status, locate, rooted, if_true, walk_seenFrom, node?_seenFrom]

theorem startsWith_commandIn {directory : String} (rooted : directory.startsWith "/" = true)
    (command : String) : (commandIn directory command).startsWith "/" = true := by
  rw [String.startsWith_string_iff] at rooted ⊢
  rw [commandIn]
  split
  · rw [String.toList_append]
    exact rooted.trans (List.prefix_append _ _)
  · rw [String.append_assoc, String.toList_append]
    exact rooted.trans (List.prefix_append _ _)

/-- The file that a command means. -/
def meant (files : System) (searchPath command : String) : String :=
  (files.which? searchPath command).getD command

/-- A command with a slash means itself. -/
theorem meant_of_slash {command : String} (slash : command.toList.contains '/' = true)
    (files : System) (searchPath : String) : files.meant searchPath command = command := by
  rw [meant, which?, if_pos slash]
  split
  · rfl
  · rfl

/-- All directories of a search path are absolute. The empty search path has none. -/
def IsRooted (searchPath : String) : Prop :=
  searchPath = "" ∨ ∀ directory ∈ searchDirectories searchPath, directory.startsWith "/" = true

/-- A command means the same file from elsewhere if this is the same directory, or if the
directories of the search path are absolute. -/
theorem meant_seenFrom {files : System} {workingDirectory : Place}
    (position : files.workingDirectory = workingDirectory ∨ IsRooted searchPath)
    (command : String) :
    (files.seenFrom workingDirectory).meant searchPath command =
      files.meant searchPath command := by
  rcases position with rfl | rooted
  · rfl
  by_cases slash : command.toList.contains '/' = true
  · rw [meant_of_slash slash, meant_of_slash slash]
  · have found : (files.seenFrom workingDirectory).which? searchPath command =
        files.which? searchPath command := by
      rw [which?, which?, if_neg slash, if_neg slash]
      rcases rooted with empty | rooted
      · rw [if_pos empty, if_pos empty]
      · congr 1
        apply List.find?_congr
        intro file member
        obtain ⟨directory, listed, rfl⟩ := List.mem_map.mp member
        exact isExecutable_seenFrom (startsWith_commandIn (rooted directory listed) command)
          files workingDirectory
    rw [meant, found, meant]

/-- The file that a command names ends with the command. -/
theorem exists_of_which? {files : System} {command file : String}
    (found : files.which? searchPath command = some file) : ∃ front, file = front ++ command := by
  rw [which?] at found
  split at found
  · split at found
    · cases found
      exact ⟨"", by simp⟩
    · cases found
  · split at found
    · cases found
    · obtain ⟨directory, -, rfl⟩ := List.mem_map.mp (List.mem_of_find?_eq_some found)
      rw [commandIn]
      split
      · exact ⟨directory, rfl⟩
      · exact ⟨directory ++ "/", rfl⟩

end GuardedInstall.File.System
