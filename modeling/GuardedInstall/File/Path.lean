import GuardedInstall.Text.Blank
import GuardedInstall.Text.Pieces

/-!
# Paths

A path is an anchor and the names below it. Reading a path drops empty
components and single dots and keeps double dots, so a path has one written
form. Exactly two leading slashes are an anchor of their own. Nothing here
looks at a file system: the parent of a path is the path without its last
name.
-/

namespace GuardedInstall.File

/-- Where a path starts. -/
inductive Anchor where
  | relative
  | root
  | doubleRoot
  deriving DecidableEq, Repr

/-- A path in normal form. -/
structure Path where
  anchor : Anchor
  names : List String
  deriving DecidableEq, Repr

namespace Path

/-- The names among the pieces of a path. -/
def namesOf (pieces : List (List Char)) : List String :=
  (pieces.filter fun piece => piece ≠ [] ∧ piece ≠ ['.']).map String.ofList

/-- The anchor that leading slashes write. -/
def anchorOf : List Char → Anchor
  | '/' :: '/' :: '/' :: _ => .root
  | '/' :: '/' :: _ => .doubleRoot
  | '/' :: _ => .root
  | _ => .relative

/-- Read a path. -/
def ofString (text : String) : Path :=
  ⟨anchorOf text.toList, namesOf (Text.pieces '/' text.toList)⟩

/-- The written form of an anchor. -/
def anchorText : Anchor → String
  | .relative => ""
  | .root => "/"
  | .doubleRoot => "//"

/-- The written form of a path. The relative path without names is a dot. -/
def toString (path : Path) : String :=
  match path.anchor, path.names with
  | .relative, [] => "."
  | anchor, names => anchorText anchor ++ "/".intercalate names

instance : ToString Path := ⟨toString⟩

/-- Whether a path is independent of the working directory. -/
def isAbsolute (path : Path) : Bool :=
  path.anchor != .relative

/-- The path reached from another one. An absolute path is reached from
anywhere. -/
def join (base path : Path) : Path :=
  match path.anchor with
  | .relative => ⟨base.anchor, base.names ++ path.names⟩
  | _ => path

/-- The path of a name below a directory, read as a path. -/
def child (base : Path) (name : String) : Path :=
  base.join (ofString name)

/-- The path without its last name. -/
def parent (path : Path) : Path :=
  ⟨path.anchor, path.names.dropLast⟩

/-- The path seen from the file system root, given the working directory. -/
def absolute (workingDirectory path : Path) : Path :=
  workingDirectory.join path

/-- The last name of a path. -/
def name (path : Path) : String :=
  path.names.getLastD ""

/-- The ending of the last name from its last dot on. A dot at either end of
the name begins no ending. -/
def suffix (path : Path) : String :=
  let name := path.name.toList
  let tail := (name.reverse.takeWhile (· != '.')).reverse
  if tail.length + 1 < name.length ∧ tail ≠ [] then String.ofList ('.' :: tail) else ""

/-- Remove double dots together with the name before them. -/
def collapse : List String → List String → List String
  | before, [] => before.reverse
  | before, name :: rest =>
      if name = ".." then collapse before.tail rest else collapse (name :: before) rest

/-- The absolute path without double dots. -/
def resolve (workingDirectory path : Path) : Path :=
  ⟨.root, collapse [] (absolute workingDirectory path).names⟩

@[simp]
theorem parent_anchor (path : Path) : path.parent.anchor = path.anchor :=
  rfl

theorem absolute_of_isAbsolute {workingDirectory path : Path}
    (absolutePath : path.isAbsolute = true) : absolute workingDirectory path = path := by
  obtain ⟨anchor, names⟩ := path
  cases anchor <;> simp_all [absolute, join, isAbsolute]

end Path

end GuardedInstall.File
