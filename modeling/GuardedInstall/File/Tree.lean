import GuardedInstall.File.System

/-!
# Trees of files

Whole changes of a file system: files and directories put in place together
with the directories above them, directories taken away with all they hold, and
the listing of everything below a directory.
-/

namespace GuardedInstall.File

/-- What a change leaves at a path. -/
inductive Content where
  | bytes (content : Bytes)
  | program (executable : Bool)
  | directory
  | absent
  deriving DecidableEq

namespace System

/-- The place of a path, without looking at what stands there. -/
def placeOf (files : System) (path : Path) : Place :=
  (Path.resolve files.workingPath path).names.reverse

/-- Take away a place and everything below it. -/
def prune (files : System) (place : Place) : System :=
  { files with nodes := files.nodes.filter fun entry => !place.isSuffixOf entry.1 }

/-- Make a directory at a place and at every place above it. -/
def makeDirectory (files : System) : Place → System
  | [] => files
  | name :: above =>
      let files := makeDirectory files above
      match files.node? (name :: above) with
      | some .directory => files
      | _ => (files.prune (name :: above)).set (name :: above) .directory

/-- Put a file at a place, making the directories above it. -/
def placeFile (files : System) (place : Place) (node : Node) : System :=
  let files := makeDirectory files place.tail
  match files.node? place with
  | some .directory => (files.prune place).set place node
  | _ => files.set place node

/-- Whether a file that may be executed stands at a place. -/
def keepsExecutable (files : System) (place : Place) : Bool :=
  match files.node? place with
  | some (.file _ executable) => executable
  | _ => false

/-- Make one change. -/
def change (files : System) (path : Path) (content : Content) : System :=
  let place := files.placeOf path
  match content with
  | .bytes content => files.placeFile place (.file content (files.keepsExecutable place))
  | .program executable => files.placeFile place (.file ByteArray.empty executable)
  | .directory => files.makeDirectory place
  | .absent => files.prune place

/-- Make changes one after the other. -/
def changeAll (files : System) (changes : List (Path × Content)) : System :=
  changes.foldl (fun files (path, content) => files.change path content) files

/-- The names from one place to a place below it, joined by slashes. -/
def relativeName (base place : Place) : String :=
  "/".intercalate (place.take (place.length - base.length)).reverse

/-- Every file below a place, and every directory there that holds nothing. -/
def listing (files : System) (base : Place) : List (String × Node) :=
  files.nodes.filterMap fun (place, node) =>
    if base.isSuffixOf place && place != base then
      match node with
      | .file _ _ => some (relativeName base place, node)
      | .directory =>
          if files.nodes.any fun entry => entry.1.tail == place && entry.1 != [] then none
          else some (relativeName base place, node)
    else none

end System

end GuardedInstall.File
