import GuardedInstall.File.Path
import GuardedInstall.Table
import GuardedInstall.Text.Half
import GuardedInstall.Text.Quoted

/-!
# The file system

A file system is a finite table of what stands where. A place is the list of
names from the innermost outwards; nothing stands below a file because a walk
towards a place passes through directories only. The operations are those of a
program that reads, writes and removes single files. Links are left out, and so
are permissions, but for the one to execute a file: whatever stands at a place may
be looked at, read, replaced and removed.
-/

namespace GuardedInstall.File

/-- The content of a file. -/
abbrev Bytes := ByteArray

instance : DecidableEq Bytes :=
  ByteArray.instDecidableEq

/-- A place in the file system: the names towards it, innermost first. -/
abbrev Place := List String

/-- What can stand at a place. -/
inductive Node where
  | directory
  | file (content : Bytes) (executable : Bool)
  deriving DecidableEq

/-- Why a file operation fails. -/
inductive Failure where
  | notFound
  | notADirectory
  | isADirectory
  | nameTooLong
  | nullByte
  /-- The path holds a half of a pair, which has no bytes. -/
  | half
  deriving DecidableEq, Repr

/-- The message of a failed operation on a path. -/
def Failure.message (failure : Failure) (path : String) : String :=
  let shown := Text.Quoted.literal path
  match failure with
  | .notFound => s!"[Errno 2] No such file or directory: {shown}"
  | .notADirectory => s!"[Errno 20] Not a directory: {shown}"
  | .isADirectory => s!"[Errno 21] Is a directory: {shown}"
  | .nameTooLong => s!"[Errno 36] File name too long: {shown}"
  | .nullByte => "embedded null byte"
  | .half => ""

/-- A file operation that failed, with the path that it was given. -/
structure AccessError where
  failure : Failure
  path : String
  deriving DecidableEq, Repr

/-- The message of a failed operation. -/
def AccessError.message (error : AccessError) : String :=
  error.failure.message error.path

/-- A file system as a table of places, seen from a working directory. -/
structure System where
  nodes : List (Place × Node)
  workingDirectory : Place

namespace System

/-- What stands at a place. The root is always a directory. -/
def node? (files : System) (place : Place) : Option Node :=
  if place = [] then some .directory else Table.find? place files.nodes

/-- Put a node at a place. -/
def set (files : System) (place : Place) (node : Node) : System :=
  { files with nodes := Table.put place node files.nodes }

/-- Take away what stands at a place. -/
def erase (files : System) (place : Place) : System :=
  { files with nodes := files.nodes.filter fun entry => entry.1 ≠ place }

/-- The working directory as a path. -/
def workingPath (files : System) : Path :=
  ⟨.root, files.workingDirectory.reverse⟩

/-- The greatest length of a name in bytes. -/
def nameLimit : Nat := 255

/-- The length in bytes that a whole path must stay below. -/
def pathLimit : Nat := 4096

/-- The number of bytes that a character of a path stands for. A half that has bytes
stands for a single one; any other character is written in UTF-8. -/
def byteCount (c : Char) : Nat :=
  if Text.Half.isHalf c then 1 else c.utf8Size

/-- The length of a name or of a path in bytes. -/
def byteLength (text : String) : Nat :=
  text.toList.foldr (fun c length => byteCount c + length) 0

@[simp]
theorem byteLength_append (text more : String) :
    byteLength (text ++ more) = byteLength text + byteLength more := by
  rw [byteLength, byteLength, String.toList_append, List.foldr_append]
  show text.toList.foldr _ (byteLength more) = _
  induction text.toList with
  | nil => exact (Nat.zero_add _).symm
  | cons c chars ih => rw [List.foldr_cons, List.foldr_cons, ih, Nat.add_assoc]

/-- The length of a name that repeats one character. -/
theorem byteLength_replicate (count : Nat) (c : Char) :
    byteLength (String.ofList (List.replicate count c)) = count * byteCount c := by
  rw [byteLength, String.toList_ofList]
  induction count with
  | zero => exact (Nat.zero_mul _).symm
  | succ count ih => rw [List.replicate_succ, List.foldr_cons, ih, Nat.succ_mul, Nat.add_comm]

/-- A byte that is no text is one byte of a name. -/
example : byteLength (String.ofList (List.replicate 64 (Text.Half.ofCode 0xDCFF))) = 64 := by
  decide +kernel

/-- Walk from a directory along names. Every name but the last must stand there
already. -/
def walk (files : System) : Place → List String → Except Failure Place
  | here, [] => .ok here
  | here, name :: rest =>
      if files.node? here ≠ some .directory then .error .notADirectory
      else if name = "." then walk files here rest
      else if name = ".." then walk files here.tail rest
      else if nameLimit < byteLength name then .error .nameTooLong
      else if rest ≠ [] ∧ files.node? (name :: here) = none then .error .notFound
      else walk files (name :: here) rest

/-- The names that a text walks along. A slash at the end asks for a
directory. -/
def walkNames (text : List Char) : List String :=
  let names := ((Text.pieces '/' text).filter (· ≠ [])).map String.ofList
  if text.getLast? = some '/' then names ++ ["."] else names

/-- Whether a character of a path has bytes. The second halves up to U+DCFF stand for
single bytes; the other halves have none. -/
def hasBytes (c : Char) : Bool :=
  match Text.Half.unit? c with
  | some unit => 0xDC80 ≤ unit && unit ≤ 0xDCFF
  | none => true

/-- What keeps a text from being looked up at all. -/
def obstacle? (text : String) : Option Failure :=
  if !text.toList.all hasBytes then some .half
  else if '\x00' ∈ text.toList then some .nullByte
  else none

/-- The place that a text names. -/
def locate (files : System) (text : String) : Except Failure Place :=
  if let some failure := obstacle? text then .error failure
  else if text = "" then .error .notFound
  else if pathLimit ≤ byteLength text then .error .nameTooLong
  else
    files.walk (if text.startsWith "/" then [] else files.workingDirectory)
      (walkNames text.toList)

/-- What stands at the end of a text. -/
def status (files : System) (text : String) : Except Failure Node := do
  match files.node? (← files.locate text) with
  | some node => pure node
  | none => throw .notFound

/-- Attach the path to a failure. -/
def access {α : Type} (path : Path) (result : Except Failure α) : Except AccessError α :=
  result.mapError fun failure => ⟨failure, path.toString⟩

/-- The absolute path without double dots that a path leads along. -/
def resolve (files : System) (path : Path) : Except AccessError Path :=
  match obstacle? path.toString with
  | some failure => .error ⟨failure, path.toString⟩
  | none => .ok (Path.resolve files.workingPath path)

/-- Whether something stands at a path. A path that is too long to be looked at
is a failure and not an absence. -/
def present (files : System) (path : Path) : Except AccessError Bool :=
  match files.status path.toString with
  | .ok _ => .ok true
  | .error .nameTooLong => .error ⟨.nameTooLong, path.toString⟩
  | .error _ => .ok false

/-- The content of a file. -/
def read (files : System) (path : Path) : Except AccessError Bytes :=
  access path do
    match ← files.status path.toString with
    | .file content _ => pure content
    | .directory => throw .isADirectory

/-- Replace the content of a file, creating it in its directory if it is
absent. -/
def write (files : System) (path : Path) (content : Bytes) : Except AccessError System :=
  access path do
    let place ← files.locate path.toString
    match files.node? place with
    | some .directory => throw .isADirectory
    | some (.file _ executable) => pure (files.set place (.file content executable))
    | none => pure (files.set place (.file content false))

/-- Remove a file. -/
def remove (files : System) (path : Path) : Except AccessError System :=
  access path do
    let place ← files.locate path.toString
    match files.node? place with
    | some .directory => throw .isADirectory
    | some (.file _ _) => pure (files.erase place)
    | none => throw .notFound

/-- Whether a text names a file that may be executed. -/
def isExecutable (files : System) (text : String) : Bool :=
  match files.status text with
  | .ok (.file _ executable) => executable
  | _ => false

end System

end GuardedInstall.File
