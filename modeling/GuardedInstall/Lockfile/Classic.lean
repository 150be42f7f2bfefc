import GuardedInstall.Lockfile.Dependency
import GuardedInstall.Lockfile.Descriptor
import GuardedInstall.Text.Lines

/-!
# Classic lockfiles

A classic lockfile is read line by line. An unindented line opens an entry with
the descriptors that it resolves; its first descriptor gives the package. The
version is the field of that name with two blanks in front. Blank lines and
comments are passed over, and so is every line that is neither.
-/

namespace GuardedInstall.Lockfile.Classic

/-- The line that tells a classic lockfile. -/
def headerLine : List Char := "# yarn lockfile v1".toList

/-- Whether the line that tells a classic lockfile is among the first five. -/
def isClassic (text : List Char) : Bool :=
  ((Text.lines text).take 5).contains headerLine

/-- Why a classic lockfile is refused. -/
inductive Error where
  | header (line : String)
  | descriptor (error : DescriptorError)
  deriving DecidableEq, Repr

/-- What a line is for the reading. -/
inductive Line where
  | skipped
  | header (line : List Char)
  | field (line : List Char)
  deriving DecidableEq, Repr

/-- Whether a line is blank or a comment. -/
def isSkipped (line : List Char) : Bool :=
  match line.dropWhile Text.isBlank with
  | [] => true
  | c :: _ => c == '#'

/-- Tell what a line is. -/
def classify (line : List Char) : Line :=
  if isSkipped line then .skipped
  else
    match line with
    | c :: _ => if Text.isBlank c then .field line else .header line
    | [] => .skipped

/-- The first descriptor of an entry's line, without its colon and quotes. -/
def firstDescriptor (line : List Char) : String :=
  String.ofList (bare (line.dropLast.takeWhile (· != ',')))

/-- The package of an entry's line. -/
def headerName (line : List Char) : Except Error (Option String) :=
  if line.getLast? = some ':' then
    (registryName (firstDescriptor line)).mapError .descriptor
  else .error (.header (String.ofList line))

/-- Whether a character may stand in a version. -/
def isVersionChar (c : Char) : Bool :=
  c != '"' && !Text.isBlank c

/-- The version after its blanks, with or without quotes. Nothing but white
space may follow it. -/
def versionValue? (text : List Char) : Option (List Char) :=
  let text := match text with
    | '"' :: rest => rest
    | _ => text
  let version := text.takeWhile isVersionChar
  let rest := match text.dropWhile isVersionChar with
    | '"' :: rest => rest
    | rest => rest
  if version ≠ [] ∧ rest.all Text.isBlank then some version else none

/-- The version that a line with white space in front gives. -/
def version? (line : List Char) : Option (List Char) :=
  let text := line.dropWhile Text.isBlank
  if "version".toList.isPrefixOf text then
    let rest := text.drop 7
    let rest := match rest with
      | ':' :: rest => rest
      | _ => rest
    match rest with
    | c :: _ =>
        if Text.isBlank c then versionValue? (rest.dropWhile Text.isBlank) else none
    | [] => none
  else none

/-- Whether a line has exactly two blanks in front of it. -/
def hasFieldIndent : List Char → Bool
  | ' ' :: ' ' :: c :: _ => c != ' '
  | [' ', ' '] => true
  | _ => false

/-- The version field of an entry. -/
def fieldVersion? (line : List Char) : Option String :=
  if hasFieldIndent line then (version? line).map String.ofList else none

/-- The dependencies of lines, given the package whose version is awaited. -/
def entries : Option String → List (List Char) → Except Error (List Dependency)
  | _, [] => .ok []
  | awaited, line :: rest =>
      match classify line with
      | .skipped => entries awaited rest
      | .header line => do entries (← headerName line) rest
      | .field line =>
          match awaited, fieldVersion? line with
          | some name, some version => do
              let later ← entries none rest
              pure ({ name, version } :: later)
          | _, _ => entries awaited rest

/-- The dependencies of a classic lockfile, in the order of their entries. -/
def dependencies (text : List Char) : Except Error (List Dependency) :=
  entries none (Text.lines text)

end GuardedInstall.Lockfile.Classic
