import GuardedInstall.Text.Blank

/-!
# Package descriptors

A descriptor is a package name and a range joined by an at sign. A name may
start with an at sign of its own, so the first one from the second character on
divides. An alias names another package in its range; a range with a colon or a
slash points to something that no registry holds.
-/

namespace GuardedInstall.Lockfile

/-- The refusal of a text that is no descriptor. -/
structure DescriptorError where
  descriptor : String
  deriving DecidableEq, Repr

/-- The message of a refusal. -/
def DescriptorError.message (error : DescriptorError) : String :=
  s!"Malformed package descriptor `{error.descriptor}`"

/-- Drop white space, and then double quotes, from both ends. -/
def bare (text : List Char) : List Char :=
  Text.trimBoth (· == '"') (Text.trim text)

/-- Cut a text at its first at sign. -/
def cutAt : List Char → Option (List Char × List Char)
  | [] => none
  | c :: rest =>
      if c = '@' then some ([], rest)
      else (cutAt rest).map fun (name, range) => (c :: name, range)

/-- Cut a text at its first at sign from the second character on. -/
def cutName : List Char → Option (List Char × List Char)
  | [] => none
  | c :: rest => (cutAt rest).map fun (name, range) => (c :: name, range)

/-- The name and the range of a descriptor. -/
def splitDescriptor (descriptor : String) : Except DescriptorError (String × String) :=
  let text := bare descriptor.toList
  match cutName text with
  | some (name, range) => .ok (String.ofList name, String.ofList range)
  | none => .error ⟨String.ofList text⟩

/-- What stands before a range that is resolved by the registry. -/
def npmProtocol : List Char := "npm:".toList

/-- What follows the protocol of a range. -/
def afterProtocol? (range : String) : Option (List Char) :=
  let range := range.toList
  if npmProtocol.isPrefixOf range then some (range.drop npmProtocol.length) else none

/-- Whether a range points outside of the registry. -/
def isForeign (range : String) : Bool :=
  range.toList.any fun c => c == ':' || c == '/'

/-- A name, unless its range points outside of the registry. -/
def nameUnlessForeign (name range : String) : Option String :=
  if isForeign range then none else some name

/-- The package that the registry resolves a descriptor to. -/
def registryName (descriptor : String) : Except DescriptorError (Option String) := do
  let (name, range) ← splitDescriptor descriptor
  match afterProtocol? range with
  | none => pure (nameUnlessForeign name range)
  | some target =>
      if (cutName target).isNone then
        pure (if target = [] then none else some (String.ofList target))
      else do
        let (name, range) ← splitDescriptor (String.ofList target)
        pure (nameUnlessForeign name range)

end GuardedInstall.Lockfile
