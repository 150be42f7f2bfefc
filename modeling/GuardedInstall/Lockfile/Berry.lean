import GuardedInstall.Lockfile.Dependency
import GuardedInstall.Lockfile.Descriptor
import GuardedInstall.Yaml.Node

/-!
# Lockfiles with a resolution for each entry

The newer kind of lockfile is a mapping of entries, each with the descriptor
that it was resolved to and a version. Entries that the registry does not hold
are passed over; an entry without its two fields refuses the whole file.
-/

namespace GuardedInstall.Lockfile.Berry

/-- Why a lockfile is refused. -/
inductive Error where
  | notAMapping
  | entryNotAMapping (key : String)
  | entryIncomplete (key : String)
  | descriptor (error : DescriptorError)
  deriving DecidableEq, Repr

/-- The entry that describes the file itself. -/
def metadataKey : String := "__metadata"

/-- The text at a key of an entry. -/
def textAt? (key : String) (entry : List (String × Yaml.Node)) : Option String :=
  match Table.find? key entry with
  | some (.scalar text) => some text
  | _ => none

/-- The dependency that an entry gives, if the registry holds it. -/
def entryDependency? (key : String) (entry : Yaml.Node) :
    Except Error (Option Dependency) :=
  match entry with
  | .mapping fields =>
      match textAt? "resolution" fields, textAt? "version" fields with
      | some resolution, some version =>
          if version = "" then .error (.entryIncomplete key)
          else
            match splitDescriptor resolution with
            | .ok (name, range) =>
                .ok ((afterProtocol? range).map fun _ => { name, version })
            | .error error => .error (.descriptor error)
      | _, _ => .error (.entryIncomplete key)
  | _ => .error (.entryNotAMapping key)

/-- The dependencies of entries, in their order. -/
def entries : List (String × Yaml.Node) → Except Error (List Dependency)
  | [] => .ok []
  | (key, entry) :: rest =>
      if key = metadataKey then entries rest
      else do
        let found ← entryDependency? key entry
        let later ← entries rest
        pure (found.toList ++ later)

/-- The dependencies of a document. One that holds nothing has none. -/
def dependencies : Option Yaml.Node → Except Error (List Dependency)
  | none => .ok []
  | some (.mapping content) => entries content
  | some _ => .error .notAMapping

end GuardedInstall.Lockfile.Berry
